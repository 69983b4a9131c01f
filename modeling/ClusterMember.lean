import ClusterMember.Agent.Script
import ClusterMember.Json
import ClusterMember.Main
import ClusterMember.Proofs.Agent.Heartbeats
import ClusterMember.Proofs.Agent.Liveness
import ClusterMember.Proofs.Network.Reuse
import ClusterMember.Proofs.Wire.RoundTrip
import ClusterMember.Proofs.Agent.Rest
import ClusterMember.Proofs.Agent.Timeline
import ClusterMember.Proofs.Agent.Observing
import ClusterMember.Proofs.Agent.Lockstep
import ClusterMember.Proofs.Agent.Indifference
import ClusterMember.Proofs.Network.Oracle
import ClusterMember.Proofs.Network.Refinement
import ClusterMember.Proofs.Agent.MissedBeats
import ClusterMember.Proofs.Http.Pages
import ClusterMember.Proofs.Exposition
import ClusterMember.Proofs.Agent.Instant
import ClusterMember.Proofs.Toml.Lines
import ClusterMember.Proofs.TimingFile
import ClusterMember.Proofs.Wire.Compatibility
import ClusterMember.Proofs.Endpoint
import ClusterMember.Proofs.CommandLine
