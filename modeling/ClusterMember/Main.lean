import ClusterMember.Agent.Session
import ClusterMember.CommandLine.Resolve
import ClusterMember.Network.Channel
import ClusterMember.TimingFile

/-! # The command line

Starts a worker and answers requests to its pages, one for each line of the input, written as a
method and an address. No node of the control plane can be reached from here, so that an agent keeps
trying to register; what it notes down goes to the error output.
-/

namespace ClusterMember.Worker
set_option autoImplicit false

open CommandLine

/-- The values of the environment variables that stand for parameters. -/
def environment : IO (String → Option String) := do
  let values ← Parameter.all.mapM fun parameter => do
    return (parameter.envName, ← IO.getEnv parameter.envName)
  return fun name => (values.lookup name).join

def timings (config : Option String) : IO (Except TimingFile.Error TimingFile) :=
  match config with
  | none => return .ok {}
  | some path => do
    try
      return TimingFile.read (some (← IO.FS.readBinFile path))
    catch
      | .noFileOrDirectory .. => return TimingFile.read none
      | e => throw e

/-- Let the agent run for as long as it took since `began`. -/
def run (began : Nat) (a : Agent Channel) : IO (Agent Channel) := do
  let elapsed := (← IO.monoMsNow) - began
  return (a.perform ⟨.advance (elapsed - a.now), true⟩).2

/-- Write down what the agent noted after the first `seen` events. -/
def log (format : LogFormat) (seen : Nat) (a : Agent Channel) : IO Unit :=
  for event in a.eventsSince seen do
    if let some (_, notice) := event.notice? then
      IO.eprintln (notice.line format a.identity.workerId)

def answer (response : Option Http.Response) : IO Unit := do
  match response with
  | none => IO.println "bad request line"
  | some response =>
    IO.println (Nat.repr response.status)
    for (name, value) in response.headers do
      IO.println (name ++ ": " ++ value)
    IO.println ""
    IO.println response.body

/-- Answer requests until the input ends. -/
partial def serve (options : Options) (site : Http.Site) (began : Nat)
    (agent : Option (Agent Channel)) : IO Unit := do
  let line ← (← IO.getStdin).getLine
  if line.isEmpty then return
  let request := Http.Request.ofLine line
  match agent with
  | none =>
    answer (site.respond? request)
    serve options site began none
  | some a =>
    let b ← run began a
    log options.logFormat a.history.length b
    answer ((Http.Site.ofStanding b.standing).respond? request)
    serve options site began (some b)

end ClusterMember.Worker

open ClusterMember ClusterMember.Worker ClusterMember.CommandLine in
/-- Start a worker. A command line that is refused ends it with 2, and a timing file with 1. -/
def main (arguments : List String) : IO UInt32 := do
  match resolve (← environment) arguments with
  | .error .displayHelp =>
    for parameter in Parameter.all do
      IO.println ("--" ++ parameter.option ++ " [env: " ++ parameter.envName ++ "]")
    return 0
  | .error e =>
    IO.eprintln e.message
    return 2
  | .ok options =>
    match ← timings options.config with
    | .error e =>
      IO.eprintln e.message
      return 1
    | .ok file =>
      let settings := options.settings file.timings
      let agent := (settings.agent? (⟨{ isolated := true }, none⟩ : Channel)).map fun a =>
        (a.perform ⟨.start, true⟩).2
      if let some a := agent then log options.logFormat 0 a
      serve options ⟨settings.workerId, settings.cloudTag, none⟩ (← IO.monoMsNow) agent
      return 0
