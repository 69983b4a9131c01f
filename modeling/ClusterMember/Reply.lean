import ClusterMember.Duration
import ClusterMember.Text.Quoted

/-! # How a call can end

* `Reply`: the three fields that both calls are answered with.
* `Verdict`: what a reply amounts to, and `Reply.verdict`, which reads it off the fields.
* `Fault`: the causes of failure, with their wording in `Fault.message`.
* `Fault.isTransport`: whether the failure lies below what the control plane itself says.
* `Crash`: a client that breaks down in the middle of a call.
-/

namespace ClusterMember
set_option autoImplicit false

/-! ## What a control plane answers -/

/-- The answer to a registration or to a heartbeat. -/
structure Reply where
  ok : Bool := false
  /-- Where the leader is, when the node that answers is not it. -/
  leaderAddr : String := ""
  error : String := ""
deriving DecidableEq, Inhabited

/-- What a reply amounts to. -/
inductive Verdict
  | accepted
  | redirected (leader : String)
  | rejected (reason : String)
deriving DecidableEq, Inhabited

namespace Reply

def accept : Reply := ⟨true, "", ""⟩

def redirect (leader : String) : Reply := ⟨false, leader, ""⟩

def reject (reason : String) : Reply := ⟨false, "", reason⟩

/-- Agreement counts whatever else the reply holds; without it a leader's address is a redirect,
and a reply that names no leader is a refusal. -/
def verdict (reply : Reply) : Verdict :=
  if reply.ok then .accepted
  else if reply.leaderAddr ≠ "" then .redirected reply.leaderAddr
  else .rejected reply.error

theorem verdict_of_ok {reply : Reply} (h : reply.ok = true) : reply.verdict = .accepted := by
  simp [verdict, h]

theorem verdict_of_leader {reply : Reply} (h : reply.ok = false) (hl : reply.leaderAddr ≠ "") :
    reply.verdict = .redirected reply.leaderAddr := by
  simp [verdict, h, hl]

theorem verdict_of_refusal {reply : Reply} (h : reply.ok = false) (hl : reply.leaderAddr = "") :
    reply.verdict = .rejected reply.error := by
  simp [verdict, h, hl]

end Reply

/-! ## What can go wrong -/

/-- Why a call, or a start, failed. -/
inductive Fault
  /-- The endpoint could not be reached, or the call broke off below the protocol. -/
  | transport (endpoint reason : String)
  | timeout (endpoint : String) (limit : Duration)
  | invalidEndpoint (endpoint reason : String)
  | rejected (reason : String)
  /-- The agent was started before. -/
  | alreadyStarted
deriving DecidableEq, Inhabited

namespace Fault

def message : Fault → String
  | transport endpoint reason => "transport error talking to " ++ endpoint ++ ": " ++ reason
  | timeout endpoint limit => "call to " ++ endpoint ++ " timed out after " ++ limit.text
  | invalidEndpoint endpoint reason =>
    "invalid control plane endpoint " ++ Text.quoted endpoint ++ ": " ++ reason
  | rejected reason => "rejected by control plane: " ++ reason
  | alreadyStarted => "agent already started"

/-- Whether the failure happened below the protocol. -/
def isTransport : Fault → Bool
  | transport .. | timeout .. | invalidEndpoint .. => true
  | rejected .. | alreadyStarted => false

def relocate (endpoint : String) : Fault → Fault
  | transport _ reason => transport endpoint reason
  | timeout _ limit => timeout endpoint limit
  | invalidEndpoint _ reason => invalidEndpoint endpoint reason
  | rejected reason => rejected reason
  | alreadyStarted => alreadyStarted

end Fault

/-- A break-down inside the client, with the text it left behind, if it left one. -/
inductive Crash
  | withText (text : String)
  | withoutText
deriving DecidableEq, Inhabited

namespace Crash

def message : Crash → String
  | withText text => text
  | withoutText => "panic in control plane client"

end Crash
end ClusterMember
