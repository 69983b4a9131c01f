import ClusterMember.Agent.Log
import ClusterMember.Agent.Standing
import ClusterMember.Reply

/-! # Calls and who answers them

* `Request`, `Call`: what an agent sends, when, where to, and how long it waits.
* `Answer`: how a call can end.
* `Handling`: what becomes of a call, as decided by whoever receives it; `Handling.result` holds it
  to the call's time limit.
* `ControlPlane σ`: anything, with states in `σ`, that handles calls.
-/

namespace ClusterMember
set_option autoImplicit false

/-- The two messages of an agent. -/
inductive Request
  | register (workerId address cloudTag : String)
  | heartbeat (workerId : String)
deriving DecidableEq

namespace Request

/-- Whether a request asks for registration. -/
def isRegister : Request → Bool
  | register .. => true
  | heartbeat .. => false

end Request

/-- A call of the agent. -/
structure Call where
  /-- When the call is made, in milliseconds. -/
  time : Nat
  endpoint : String
  request : Request
  /-- How long the agent waits for an answer. -/
  limit : Duration
deriving DecidableEq

/-- How a call ends. -/
inductive Answer
  | reply (reply : Reply)
  | fault (fault : Fault)
  | crash (crash : Crash)
deriving DecidableEq

namespace Answer

/-- Whether a call was answered by a message. -/
def isReply : Answer → Bool
  | reply _ => true
  | fault _ | crash _ => false

end Answer

/-- What becomes of a call: an answer after `delay` milliseconds, or none ever. -/
structure Handling where
  delay : Nat := 0
  answer : Option Answer
  notices : List Notice := []

namespace Handling

/-- How long the caller waits, in milliseconds, and what it then takes for the answer. One that
comes exactly at the limit is in time. -/
def result (handling : Handling) (call : Call) : Nat × Answer :=
  match handling.answer with
  | some answer =>
    if handling.delay ≤ call.limit.millis then (handling.delay, answer)
    else (call.limit.millis, .fault (.timeout call.endpoint call.limit))
  | none => (call.limit.millis, .fault (.timeout call.endpoint call.limit))

theorem result_fst_le (handling : Handling) (call : Call) :
    (handling.result call).1 ≤ call.limit.millis := by
  unfold result
  split
  · split
    · assumption
    · exact Nat.le_refl _
  · exact Nat.le_refl _

end Handling

/-- Whatever handles an agent's calls. `unread` bounds how many more calls are handled in a way
that was laid down call by call; after that all calls of a kind are handled alike. -/
class ControlPlane (σ : Type) where
  handle : Call → σ → Handling × σ
  unread : σ → Nat

end ClusterMember
