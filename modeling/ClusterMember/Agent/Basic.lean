import ClusterMember.Agent.ControlPlane
import ClusterMember.Agent.Standing
import ClusterMember.Duration

/-! # An agent and its task

An agent is what its owner holds; its task is what runs in the background once the agent is started.
The task first registers and then sends heartbeats, both to the endpoint that the agent believes to
be the leader's.

* `Loop`, `Task`: where the task is.
* `Event`: what happened in a run, and when.
* `Agent σ`: an agent whose calls are handled by a control plane with states in `σ`.
* `Agent.start?`, `Agent.stop`: what the owner can do.
-/

namespace ClusterMember
set_option autoImplicit false

/-- The two loops of the task. The second remembers how many heartbeats in a row were missed. -/
inductive Loop
  | registering
  | beating (missed : Nat)
deriving DecidableEq

/-- A call in flight, with the moment when it ends and the answer that it ends with. -/
structure Pending where
  call : Call
  due : Nat
  answer : Answer
deriving DecidableEq

/-- Where the task of an agent is. -/
inductive Task
  /-- The agent was not started. -/
  | absent
  /-- Started, but not run yet. -/
  | ready
  | turn (loop : Loop)
  | calling (loop : Loop) (pending : Pending)
  /-- Waiting until `wake` before the next turn. -/
  | waiting (loop : Loop) (wake : Nat)
  | finished
  | crashed (crash : Crash)
deriving DecidableEq

/-- What happened in a run. Times are in milliseconds. -/
inductive Event
  | called (call : Call)
  | completed (time : Nat) (call : Call) (answer : Answer)
  | noticed (time : Nat) (notice : Notice)
deriving DecidableEq

/-- An agent, its task and its surroundings. -/
structure Agent (σ : Type) where
  identity : Identity
  timings : Timings := {}
  /-- The wall clock at time 0, in Unix seconds. -/
  epoch : Int := 0
  /-- Who handles the calls. -/
  plane : σ
  /-- The time, in milliseconds. -/
  now : Nat := 0
  /-- The address currently believed to be the leader's. -/
  endpoint : String
  state : Lifecycle := .notStarted
  counters : Counters := {}
  task : Task := .absent
  /-- What happened so far, the latest first. -/
  history : List Event := []

namespace Agent
variable {σ : Type}

def standing (a : Agent σ) : Standing := ⟨a.identity, a.endpoint, a.state, a.counters⟩

def note (notice : Notice) (a : Agent σ) : Agent σ :=
  { a with history := .noticed a.now notice :: a.history }

/-- The wall clock in whole Unix seconds, 0 before 1970. -/
def wallClock (a : Agent σ) : Nat := (a.epoch + a.now / 1000).toNat

/-! ## The owner's side -/

/-- Bring the task into being. An agent is started once. -/
def start? (a : Agent σ) : Except Fault (Agent σ) :=
  if a.task = .absent then .ok { a with task := .ready } else .error .alreadyStarted

/-- Ask the agent to end. Asking again changes nothing. -/
def stop (a : Agent σ) : Agent σ :=
  if a.state = .stopped then a else { a with state := .stopped }.note (.stopped a.state)

end Agent
end ClusterMember
