import ClusterMember.Agent.Run
import ClusterMember.Http.Page

/-! # A session with an agent

A session is a sequence of things done to an agent: by its owner, by the clock, and by those who
look at its pages. After each of them the task does all it can, unless it is held back.

* `Command`: what is done.
* `Agent.perform`: its result, and the agent after it.
* `Agent.after`: the agent after a whole session.
* `Report`, `Agent.session`: what can be seen after each command.
-/

namespace ClusterMember
set_option autoImplicit false

/-- What can be done to an agent. -/
inductive Action
  | start
  | stop
  | advance (millis : Nat)
  | http (request : Http.Request)
  | snapshot
deriving DecidableEq

/-- An action, and whether the task may then do all it can. -/
structure Command where
  action : Action
  settle : Bool := true
deriving DecidableEq

/-- What an action gives back. -/
inductive Outcome
  | nothing
  | started
  | refused (fault : Fault)
  | page (response : Option Http.Response)
deriving DecidableEq

/-- How far the task of an agent got. -/
inductive TaskStatus
  | none
  | running
  | finished
  | crashed (crash : Crash)
deriving DecidableEq

/-- What can be seen after a command. Calls and notices are those since the command before it. -/
structure Report where
  time : Nat
  outcome : Outcome
  standing : Standing
  task : TaskStatus
  calls : List Call
  notices : List (Nat × Notice)
deriving DecidableEq

namespace Task

def status : Task → TaskStatus
  | absent => .none
  | ready | turn _ | calling .. | waiting .. => .running
  | finished => .finished
  | crashed crash => .crashed crash

end Task

namespace Event

/-- The call that an event tells of, if it is one being made. -/
def call? : Event → Option Call
  | called call => some call
  | completed .. | noticed .. => none

def notice? : Event → Option (Nat × Notice)
  | noticed time notice => some (time, notice)
  | called .. | completed .. => none

end Event

namespace Agent
variable {σ : Type} [ControlPlane σ]

def act (action : Action) (a : Agent σ) : Outcome × Agent σ :=
  match action with
  | .start =>
    match a.start? with
    | .ok b => (.started, b)
    | .error fault => (.refused fault, a)
  | .stop => (.nothing, a.stop)
  | .advance millis => (.nothing, a.advance millis)
  | .http request => (.page ((Http.Site.ofStanding a.standing).respond? request), a)
  | .snapshot => (.nothing, a)

def perform (command : Command) (a : Agent σ) : Outcome × Agent σ :=
  let (outcome, b) := a.act command.action
  (outcome, if command.settle then b.settle else b)

/-- The agent after a whole session. -/
def after (commands : List Command) (a : Agent σ) : Agent σ :=
  commands.foldl (fun a command => (a.perform command).2) a

/-- What happened in `b` after the first `seen` events, the earliest first. -/
def eventsSince (seen : Nat) (b : Agent σ) : List Event :=
  (b.history.take (b.history.length - seen)).reverse

/-- What can be seen after a command that took the agent from `a` to `b`. -/
def report (a : Agent σ) (outcome : Outcome) (b : Agent σ) : Report where
  time := b.now
  outcome := outcome
  standing := b.standing
  task := b.task.status
  calls := (b.eventsSince a.history.length).filterMap Event.call?
  notices := (b.eventsSince a.history.length).filterMap Event.notice?

/-- The reports of a whole session. -/
def session : List Command → Agent σ → List Report
  | [], _ => []
  | command :: rest, a =>
    let (outcome, b) := a.perform command
    a.report outcome b :: session rest b

end Agent
end ClusterMember
