import ClusterMember.Agent.ControlPlane

/-! # A control plane that follows a script

* `Step`: what is done with one call: wait, then act.
* `Script`: the steps still to be taken, for each kind of call, and the step for every call after
  them.
-/

namespace ClusterMember
set_option autoImplicit false

/-- What a script does with a call. -/
inductive Act
  | reply (reply : Reply)
  | fail (fault : Fault)
  /-- Fail with a fault that names the endpoint that was called. -/
  | failHere (fault : Fault)
  | crash (crash : Crash)
  | hang
deriving DecidableEq

/-- One step of a script: an act after `delay` milliseconds. -/
structure Step where
  delay : Nat := 0
  act : Act := .reply .accept
deriving DecidableEq, Inhabited

namespace Step

/-- What the step makes of a call to `endpoint`. Its delay is a pause, so there is a longest one. -/
def handling (endpoint : String) (step : Step) : Handling where
  delay := min step.delay Duration.longestWait
  answer := match step.act with
    | .reply reply => some (.reply reply)
    | .fail fault => some (.fault fault)
    | .failHere fault => some (.fault (fault.relocate endpoint))
    | .crash crash => some (.crash crash)
    | .hang => none

end Step

/-- The steps for calls to come. -/
structure Script where
  register : List Step := []
  heartbeat : List Step := []
  registerDefault : Step := {}
  heartbeatDefault : Step := {}
deriving DecidableEq

namespace Script

/-- The step for the next call of a kind, and the script after it. -/
def next (request : Request) (script : Script) : Step × Script :=
  match request with
  | .register .. =>
    match script.register with
    | [] => (script.registerDefault, script)
    | step :: rest => (step, { script with register := rest })
  | .heartbeat .. =>
    match script.heartbeat with
    | [] => (script.heartbeatDefault, script)
    | step :: rest => (step, { script with heartbeat := rest })

instance : ControlPlane Script where
  handle call script :=
    let (step, rest) := script.next call.request
    (step.handling call.endpoint, rest)
  unread script := script.register.length + script.heartbeat.length

end Script
end ClusterMember
