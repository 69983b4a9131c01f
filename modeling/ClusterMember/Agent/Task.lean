import ClusterMember.Agent.Basic

/-! # What the task does next

The task is given as single steps, each with one effect at one moment; it is blocked while a call is
in flight or a wait is not over.

* `Agent.placeCall`: make the call of a loop.
* `Agent.completeRegistration`, `Agent.completeBeat`: take the answer of a call.
* `Agent.step?`: the next step, if the task is not blocked.
-/

namespace ClusterMember
set_option autoImplicit false

namespace Agent
variable {σ : Type}

/-! ## Calls -/

def nextCall (loop : Loop) (a : Agent σ) : Call :=
  match loop with
  | .registering =>
    { time := a.now
      endpoint := a.endpoint
      request := .register a.identity.workerId a.identity.address a.identity.cloudTag
      limit := a.timings.registerTimeout }
  | .beating _ =>
    { time := a.now
      endpoint := a.endpoint
      request := .heartbeat a.identity.workerId
      limit := a.timings.heartbeatTimeout }

/-- Make the call of a loop. An attempt to register is counted when it is made. -/
def placeCall [ControlPlane σ] (loop : Loop) (a : Agent σ) : Agent σ :=
  let call := a.nextCall loop
  let (handling, plane) := ControlPlane.handle call a.plane
  let (span, answer) := handling.result call
  { a with
    plane
    counters := match loop with
      | .registering => a.counters.countAttempt
      | .beating _ => a.counters
    task := .calling loop ⟨call, a.now + span, answer⟩
    history := (handling.notices.map (Event.noticed a.now)).reverse ++ .called call :: a.history }

def wait (loop : Loop) (a : Agent σ) : Agent σ :=
  let period := match loop with
    | .registering => a.timings.retryDelay
    | .beating _ => a.timings.heartbeatInterval
  { a with task := .waiting loop (a.now + period.waited) }

/-! ## Answers -/

/-- Try a registration again after a fault. -/
def retry (called : String) (fault : Fault) (a : Agent σ) : Agent σ :=
  (a.note (.retrying called fault a.timings.retryDelay)).wait .registering

def follow (leader : String) (a : Agent σ) : Agent σ :=
  { a with endpoint := leader, counters := a.counters.countRedirect }

/-- The worker is a member: go on to heartbeats, unless the agent was stopped meanwhile. -/
def enterHeartbeats (a : Agent σ) : Agent σ :=
  if a.state = .stopped then { a with task := .finished }
  else
    { a with state := .heartbeating, task := .turn (.beating 0) }.note
      (.beatsStarted a.endpoint a.timings.heartbeatInterval)

/-- Take the answer to a registration. A redirect is followed at once, a crash ends the task, and
everything else that is not agreement is tried again after a wait. -/
def completeRegistration (called : String) (answer : Answer) (a : Agent σ) : Agent σ :=
  match answer with
  | .reply reply =>
    match reply.verdict with
    | .accepted =>
      let a := a.note (.registered called)
      { a with counters := a.counters.countRegistration }.enterHeartbeats
    | .redirected leader =>
      { (a.note (.registrationRedirected leader called)).follow leader with
        task := .turn .registering }
    | .rejected reason => a.retry called (.rejected reason)
  | .fault fault => a.retry called fault
  | .crash crash => { a with task := .crashed crash }

/-- A heartbeat did not land; every tenth in a row is reported. -/
def miss (missed : Nat) (reason : String) (a : Agent σ) : Agent σ :=
  let missed := missed + 1
  let a := if missed % 10 = 0 then a.note (.stillMissing missed reason) else a
  a.wait (.beating missed)

/-- Take the answer to a heartbeat. Whatever it is, the next one is sent after a wait. The fields of a
reply are read here, not its verdict. -/
def completeBeat (called : String) (missed : Nat) (answer : Answer) (a : Agent σ) : Agent σ :=
  match answer with
  | .reply reply =>
    if reply.ok then
      let a := { a with counters := a.counters.countBeat a.wallClock }.note (.beatAccepted called)
      let a := if 0 < missed then a.note (.recovered missed) else a
      a.wait (.beating 0)
    else if reply.leaderAddr ≠ "" then
      (((a.note (.beatRedirected reply.leaderAddr called)).follow reply.leaderAddr).note
        (.nextBeat reply.leaderAddr)).wait (.beating missed)
    else
      ({ a with counters := a.counters.countRejectedBeat }.note
        (.beatRejected called reply.error)).miss missed reply.error
  | .fault fault =>
    ({ a with counters := a.counters.countFailedBeat }.note (.beatFailed called fault)).miss
      missed fault.message
  | .crash crash =>
    ({ a with counters := a.counters.countFailedBeat }.note (.beatCrashed called crash)).miss
      missed crash.message

def complete (loop : Loop) (pending : Pending) (a : Agent σ) : Agent σ :=
  let called := pending.call.endpoint
  let a := { a with history := .completed a.now pending.call pending.answer :: a.history }
  match loop with
  | .registering => a.completeRegistration called pending.answer
  | .beating missed => a.completeBeat called missed pending.answer

/-! ## Steps -/

/-- The first step of the task. -/
def begin (a : Agent σ) : Agent σ :=
  if a.state = .stopped then { a with task := .finished }
  else { a with state := .registering, task := .turn .registering }.note (.starting a.endpoint)

def leave (loop : Loop) (a : Agent σ) : Agent σ :=
  match loop with
  | .registering => { a with task := .finished }
  | .beating _ => { a with task := .finished }.note .beatsEnded

/-- The next step of the task at the present moment; `none` while it is blocked or when it is not
running. The stop signal is looked at before every call and ends every wait. -/
def step? [ControlPlane σ] (a : Agent σ) : Option (Agent σ) :=
  match a.task with
  | .absent | .finished | .crashed _ => none
  | .ready => some a.begin
  | .turn loop => some (if a.state = .stopped then a.leave loop else a.placeCall loop)
  | .calling loop pending => if pending.due ≤ a.now then some (a.complete loop pending) else none
  | .waiting loop wake =>
    if a.state = .stopped then some (a.leave loop)
    else if wake ≤ a.now then some { a with task := .turn loop }
    else none

def nextDue (a : Agent σ) : Option Nat :=
  match a.task with
  | .calling _ pending => some pending.due
  | .waiting _ wake => some wake
  | .absent | .ready | .turn _ | .finished | .crashed _ => none

end Agent
end ClusterMember
