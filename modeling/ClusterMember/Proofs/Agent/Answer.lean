import ClusterMember.Agent.Task

/-! # What an answer does to an agent

The two loops take their answers in separate places. Here both are described by what the answer
says, so that later proofs need not look into either of them.

* `Answer.accepts`, `Answer.leader?`: what an answer says to the caller.
* `Answer.count`, `Answer.missed`: what it does to the counters and to the missed heartbeats.
* `Agent.taskAfter`, `Agent.stateAfter`: where it leaves the task and the state.
* `Answer.registrationNotice?`, `Answer.beatNotice`, `Answer.sequel?`, `Agent.notices`: what is noted
  down of it.
* `Agent.answered`, `Agent.complete_eq_answered`: taking an answer does all this, and no more.
-/

namespace ClusterMember
set_option autoImplicit false

/-! ## What an answer says -/

/-- The answer of a control plane that agrees. -/
def Answer.accepts : Answer → Bool
  | .reply r => r.ok
  | .fault _ | .crash _ => false

/-- The leader that an answer names where it does not agree. -/
def Answer.leader? : Answer → Option String
  | .reply r => if r.ok = false ∧ r.leaderAddr ≠ "" then some r.leaderAddr else none
  | .fault _ | .crash _ => none

theorem Answer.leader?_of_accepts {answer : Answer} (h : answer.accepts = true) :
    answer.leader? = none := by
  cases answer with
  | reply reply =>
    have hok : reply.ok = true := h
    simp [leader?, hok]
  | fault => rfl
  | crash => rfl

theorem Answer.accepts_of_leader? {answer : Answer} {leader : String}
    (h : answer.leader? = some leader) : answer.accepts = false := by
  cases ha : answer.accepts with
  | false => rfl
  | true =>
    rw [leader?_of_accepts ha] at h
    exact absurd h (by simp)

def Loop.isRegistering : Loop → Bool
  | .registering => true
  | .beating _ => false

def Timings.limit (timings : Timings) : Loop → Duration
  | .registering => timings.registerTimeout
  | .beating _ => timings.heartbeatTimeout

/-- The counters once an answer is in. Other than by an attempt, they change by answers only. -/
def Answer.count (loop : Loop) (wallClock : Nat) (answer : Answer) (c : Counters) : Counters :=
  if answer.accepts then
    match loop with
    | .registering => c.countRegistration
    | .beating _ => c.countBeat wallClock
  else if answer.leader?.isSome then c.countRedirect
  else
    match loop, answer with
    | .registering, _ => c
    | .beating _, .reply _ => c.countRejectedBeat
    | .beating _, .fault _ => c.countFailedBeat
    | .beating _, .crash _ => c.countFailedBeat

/-- A registration that fails is counted where it was redirected. -/
theorem Answer.count_of_failure {answer : Answer} (h : answer.accepts = false) (wallClock : Nat)
    (c : Counters) :
    answer.count .registering wallClock c =
      if answer.leader?.isSome then c.countRedirect else c := by
  rw [count, if_neg (by simp [h])]

/-- How many heartbeats in a row are missed once an answer is in. -/
def Answer.missed (before : Nat) (answer : Answer) : Nat :=
  if answer.accepts then 0 else if answer.leader?.isSome then before else before + 1

/-! ## What is noted down of an answer -/

/-- Why a call came to nothing, in words. -/
def Answer.reason : Answer → String
  | .reply r => r.error
  | .fault f => f.message
  | .crash c => c.message

/-- How the end of a registration is put on record. A break-down of the client is not. -/
def Answer.registrationNotice? (called : String) (wait : Duration) : Answer → Option Notice
  | .reply r =>
    match r.verdict with
    | .accepted => some (.registered called)
    | .redirected leader => some (.registrationRedirected leader called)
    | .rejected reason => some (.retrying called (.rejected reason) wait)
  | .fault f => some (.retrying called f wait)
  | .crash _ => none

/-- How the end of a heartbeat is put on record. -/
def Answer.beatNotice (called : String) : Answer → Notice
  | .reply r =>
    match r.verdict with
    | .accepted => .beatAccepted called
    | .redirected leader => .beatRedirected leader called
    | .rejected reason => .beatRejected called reason
  | .fault f => .beatFailed called f
  | .crash c => .beatCrashed called c

/-- What else is noted down at the end of a heartbeat, if anything is. -/
def Answer.sequel? (missed : Nat) (answer : Answer) : Option Notice :=
  if answer.accepts then if 0 < missed then some (.recovered missed) else none
  else
    match answer.leader? with
    | some leader => some (.nextBeat leader)
    | none =>
      if (missed + 1) % 10 = 0 then some (.stillMissing (missed + 1) answer.reason) else none

/-- What is noted down of the answer to a call of a loop, the latest first. -/
def Answer.notices (loop : Loop) (called : String) (wait : Duration) (answer : Answer) :
    List Notice :=
  match loop with
  | .registering => (answer.registrationNotice? called wait).toList
  | .beating missed => (answer.sequel? missed).toList ++ [answer.beatNotice called]

namespace Agent
variable {σ : Type}

def stateAfter (loop : Loop) (answer : Answer) (a : Agent σ) : Lifecycle :=
  if loop.isRegistering ∧ answer.accepts ∧ a.state ≠ .stopped then .heartbeating else a.state

/-- Where the task is once the answer to a call of a loop is in. -/
def taskAfter (loop : Loop) (answer : Answer) (a : Agent σ) : Task :=
  match loop with
  | .registering =>
    if answer.accepts then if a.state = .stopped then .finished else .turn (.beating 0)
    else if answer.leader?.isSome then .turn .registering
    else
      match answer with
      | .crash crash => .crashed crash
      | .reply _ | .fault _ => .waiting .registering (a.now + a.timings.retryDelay.waited)
  | .beating missed =>
    .waiting (.beating (answer.missed missed)) (a.now + a.timings.heartbeatInterval.waited)

theorem taskAfter_of_accepts {a : Agent σ} {answer : Answer} (h : answer.accepts = true)
    (live : a.state ≠ .stopped) : a.taskAfter .registering answer = .turn (.beating 0) := by
  simp [taskAfter, h, live]

theorem taskAfter_of_redirect {a : Agent σ} {answer : Answer}
    (h : answer.leader?.isSome = true) : a.taskAfter .registering answer = .turn .registering := by
  obtain ⟨leader, hl⟩ := Option.isSome_iff_exists.1 h
  simp [taskAfter, Answer.accepts_of_leader? hl, hl]

theorem taskAfter_of_retry {a : Agent σ} {answer : Answer} (ha : answer.accepts = false)
    (hl : answer.leader? = none) (hc : ∀ cause, answer ≠ .crash cause) :
    a.taskAfter .registering answer =
      .waiting .registering (a.now + a.timings.retryDelay.waited) := by
  simp only [taskAfter, ha, hl, Bool.false_eq_true, if_false, Option.isSome_none]
  cases answer with
  | crash cause => exact absurd rfl (hc cause)
  | _ => rfl

/-- What is noted down once the answer to a call of a loop is in, the latest first. A registration
that makes the worker a member is followed by the first heartbeat. -/
def notices (loop : Loop) (called : String) (answer : Answer) (a : Agent σ) : List Notice :=
  (if loop.isRegistering ∧ answer.accepts ∧ a.state ≠ .stopped then
    [.beatsStarted a.endpoint a.timings.heartbeatInterval] else []) ++
  answer.notices loop called a.timings.retryDelay

/-! ## Taking an answer -/

theorem completeRegistration_eq (called : String) (answer : Answer) (a : Agent σ) :
    a.completeRegistration called answer =
      { a with
        endpoint := answer.leader?.getD a.endpoint
        state := a.stateAfter .registering answer
        counters := answer.count .registering a.wallClock a.counters
        task := a.taskAfter .registering answer
        history := (a.notices .registering called answer).map (Event.noticed a.now) ++
          a.history } := by
  cases answer with
  | reply reply =>
    cases hok : reply.ok with
    | true =>
      by_cases hs : a.state = .stopped
      · simp [completeRegistration, Reply.verdict_of_ok hok, enterHeartbeats, note, hs, hok,
          Answer.accepts, Answer.leader?, Answer.count, stateAfter, taskAfter, notices,
          Answer.notices, Answer.registrationNotice?]
      · simp [completeRegistration, Reply.verdict_of_ok hok, enterHeartbeats, note, hs, hok,
          Answer.accepts, Answer.leader?, Answer.count, stateAfter, taskAfter, Loop.isRegistering,
          notices, Answer.notices, Answer.registrationNotice?]
    | false =>
      by_cases hl : reply.leaderAddr = ""
      · simp [completeRegistration, Reply.verdict_of_refusal hok hl, retry, wait, note, hok, hl,
          Answer.accepts, Answer.leader?, Answer.count, stateAfter, taskAfter, notices,
          Answer.notices, Answer.registrationNotice?]
      · simp [completeRegistration, Reply.verdict_of_leader hok hl, follow, note, hok, hl,
          Answer.accepts, Answer.leader?, Answer.count, stateAfter, taskAfter, notices,
          Answer.notices, Answer.registrationNotice?]
  | fault fault => simp [completeRegistration, retry, wait, note, Answer.accepts, Answer.leader?,
      Answer.count, stateAfter, taskAfter, notices, Answer.notices, Answer.registrationNotice?]
  | crash crash => simp [completeRegistration, Answer.accepts, Answer.leader?, Answer.count,
      stateAfter, taskAfter, notices, Answer.notices, Answer.registrationNotice?]

theorem miss_eq (missed : Nat) (reason : String) (a : Agent σ) :
    a.miss missed reason =
      { a with
        task := .waiting (.beating (missed + 1)) (a.now + a.timings.heartbeatInterval.waited)
        history :=
          (if (missed + 1) % 10 = 0 then [Notice.stillMissing (missed + 1) reason] else []).map
            (Event.noticed a.now) ++ a.history } := by
  by_cases h : (missed + 1) % 10 = 0
  · simp [miss, h, wait, note]
  · simp [miss, h, wait]

/-- A heartbeat that did not land is counted, put on record and missed, for whatever reason. -/
theorem completeBeat_of_miss (called : String) (missed : Nat) {answer : Answer} (a : Agent σ)
    (ha : answer.accepts = false) (hl : answer.leader? = none) :
    a.completeBeat called missed answer =
      ({ a with counters := answer.count (.beating missed) a.wallClock a.counters }.note
        (answer.beatNotice called)).miss missed answer.reason := by
  cases answer with
  | reply reply =>
    have hok : reply.ok = false := ha
    have hleader : reply.leaderAddr = "" := by simpa [Answer.leader?, hok] using hl
    simp [completeBeat, hok, hleader, Answer.accepts, Answer.leader?, Answer.count,
      Answer.beatNotice, Answer.reason, Reply.verdict_of_refusal hok hleader]
  | fault => rfl
  | crash => rfl

theorem completeBeat_eq (called : String) (missed : Nat) (answer : Answer) (a : Agent σ) :
    a.completeBeat called missed answer =
      { a with
        endpoint := answer.leader?.getD a.endpoint
        counters := answer.count (.beating missed) a.wallClock a.counters
        task := a.taskAfter (.beating missed) answer
        history := (a.notices (.beating missed) called answer).map (Event.noticed a.now) ++
          a.history } := by
  have hnotices : a.notices (.beating missed) called answer =
      (answer.sequel? missed).toList ++ [answer.beatNotice called] := rfl
  rw [hnotices]
  by_cases hmiss : answer.accepts = false ∧ answer.leader? = none
  · obtain ⟨ha, hl⟩ := hmiss
    rw [completeBeat_of_miss called missed a ha hl, miss_eq]
    by_cases hm : (missed + 1) % 10 = 0
    · simp [note, hm, ha, hl, taskAfter, Answer.missed, Answer.sequel?]
    · simp [note, hm, ha, hl, taskAfter, Answer.missed, Answer.sequel?]
  · cases answer with
    | fault => exact absurd ⟨rfl, rfl⟩ hmiss
    | crash => exact absurd ⟨rfl, rfl⟩ hmiss
    | reply reply =>
      cases hok : reply.ok with
      | true =>
        by_cases hm : 0 < missed
        · simp [completeBeat, hm, wait, note, hok, Answer.accepts, Answer.leader?, Answer.count,
            Answer.missed, taskAfter, Answer.sequel?, Answer.beatNotice, Reply.verdict_of_ok hok]
        · simp [completeBeat, hm, wait, note, hok, Answer.accepts, Answer.leader?, Answer.count,
            Answer.missed, taskAfter, Answer.sequel?, Answer.beatNotice, Reply.verdict_of_ok hok]
      | false =>
        have hl : reply.leaderAddr ≠ "" := fun hl =>
          hmiss ⟨hok, by simp [Answer.leader?, hl]⟩
        simp [completeBeat, follow, wait, note, hok, hl, Answer.accepts, Answer.leader?,
          Answer.count, Answer.missed, taskAfter, Answer.sequel?, Answer.beatNotice,
          Reply.verdict_of_leader hok hl]

/-- An agent that has just taken the answer of a call and noted something down. -/
abbrev answered (loop : Loop) (pending : Pending) (notices : List Notice) (a : Agent σ) :
    Agent σ :=
  { a with
    endpoint := pending.answer.leader?.getD a.endpoint
    state := a.stateAfter loop pending.answer
    counters := pending.answer.count loop a.wallClock a.counters
    task := a.taskAfter loop pending.answer
    history := notices.map (Event.noticed a.now) ++
      .completed a.now pending.call pending.answer :: a.history }

theorem complete_eq_answered (loop : Loop) (pending : Pending) (a : Agent σ) :
    a.complete loop pending =
      a.answered loop pending (a.notices loop pending.call.endpoint pending.answer) := by
  cases loop with
  | registering => exact completeRegistration_eq pending.call.endpoint pending.answer _
  | beating missed => exact completeBeat_eq pending.call.endpoint missed pending.answer _

theorem complete_eq (loop : Loop) (pending : Pending) (a : Agent σ) :
    ∃ notices : List Notice, a.complete loop pending = a.answered loop pending notices :=
  ⟨_, complete_eq_answered loop pending a⟩

end Agent
end ClusterMember
