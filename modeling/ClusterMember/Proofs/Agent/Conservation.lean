import ClusterMember.Proofs.Agent.Phase

/-! # Every call is accounted for

The two loops count in eight places, some before a call and some after it. Held against the history
of a run, the counters neither lose a call nor count one twice.

* `Answer.fails`, `Answer.crashes`: the other ways in which a call can end.
* `Event.endCount`: how many calls of a kind ended in a given way.
* `Task.openRegistrations`, `Task.openBeats`: the calls that are counted in no other way.
* `Event.lastBeatAt`: the wall clock at the last accepted heartbeat.
* `Agent.Balanced`, `Agent.Reaches.balanced`: the counters balance with the history along every run.
* `Counters.Grown`, `Agent.Reaches.grown`: no counter ever goes back.
* `Agent.counters_account_for_calls`: both, for every session.
-/

namespace ClusterMember
set_option autoImplicit false

namespace Answer

/-- A refusal that names no leader, or a fault: nothing is gained by the call. -/
def fails : Answer → Bool
  | reply r => !r.ok && r.leaderAddr == ""
  | fault _ => true
  | crash _ => false

def crashes : Answer → Bool
  | crash _ => true
  | reply _ | fault _ => false

/-- A call ends in exactly one of four ways. -/
theorem ends_once (answer : Answer) :
    (if answer.accepts then 1 else 0) + (if answer.leader?.isSome then 1 else 0) +
      (if answer.fails then 1 else 0) + (if answer.crashes then 1 else 0) = 1 := by
  cases answer with
  | reply reply =>
    obtain ⟨ok, leader, error⟩ := reply
    cases ok with
    | true => simp [accepts, leader?, fails, crashes]
    | false => by_cases h : leader = "" <;> simp [accepts, leader?, fails, crashes, h]
  | fault => simp [accepts, leader?, fails, crashes]
  | crash => simp [accepts, leader?, fails, crashes]

end Answer

namespace Event

/-- Whether a call of a kind ended in a given way. -/
def isEnd (register : Bool) (way : Answer → Bool) : Event → Bool
  | completed _ call answer => (call.request.isRegister == register) && way answer
  | called _ | noticed .. => false

/-- How many calls of a kind ended in a given way. -/
def endCount (register : Bool) (way : Answer → Bool) (history : List Event) : Nat :=
  history.countP (isEnd register way)

@[simp] theorem endCount_noticed (register : Bool) (way : Answer → Bool) (time : Nat)
    (notices : List Notice) (earlier : List Event) :
    endCount register way (notices.map (noticed time) ++ earlier) =
      endCount register way earlier := by
  induction notices with
  | nil => rfl
  | cons notice rest ih => exact ih

@[simp] theorem endCount_called (register : Bool) (way : Answer → Bool) (call : Call)
    (earlier : List Event) :
    endCount register way (called call :: earlier) = endCount register way earlier := rfl

theorem endCount_completed (register : Bool) (way : Answer → Bool) (time : Nat) (call : Call)
    (answer : Answer) (earlier : List Event) :
    endCount register way (completed time call answer :: earlier) =
      endCount register way earlier +
        if call.request.isRegister = register ∧ way answer = true then 1 else 0 := by
  simp [endCount, List.countP_cons, isEnd]

/-- The wall clock, in whole seconds, when the last accepted heartbeat was answered; 0 before 1970,
and if none was. -/
def lastBeatAt (epoch : Int) : List Event → Nat
  | [] => 0
  | completed time call answer :: earlier =>
    if call.request.isRegister = false ∧ answer.accepts = true then (epoch + time / 1000).toNat
    else lastBeatAt epoch earlier
  | called _ :: earlier => lastBeatAt epoch earlier
  | noticed .. :: earlier => lastBeatAt epoch earlier

@[simp] theorem lastBeatAt_noticed (epoch : Int) (time : Nat) (notices : List Notice)
    (earlier : List Event) :
    lastBeatAt epoch (notices.map (noticed time) ++ earlier) = lastBeatAt epoch earlier := by
  induction notices with
  | nil => rfl
  | cons notice rest ih => exact ih

theorem lastBeatAt_le {epoch : Int} {now : Nat} {history : List Event}
    (past : ∀ e ∈ history, e.time ≤ now) : lastBeatAt epoch history ≤ (epoch + now / 1000).toNat := by
  induction history with
  | nil => exact Nat.zero_le _
  | cons e earlier ih =>
    obtain ⟨he, hearlier⟩ := List.forall_mem_cons.1 past
    have hrest := ih hearlier
    cases e with
    | called => exact hrest
    | noticed => exact hrest
    | completed time call answer =>
      have htime : time ≤ now := he
      unfold lastBeatAt
      split
      · omega
      · exact hrest

end Event

/-- The registration that is in flight, or that broke the task off. -/
def Task.openRegistrations : Task → Nat
  | calling .registering _ | crashed _ => 1
  | calling (.beating _) _ | absent | ready | turn _ | waiting .. | finished => 0

/-- The heartbeat that is in flight. -/
def Task.openBeats : Task → Nat
  | calling (.beating _) _ => 1
  | calling .registering _ | crashed _ | absent | ready | turn _ | waiting .. | finished => 0

/-- No total went back. -/
structure Counters.Grown (before after : Counters) : Prop where
  registrationAttempts : before.registrationAttempts ≤ after.registrationAttempts
  registrations : before.registrations ≤ after.registrations
  redirects : before.redirects ≤ after.redirects
  heartbeatsOk : before.heartbeatsOk ≤ after.heartbeatsOk
  heartbeatsRejected : before.heartbeatsRejected ≤ after.heartbeatsRejected
  heartbeatsFailed : before.heartbeatsFailed ≤ after.heartbeatsFailed
  lastHeartbeatEpoch : before.lastHeartbeatEpoch ≤ after.lastHeartbeatEpoch

namespace Counters.Grown

theorem refl (c : Counters) : Grown c c := by
  constructor <;> exact Nat.le_refl _

theorem trans {a b c : Counters} (h : Grown a b) (h' : Grown b c) : Grown a c where
  registrationAttempts := Nat.le_trans h.registrationAttempts h'.registrationAttempts
  registrations := Nat.le_trans h.registrations h'.registrations
  redirects := Nat.le_trans h.redirects h'.redirects
  heartbeatsOk := Nat.le_trans h.heartbeatsOk h'.heartbeatsOk
  heartbeatsRejected := Nat.le_trans h.heartbeatsRejected h'.heartbeatsRejected
  heartbeatsFailed := Nat.le_trans h.heartbeatsFailed h'.heartbeatsFailed
  lastHeartbeatEpoch := Nat.le_trans h.lastHeartbeatEpoch h'.lastHeartbeatEpoch

end Counters.Grown

/-! ## What an answer adds -/

namespace Answer

/-- What the answer to a registration adds to the counters. -/
theorem count_registering (wallClock : Nat) (answer : Answer) (c : Counters) :
    answer.count .registering wallClock c =
      { c with
        registrations := c.registrations + if answer.accepts then 1 else 0
        redirects := c.redirects + if answer.leader?.isSome then 1 else 0 } := by
  cases ha : answer.accepts with
  | true =>
    rw [count, if_pos ha, leader?_of_accepts ha]
    rfl
  | false =>
    rw [count_of_failure ha]
    cases answer.leader? <;> rfl

/-- What the answer to a heartbeat adds to the counters, but for its time. -/
theorem count_beating (missed wallClock : Nat) (answer : Answer) (c : Counters) :
    let d := answer.count (.beating missed) wallClock c
    d.registrationAttempts = c.registrationAttempts ∧ d.registrations = c.registrations ∧
    d.heartbeatsOk = c.heartbeatsOk + (if answer.accepts then 1 else 0) ∧
    d.redirects = c.redirects + (if answer.leader?.isSome then 1 else 0) ∧
    d.heartbeatsRejected + d.heartbeatsFailed =
      c.heartbeatsRejected + c.heartbeatsFailed + (if answer.fails then 1 else 0) +
        (if answer.crashes then 1 else 0) ∧
    d.lastHeartbeatEpoch = if answer.accepts then wallClock else c.lastHeartbeatEpoch := by
  cases answer with
  | reply reply =>
    obtain ⟨ok, leader, error⟩ := reply
    cases ok with
    | true => simp [count, Counters.countBeat, accepts, leader?, fails, crashes]
    | false =>
      by_cases h : leader = ""
      · simp [count, Counters.countRejectedBeat, accepts, leader?, fails, crashes, h]
        omega
      · simp [count, Counters.countRedirect, accepts, leader?, fails, crashes, h]
  | fault => simp [count, Counters.countFailedBeat, accepts, leader?, fails, crashes, Nat.add_assoc]
  | crash => simp [count, Counters.countFailedBeat, accepts, leader?, fails, crashes, Nat.add_assoc]

theorem grown_count {wallClock : Nat} {c : Counters} (past : c.lastHeartbeatEpoch ≤ wallClock)
    (loop : Loop) (answer : Answer) : c.Grown (answer.count loop wallClock c) := by
  have same := Counters.Grown.refl c
  unfold count
  split
  · cases loop with
    | registering => exact { same with registrations := Nat.le_succ _ }
    | beating => exact { same with heartbeatsOk := Nat.le_succ _, lastHeartbeatEpoch := past }
  · split
    · exact { same with redirects := Nat.le_succ _ }
    · split
      · exact same
      · exact { same with heartbeatsRejected := Nat.le_succ _ }
      · exact { same with heartbeatsFailed := Nat.le_succ _ }
      · exact { same with heartbeatsFailed := Nat.le_succ _ }

end Answer

namespace Agent
variable {σ : Type} [ControlPlane σ]

omit [ControlPlane σ] in
/-- A registration that was answered stays open only where it broke the task off. -/
theorem openRegistrations_taskAfter (answer : Answer) (a : Agent σ) :
    (a.taskAfter .registering answer).openRegistrations = if answer.crashes then 1 else 0 := by
  simp only [taskAfter]
  cases answer with
  | reply reply =>
    split
    · split <;> rfl
    · split <;> rfl
  | fault => rfl
  | crash => rfl

/-- The counters balance with the history. -/
structure Balanced (a : Agent σ) : Prop where
  attempts : a.counters.registrationAttempts = Event.callCount true a.history
  registrations : Event.callCount true a.history =
    a.counters.registrations + Event.endCount true (·.leader?.isSome) a.history +
      Event.endCount true Answer.fails a.history + a.task.openRegistrations
  beats : Event.callCount false a.history =
    a.counters.heartbeatsOk + a.counters.heartbeatsRejected + a.counters.heartbeatsFailed +
      Event.endCount false (·.leader?.isSome) a.history + a.task.openBeats
  redirects : a.counters.redirects =
    Event.endCount true (·.leader?.isSome) a.history +
      Event.endCount false (·.leader?.isSome) a.history
  lastBeat : a.counters.lastHeartbeatEpoch = Event.lastBeatAt a.epoch a.history

omit [ControlPlane σ] in
theorem balanced_new (identity : Identity) (timings : Timings) (epoch : Int) (plane : σ)
    (endpoint : String) : (new identity timings epoch plane endpoint).Balanced := by
  constructor <;> rfl

/-! ## One move -/

omit [ControlPlane σ] in
/-- A move that neither makes nor ends a call. -/
theorem Balanced.of_same_calls {a b : Agent σ} (h : a.Balanced) (epoch : b.epoch = a.epoch)
    (counters : b.counters = a.counters) (time : Nat) (notices : List Notice)
    (history : b.history = notices.map (Event.noticed time) ++ a.history)
    (registrations : b.task.openRegistrations = a.task.openRegistrations)
    (beats : b.task.openBeats = a.task.openBeats) : b.Balanced := by
  constructor
  · rw [counters, history, Event.callCount_noticed, h.attempts]
  · rw [counters, history, registrations]
    simpa using h.registrations
  · rw [counters, history, beats]
    simpa using h.beats
  · rw [counters, history]
    simpa using h.redirects
  · rw [counters, history, epoch, Event.lastBeatAt_noticed, h.lastBeat]

theorem Balanced.call {a : Agent σ} {loop : Loop} (h : a.Balanced) (turn : a.task = .turn loop) :
    (a.called loop).Balanced := by
  have hattempts := h.attempts
  have hreg := h.registrations
  have hbeats := h.beats
  have hredirects := h.redirects
  have hlast := h.lastBeat
  rw [turn] at hreg hbeats
  cases loop with
  | registering =>
    refine ⟨?_, ?_, ?_, ?_, ?_⟩
    · simpa [Event.callCount_called, nextCall_isRegister, Loop.isRegistering,
        Counters.countAttempt] using hattempts
    · simpa [Event.callCount_called, nextCall_isRegister, Loop.isRegistering,
        Counters.countAttempt, Task.openRegistrations] using hreg
    · simpa [Event.callCount_called, nextCall_isRegister, Loop.isRegistering,
        Counters.countAttempt, Task.openBeats] using hbeats
    · simpa [Loop.isRegistering, Counters.countAttempt] using hredirects
    · simpa [Loop.isRegistering, Counters.countAttempt, Event.lastBeatAt] using hlast
  | beating missed =>
    refine ⟨?_, ?_, ?_, ?_, ?_⟩
    · simpa [Event.callCount_called, nextCall_isRegister, Loop.isRegistering] using hattempts
    · simpa [Event.callCount_called, nextCall_isRegister, Loop.isRegistering,
        Task.openRegistrations] using hreg
    · simpa [Event.callCount_called, nextCall_isRegister, Loop.isRegistering,
        Task.openBeats] using hbeats
    · simpa [Loop.isRegistering] using hredirects
    · simpa [Loop.isRegistering, Event.lastBeatAt] using hlast

omit [ControlPlane σ] in
/-- The answer to a registration is in. -/
theorem Balanced.answer_registering {a : Agent σ} {pending : Pending} (h : a.Balanced)
    (notices : List Notice) (calling : a.task = .calling .registering pending)
    (request : pending.call.request.isRegister = true) :
    (a.answered .registering pending notices).Balanced := by
  have hreg := h.registrations
  have hbeats := h.beats
  have hredirects := h.redirects
  rw [calling] at hreg hbeats
  have hopen := openRegistrations_taskAfter pending.answer a
  have hends := pending.answer.ends_once
  have hidle : (a.taskAfter .registering pending.answer).openBeats = 0 := by
    simp only [taskAfter]
    split
    · split <;> rfl
    · split
      · rfl
      · split <;> rfl
  refine ⟨?_, ?_, ?_, ?_, ?_⟩
  · simpa [Answer.count_registering] using h.attempts
  · simp only [Answer.count_registering, Event.callCount_noticed, Event.callCount_completed,
      Event.endCount_noticed, Event.endCount_completed, request, true_and, hopen]
    simp only [Task.openRegistrations] at hreg
    omega
  · simp only [Answer.count_registering, Event.callCount_noticed, Event.callCount_completed,
      Event.endCount_noticed, Event.endCount_completed, request, hidle]
    simpa [Task.openBeats] using hbeats
  · simp only [Answer.count_registering, Event.endCount_noticed, Event.endCount_completed, request,
      true_and, Bool.true_eq_false, false_and, if_false]
    omega
  · simpa [Answer.count_registering, Event.lastBeatAt, request] using h.lastBeat

omit [ControlPlane σ] in
/-- The answer to a heartbeat is in. -/
theorem Balanced.answer_beating {a : Agent σ} {missed : Nat} {pending : Pending} (h : a.Balanced)
    (notices : List Notice) (calling : a.task = .calling (.beating missed) pending)
    (request : pending.call.request.isRegister = false) :
    (a.answered (.beating missed) pending notices).Balanced := by
  have hreg := h.registrations
  have hbeats := h.beats
  have hredirects := h.redirects
  rw [calling] at hreg hbeats
  have hends := pending.answer.ends_once
  obtain ⟨attempts, registrations, ok, redirected, missedBeats, last⟩ :=
    pending.answer.count_beating missed a.wallClock a.counters
  refine ⟨?_, ?_, ?_, ?_, ?_⟩
  · rw [attempts, Event.callCount_noticed, Event.callCount_completed, h.attempts]
  · simp only [registrations, Event.callCount_noticed, Event.callCount_completed,
      Event.endCount_noticed, Event.endCount_completed, request]
    simpa [Task.openRegistrations, taskAfter] using hreg
  · simp only [Event.callCount_noticed, Event.callCount_completed, Event.endCount_noticed,
      Event.endCount_completed, request, true_and, taskAfter, Task.openBeats, ok] at hbeats ⊢
    omega
  · simp only [redirected, Event.endCount_noticed, Event.endCount_completed, request, true_and,
      Bool.false_eq_true, false_and, if_false]
    omega
  · rw [last, Event.lastBeatAt_noticed, Event.lastBeatAt, h.lastBeat]
    simp only [request, true_and]
    rfl

theorem Balanced.stride {a b : Agent σ} (h : a.Balanced) (hc : a.Coherent) (hs : Stride a b) :
    b.Balanced := by
  cases hs with
  | enter ready =>
    refine h.of_same_calls rfl rfl a.now [_] rfl ?_ ?_
    · rw [ready]
      rfl
    · rw [ready]
      rfl
  | call turn => exact h.call turn
  | @answer loop pending notices calling =>
    have hreq := (hc.inFlight _ _ calling).request
    cases loop with
    | registering => exact h.answer_registering notices calling hreq
    | beating missed => exact h.answer_beating notices calling hreq
  | wake waiting =>
    refine h.of_same_calls rfl rfl a.now [] rfl ?_ ?_
    · rw [waiting]
      rfl
    · rw [waiting]
      rfl
  | leave notices between =>
    refine h.of_same_calls rfl rfl a.now notices rfl ?_ ?_
    · revert between
      cases a.task <;> simp [Task.isBetweenCalls, Task.openRegistrations]
    · revert between
      cases a.task <;> simp [Task.isBetweenCalls, Task.openBeats]

theorem Balanced.change {a b : Agent σ} (h : a.Balanced) (hc : a.Coherent) (hs : Change a b) :
    b.Balanced := by
  cases hs with
  | start absent =>
    refine h.of_same_calls rfl rfl a.now [] rfl ?_ ?_
    · rw [absent]
      rfl
    · rw [absent]
      rfl
  | stop => exact h.of_same_calls rfl rfl a.now [_] rfl rfl rfl
  | again => exact h
  | step taken => exact h.stride hc taken
  | pass => exact h.of_same_calls rfl rfl a.now [] rfl rfl rfl

/-! ## A run -/

theorem Reaches.balanced {a b : Agent σ} (h : Reaches a b) (ha : a.Balanced) (hc : a.Coherent) :
    b.Balanced := by
  refine h.keeps ha fun hab hm hb => ?_
  exact hb.change (hab.coherent hc) hm.change

theorem Balanced.grown {a b : Agent σ} (h : a.Balanced) (hc : a.Coherent) (hs : Change a b) :
    a.counters.Grown b.counters := by
  have same := Counters.Grown.refl a.counters
  cases hs with
  | step taken =>
    cases taken with
    | @call loop =>
      cases loop with
      | registering => exact { same with registrationAttempts := Nat.le_succ _ }
      | beating => exact same
    | @answer loop pending =>
      have past : a.counters.lastHeartbeatEpoch ≤ a.wallClock := by
        rw [h.lastBeat]
        exact Event.lastBeatAt_le hc.past
      exact Answer.grown_count past loop pending.answer
    | _ => exact same
  | _ => exact same

theorem Reaches.grown {a b : Agent σ} (h : Reaches a b) (ha : a.Balanced) (hc : a.Coherent) :
    a.counters.Grown b.counters := by
  refine h.keeps (Counters.Grown.refl _) fun {b c} hab hm hb => ?_
  have hstep : b.counters.Grown c.counters := (hab.balanced ha hc).grown (hab.coherent hc) hm.change
  exact hb.trans hstep

/-- The counters of an agent in any session, held against its history. Each registration was
accepted, redirected or in vain, or is the one that is open; each heartbeat was counted in one of
four ways or is in flight. No counter ever goes back, nor does the time of the last accepted
heartbeat. -/
theorem counters_account_for_calls (identity : Identity) (timings : Timings) (epoch : Int)
    (plane : σ) (home : String) (before rest : List Command) :
    let a := (new identity timings epoch plane home).after before
    let b := a.after rest
    b.counters.registrationAttempts = Event.callCount true b.history ∧
    b.counters.registrationAttempts =
      b.counters.registrations + Event.endCount true (·.leader?.isSome) b.history +
        Event.endCount true Answer.fails b.history + b.task.openRegistrations ∧
    Event.callCount false b.history =
      b.counters.heartbeatsOk + b.counters.heartbeatsRejected + b.counters.heartbeatsFailed +
        Event.endCount false (·.leader?.isSome) b.history + b.task.openBeats ∧
    b.counters.redirects =
      Event.endCount true (·.leader?.isSome) b.history +
        Event.endCount false (·.leader?.isSome) b.history ∧
    b.counters.lastHeartbeatEpoch = Event.lastBeatAt epoch b.history ∧
    a.counters.Grown b.counters := by
  intro a b
  let fresh := new identity timings epoch plane home
  have hc : fresh.Coherent := coherent_new identity timings epoch plane home
  have hbal : fresh.Balanced := balanced_new identity timings epoch plane home
  have hfa : Reaches fresh a := reaches_after before fresh
  have hab : Reaches a b := reaches_after rest a
  have hb : b.Balanced := (hfa.trans hab).balanced hbal hc
  have hepoch : b.epoch = epoch := (hfa.trans hab).epoch_eq
  have hlast := hb.lastBeat
  rw [hepoch] at hlast
  refine ⟨hb.attempts, hb.attempts.trans hb.registrations, hb.beats, hb.redirects, hlast, ?_⟩
  exact hab.grown (hfa.balanced hbal hc) (hfa.coherent hc)

end Agent
end ClusterMember
