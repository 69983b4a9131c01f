import ClusterMember.Proofs.Agent.History
import ClusterMember.Proofs.Agent.Settle

/-! # The phases of a life

The task registers first and sends heartbeats afterwards. The state of an agent is written by the
task and by the owner; that it never goes back holds because the task itself only goes forward.

* `Task.stage`: the phase that a task is in, whatever the owner did.
* `Event.registrationCount`: how many registrations were accepted.
* `Agent.Phased`: the state, the task, the counters and the history are in the same phase.
* `Agent.Reaches.phased`, `Agent.Reaches.rank_le`: they are so along every run, and no run goes back.
* `Agent.life_runs_forward`: what this means for a session.
-/

namespace ClusterMember
set_option autoImplicit false

def Loop.stage : Loop → Lifecycle
  | registering => .registering
  | beating _ => .heartbeating

/-- The phase that a task is in. Only a registration can break a task off. -/
def Task.stage : Task → Lifecycle
  | absent | ready => .notStarted
  | turn loop | calling loop _ | waiting loop _ => loop.stage
  | finished => .stopped
  | crashed _ => .registering

namespace Event

def isRegistration : Event → Bool
  | completed _ call answer => call.request.isRegister && answer.accepts
  | called _ | noticed .. => false

/-- How many registrations were accepted. -/
def registrationCount (history : List Event) : Nat := history.countP isRegistration

@[simp] theorem registrationCount_noticed (time : Nat) (notices : List Notice)
    (earlier : List Event) :
    registrationCount (notices.map (noticed time) ++ earlier) = registrationCount earlier := by
  induction notices with
  | nil => rfl
  | cons notice rest ih => exact ih

@[simp] theorem registrationCount_called (call : Call) (earlier : List Event) :
    registrationCount (called call :: earlier) = registrationCount earlier := rfl

theorem registrationCount_completed (time : Nat) (call : Call) (answer : Answer)
    (earlier : List Event) :
    registrationCount (completed time call answer :: earlier) =
      registrationCount earlier + if call.request.isRegister && answer.accepts then 1 else 0 :=
  List.countP_cons

@[simp] theorem callCount_completed (register : Bool) (time : Nat) (call : Call) (answer : Answer)
    (earlier : List Event) :
    callCount register (completed time call answer :: earlier) = callCount register earlier := rfl

end Event

theorem Answer.registrations_count (loop : Loop) (wallClock : Nat) (answer : Answer)
    (c : Counters) :
    (answer.count loop wallClock c).registrations =
      c.registrations + if loop.isRegistering && answer.accepts then 1 else 0 := by
  unfold count
  split
  · next ha => cases loop <;> simp [ha, Loop.isRegistering] <;> rfl
  · next ha =>
    simp only [ha, Bool.and_false]
    split
    · rfl
    · split <;> rfl

namespace Agent
variable {σ : Type} [ControlPlane σ]

omit [ControlPlane σ] in
theorem stage_taskAfter (loop : Loop) (answer : Answer) (a : Agent σ) :
    (a.taskAfter loop answer).stage =
      if loop.isRegistering && answer.accepts then
        if a.state = .stopped then .stopped else .heartbeating
      else loop.stage := by
  cases loop with
  | beating missed => rfl
  | registering =>
    unfold taskAfter
    cases answer.accepts with
    | true =>
      simp only [if_true]
      split <;> rfl
    | false =>
      simp only [Bool.false_eq_true, if_false, Bool.and_false]
      split
      · rfl
      · split <;> rfl

/-- The state, the task, the counters and the history are in the same phase. -/
structure Phased (a : Agent σ) : Prop where
  state : a.state = a.task.stage ∨ a.state = .stopped
  counted : a.counters.registrations = Event.registrationCount a.history
  once : Event.registrationCount a.history ≤ 1
  early : a.task.stage.rank ≤ 1 → Event.registrationCount a.history = 0
  member : a.task.stage = .heartbeating → Event.registrationCount a.history = 1
  unbeaten : Event.registrationCount a.history = 0 → Event.callCount false a.history = 0

omit [ControlPlane σ] in
theorem phased_new (identity : Identity) (timings : Timings) (epoch : Int) (plane : σ)
    (endpoint : String) : (new identity timings epoch plane endpoint).Phased where
  state := .inl rfl
  counted := rfl
  once := Nat.zero_le _
  early := fun _ => rfl
  member := fun h => absurd h (by simp [new, Task.stage])
  unbeaten := fun _ => rfl

/-! ## One move -/

omit [ControlPlane σ] in
/-- Unless a registration is accepted, only the task and the state need to be looked at. -/
theorem Phased.of_no_registration {a b : Agent σ} (h : a.Phased)
    (state : b.state = b.task.stage ∨ b.state = .stopped)
    (early : b.task.stage.rank ≤ 1 → a.task.stage.rank ≤ 1)
    (member : b.task.stage = .heartbeating → a.task.stage = .heartbeating)
    (counted : b.counters.registrations = a.counters.registrations)
    (same : Event.registrationCount b.history = Event.registrationCount a.history)
    (unbeaten : Event.registrationCount a.history = 0 →
      Event.callCount false b.history = Event.callCount false a.history) : b.Phased := by
  refine ⟨state, ?_, ?_, ?_, ?_, ?_⟩
  · rw [counted, same, h.counted]
  · rw [same]
    exact h.once
  · rw [same]
    exact fun hr => h.early (early hr)
  · rw [same]
    exact fun hb => h.member (member hb)
  · rw [same]
    intro h0
    rw [unbeaten h0, h.unbeaten h0]

omit [ControlPlane σ] in
/-- A move within a phase. -/
theorem Phased.of_same_stage {a b : Agent σ} (h : a.Phased)
    (state : b.state = a.state ∨ b.state = .stopped) (stage : b.task.stage = a.task.stage)
    (counted : b.counters.registrations = a.counters.registrations)
    (same : Event.registrationCount b.history = Event.registrationCount a.history)
    (unbeaten : Event.registrationCount a.history = 0 →
      Event.callCount false b.history = Event.callCount false a.history) : b.Phased := by
  refine h.of_no_registration ?_ ?_ ?_ counted same unbeaten
  · rcases state with hs | hs
    · rw [hs, stage]
      exact h.state
    · exact .inr hs
  · rw [stage]
    exact id
  · rw [stage]
    exact id

omit [ControlPlane σ] in
theorem Phased.answer {a : Agent σ} {loop : Loop} {pending : Pending} (h : a.Phased)
    (hc : a.Coherent) (notices : List Notice) (calling : a.task = .calling loop pending) :
    (a.answered loop pending notices).Phased := by
  have hstage : a.task.stage = loop.stage := congrArg Task.stage calling
  have hreq := (hc.inFlight _ _ calling).request
  cases hacc : loop.isRegistering && pending.answer.accepts with
  | false =>
    have hst : a.stateAfter loop pending.answer = a.state := by
      refine if_neg fun hn => ?_
      simp [hn.1, hn.2.1] at hacc
    refine h.of_same_stage (.inl hst) ?_ ?_ ?_ ?_
    · show (a.taskAfter _ _).stage = _
      rw [stage_taskAfter, hacc, hstage]
      rfl
    · show (pending.answer.count _ _ _).registrations = _
      rw [Answer.registrations_count, hacc]
      rfl
    · rw [Event.registrationCount_noticed, Event.registrationCount_completed, hreq, hacc]
      rfl
    · intro _
      rw [Event.callCount_noticed, Event.callCount_completed]
  | true =>
    -- The first registration that is accepted, since none was accepted in this phase.
    obtain ⟨hloop, hans⟩ := Bool.and_eq_true_iff.1 hacc
    have hreg : loop = .registering := by
      cases loop with
      | registering => rfl
      | beating => cases hloop
    have h0 : Event.registrationCount a.history = 0 :=
      h.early (by rw [hstage, hreg]; exact Nat.le_refl _)
    have h1 : Event.registrationCount (notices.map (Event.noticed a.now) ++
        .completed a.now pending.call pending.answer :: a.history) = 1 := by
      rw [Event.registrationCount_noticed, Event.registrationCount_completed, hreq, hacc, h0]
      rfl
    have htask : (a.taskAfter loop pending.answer).stage =
        if a.state = .stopped then .stopped else .heartbeating := by
      rw [stage_taskAfter, hacc]
      rfl
    refine ⟨?_, ?_, Nat.le_of_eq h1, ?_, fun _ => h1, fun hz => ?_⟩
    · show a.stateAfter _ _ = (a.taskAfter _ _).stage ∨ a.stateAfter _ _ = _
      rw [htask]
      by_cases hs : a.state = .stopped
      · simp [stateAfter, hs]
      · simp [stateAfter, hs, hloop, hans]
    · show (pending.answer.count _ _ _).registrations = _
      rw [h1, Answer.registrations_count, hacc, h.counted, h0]
      rfl
    · show (a.taskAfter _ _).stage.rank ≤ 1 → _
      rw [htask]
      split <;> exact fun hr => absurd hr (by decide)
    · exact absurd (h1.symm.trans hz) (by decide)

theorem Phased.stride {a b : Agent σ} (h : a.Phased) (hc : a.Coherent) (hs : Stride a b) :
    b.Phased := by
  cases hs with
  | enter ready =>
    refine h.of_no_registration (.inl rfl) (fun _ => ?_) nofun rfl rfl fun _ => rfl
    rw [ready]
    decide
  | @call loop turn =>
    refine h.of_same_stage (.inl rfl) (congrArg Task.stage turn).symm ?_ ?_ ?_
    · show (if _ then _ else _ : Counters).registrations = _
      split <;> rfl
    · rw [Event.registrationCount_noticed, Event.registrationCount_called]
    · intro h0
      rw [Event.callCount_noticed, Event.callCount_called, nextCall_isRegister]
      cases loop with
      | registering => rfl
      | beating =>
        rw [h.member (congrArg Task.stage turn)] at h0
        cases h0
  | answer notices calling => exact h.answer hc notices calling
  | wake waiting =>
    exact h.of_same_stage (.inl rfl) (congrArg Task.stage waiting).symm rfl rfl fun _ => rfl
  | leave notices between stopped =>
    refine h.of_no_registration (.inr stopped) ?_ nofun rfl ?_ ?_
    · exact fun hr => absurd hr (show ¬ (3 ≤ 1) by decide)
    · rw [Event.registrationCount_noticed]
    · intro _
      rw [Event.callCount_noticed]

theorem Phased.change {a b : Agent σ} (h : a.Phased) (hc : a.Coherent) (hs : Change a b) :
    b.Phased := by
  cases hs with
  | start absent =>
    exact h.of_same_stage (.inl rfl) (congrArg Task.stage absent).symm rfl rfl fun _ => rfl
  | stop => exact h.of_same_stage (.inr rfl) rfl rfl rfl fun _ => rfl
  | again => exact h
  | step taken => exact h.stride hc taken
  | pass => exact h.of_same_stage (.inl rfl) rfl rfl rfl fun _ => rfl

/-! ## A run -/

theorem Reaches.phased {a b : Agent σ} (h : Reaches a b) (ha : a.Phased) (hc : a.Coherent) :
    b.Phased := by
  refine h.keeps ha fun hab hm hb => hb.change (hab.coherent hc) hm.change

/-- No move goes back. -/
theorem Phased.rank_le {a b : Agent σ} (h : a.Phased) (hs : Change a b) :
    a.state.rank ≤ b.state.rank := by
  have stopped_last (s : Lifecycle) : s.rank ≤ 3 := by cases s <;> decide
  cases hs with
  | stop => exact stopped_last _
  | step taken =>
    cases taken with
    | enter ready live =>
      have hs : a.state = .notStarted :=
        (h.state.resolve_right live).trans (congrArg Task.stage ready)
      rw [hs]
      exact Nat.zero_le _
    | @answer loop pending notices calling =>
      show _ ≤ (a.stateAfter _ _).rank
      unfold stateAfter
      split
      · next hn =>
        have hs : a.state = loop.stage :=
          (h.state.resolve_right hn.2.2).trans (congrArg Task.stage calling)
        rw [hs]
        cases loop with
        | registering => decide
        | beating => exact Nat.le_refl _
      · exact Nat.le_refl _
    | _ => exact Nat.le_refl _
  | _ => exact Nat.le_refl _

theorem Reaches.rank_le {a b : Agent σ} (h : Reaches a b) (ha : a.Phased) (hc : a.Coherent) :
    a.state.rank ≤ b.state.rank := by
  refine h.keeps (Nat.le_refl _) fun hab hm hb => ?_
  exact Nat.le_trans hb ((hab.phased ha hc).rank_le hm.change)

omit [ControlPlane σ] in
/-- Heartbeats are sent by those who were registered and not stopped since. -/
theorem Phased.heartbeating_iff {a : Agent σ} (h : a.Phased) :
    a.state = .heartbeating ↔ a.counters.registrations = 1 ∧ a.state ≠ .stopped := by
  rw [h.counted]
  constructor
  · intro hs
    have hstage : a.task.stage = .heartbeating := by
      rcases h.state with he | he
      · exact he.symm.trans hs
      · cases he.symm.trans hs
    exact ⟨h.member hstage, by simp [hs]⟩
  · rintro ⟨h1, live⟩
    have hstage := h.state.resolve_right live
    have late : ¬ a.task.stage.rank ≤ 1 := fun hr => by
      rw [h.early hr] at h1
      cases h1
    cases hs : a.state with
    | heartbeating => rfl
    | stopped => exact absurd hs live
    | notStarted | registering =>
      rw [← hstage, hs] at late
      exact absurd (by decide) late

omit [ControlPlane σ] in
/-- A call to register is made only while no registration was accepted. -/
theorem Phased.unregistered {a : Agent σ} (h : a.Phased) {loop : Loop}
    (turn : a.task = .turn loop) (hr : (a.nextCall loop).request.isRegister = true) :
    Event.registrationCount a.history = 0 ∧ Event.callCount false a.history = 0 := by
  have hstage : a.task.stage = loop.stage := congrArg Task.stage turn
  cases loop with
  | registering =>
    have h0 := h.early (by rw [hstage]; exact Nat.le_refl _)
    exact ⟨h0, h.unbeaten h0⟩
  | beating => cases hr

theorem act_start_of_started {a : Agent σ} (h : a.task ≠ .absent) :
    a.act .start = (.refused .alreadyStarted, a) := by
  simp only [act, start?_of_started h]

/-- How the life of an agent goes, in any session. The state never goes back, and the first start is
the only one that succeeds. One call is in flight at a time, and ends within its limit. Registrations
come before heartbeats, and none is asked for once one was accepted. The agent is heartbeating
exactly while it is registered and was not stopped. -/
theorem life_runs_forward (identity : Identity) (timings : Timings) (epoch : Int) (plane : σ)
    (home : String) (before rest : List Command) :
    let a := (new identity timings epoch plane home).after before
    let b := a.after rest
    a.state.rank ≤ b.state.rank ∧
    ((∀ c ∈ before, c.action ≠ .start) → (a.act .start).1 = .started) ∧
    ((∃ c ∈ before, c.action = .start) → a.act .start = (.refused .alreadyStarted, a)) ∧
    (∀ call earlier, .called call :: earlier <:+ b.history →
      Event.outstanding earlier = none ∧ (∀ e ∈ earlier, e.time ≤ call.time) ∧
      (call.request.isRegister →
        Event.callCount false earlier = 0 ∧ Event.registrationCount earlier = 0)) ∧
    (∀ time call answer earlier, .completed time call answer :: earlier <:+ b.history →
      (∃ past, Event.outstanding earlier = some (call, past)) ∧
      call.time ≤ time ∧ time ≤ call.time + call.limit.millis) ∧
    b.counters.registrations = Event.registrationCount b.history ∧
    b.counters.registrations ≤ 1 ∧
    (b.state = .heartbeating ↔
      b.counters.registrations = 1 ∧ ∀ c ∈ before ++ rest, c.action ≠ .stop) := by
  intro a b
  let fresh := new identity timings epoch plane home
  have hfa : Reaches fresh a := reaches_after before fresh
  have hab : Reaches a b := reaches_after rest a
  have hfb : Reaches fresh b := hfa.trans hab
  have hc := coherent_new identity timings epoch plane home
  have hp := phased_new identity timings epoch plane home
  have hpb : b.Phased := hfb.phased hp hc
  refine ⟨hab.rank_le (hfa.phased hp hc) (hfa.coherent hc), ?_, ?_, ?_, ?_, hpb.counted, ?_, ?_⟩
  · intro unstarted
    have absent : a.task = .absent := (task_after_eq_absent rfl before).2 unstarted
    simp only [act, start?_of_absent absent]
  · rintro ⟨c, hmem, hstart⟩
    refine act_start_of_started fun absent => ?_
    exact (task_after_eq_absent rfl before).1 absent c hmem hstart
  · intro call earlier hs
    obtain ⟨m, hfm, hmb, rfl, loop, turn, live, rfl⟩ := hfb.moment rfl rfl hs
    have hcm := hfm.coherent hc
    refine ⟨hcm.idle (by simp [turn]), ?_, fun hr => ?_⟩
    · rw [nextCall_time]
      exact hcm.past
    · exact ((hfm.phased hp hc).unregistered turn hr).symm
  · intro time call answer earlier hs
    obtain ⟨m, hfm, hmb, rfl, loop, due, calling, hdue, rfl⟩ := hfb.moment rfl rfl hs
    have hm := (hfm.coherent hc).inFlight loop _ calling
    exact ⟨hm.outstanding, hm.made, Nat.le_trans hm.now_le_due hm.due_le⟩
  · rw [hpb.counted]
    exact hpb.once
  · have hb : b = fresh.after (before ++ rest) := (after_append before rest fresh).symm
    rw [hpb.heartbeating_iff, Ne, hb, state_after_eq_stopped (by simp [fresh, new])]
    simp

end Agent
end ClusterMember
