import ClusterMember.Agent.Script
import ClusterMember.Proofs.Agent.Phase
import ClusterMember.Proofs.Duration

/-! # Stopping

A stopped agent makes no call any more. If none is in flight its task ends at once, and otherwise as
soon as the answer to that one call is in; nothing but this answer changes the agent.

* `Task.stopped`, `Answer.lastTask`: how a task ends that is told to stop.
* `Agent.comesToRest_of_stopped`, `Agent.comesToRest_of_less`: a stopped agent comes to rest, and any
  other whose steps use something up.
* `Agent.Reaches.calls_eq`: it makes no call.
* `Agent.Quiet`, `Agent.Answered`: what becomes of it, without a call in flight and with one.
* `Agent.stop_is_prompt`: all of this, for a stop at any moment of any run.
-/

namespace ClusterMember
set_option autoImplicit false

/-- How a task ends that is told to stop while none of its calls is in flight. -/
def Task.stopped : Task → Task
  | crashed crash => crashed crash
  | absent | ready | turn _ | calling .. | waiting .. | finished => finished

/-- How a task ends that is told to stop during a call of a loop. -/
def Answer.lastTask (loop : Loop) (answer : Answer) : Task :=
  match loop, answer with
  | .registering, .crash cause => .crashed cause
  | .registering, .reply _ | .registering, .fault _ | .beating _, _ => .finished

/-- A bound on the steps that a task takes once it is told to stop. -/
def Task.effort : Task → Nat
  | ready | turn _ | waiting .. => 1
  | calling .. => 2
  | absent | finished | crashed _ => 0

namespace Agent
variable {σ : Type} [ControlPlane σ]

/-! ## Coming to rest -/

omit [ControlPlane σ] in
theorem stopped_taskAfter {a : Agent σ} (hs : a.state = .stopped) (loop : Loop)
    (answer : Answer) : (a.taskAfter loop answer).stopped = answer.lastTask loop := by
  cases loop with
  | beating missed => cases answer <;> rfl
  | registering =>
    unfold taskAfter
    simp only [hs, if_true]
    cases answer with
    | reply reply =>
      split
      · rfl
      · split <;> rfl
    | fault => rfl
    | crash => rfl

omit [ControlPlane σ] in
theorem effort_taskAfter (loop : Loop) (answer : Answer) (a : Agent σ) :
    (a.taskAfter loop answer).effort ≤ 1 := by
  unfold taskAfter
  split
  · split
    · split <;> decide
    · split
      · exact Nat.le_refl _
      · split <;> simp [Task.effort]
  · exact Nat.le_refl _

/-- A stopped task does at most two more things: it takes the answer of its last call, and ends. -/
theorem steps_blocked_of_stopped {a : Agent σ} (hs : a.state = .stopped) {n : Nat} (hn : 2 ≤ n) :
    (a.steps n).step? = none := by
  refine steps_blocked (fun b => b.state = .stopped) (fun b => b.task.effort) ?_ hs ?_
  · intro c d hc taken
    refine ⟨(Reaches.single (.step taken)).state_stopped hc, ?_⟩
    cases stride_of_step? taken with
    | enter _ live => exact absurd hc live
    | call _ live => exact absurd hc live
    | wake _ live => exact absurd hc live
    | answer notices calling =>
      rw [calling]
      exact Nat.lt_succ_of_le (effort_taskAfter _ _ _)
    | leave notices between =>
      show 0 < c.task.effort
      revert between
      cases c.task <;> simp [Task.isBetweenCalls, Task.effort]
  · have hle : a.task.effort ≤ 2 := by cases a.task <;> simp [Task.effort]
    omega

theorem two_le_stamina (a : Agent σ) : 2 ≤ a.stamina := by
  unfold stamina
  omega

theorem comesToRest_of_stopped {a : Agent σ} (hs : a.state = .stopped) : a.ComesToRest :=
  fun b hab => steps_blocked_of_stopped (hab.state_stopped hs) b.two_le_stamina

/-- Until it is stopped, the task of an agent comes to an end of its steps if each of them uses
something up. -/
theorem steps_blocked_of_less {m : Agent σ} (μ : Agent σ → Nat)
    (less : ∀ {a b : Agent σ}, Reaches m a → a.state ≠ .stopped → Stride a b → μ b < μ a)
    {a : Agent σ} (run : Reaches m a) {n : Nat} (enough : μ a ≤ n) (hn : 2 ≤ n) :
    (a.steps n).step? = none := by
  by_cases hs : a.state = .stopped
  · exact steps_blocked_of_stopped hs hn
  · refine steps_blocked (fun a => Reaches m a ∧ a.state ≠ .stopped) μ ?_ ⟨run, hs⟩ enough
    rintro b c ⟨hb, live⟩ taken
    have later : Reaches m c ∧ c.state ≠ .stopped :=
      ⟨hb.tail (.step taken), state_step_ne_stopped taken live⟩
    exact ⟨later, less hb live (stride_of_step? taken)⟩

theorem comesToRest_of_less {m : Agent σ} (μ : Agent σ → Nat)
    (less : ∀ {a b : Agent σ}, Reaches m a → a.state ≠ .stopped → Stride a b → μ b < μ a)
    (enough : ∀ {a : Agent σ}, Reaches m a → μ a ≤ a.stamina) : m.ComesToRest :=
  fun a run => steps_blocked_of_less μ less run (enough run) a.two_le_stamina

/-- A stopped agent at rest is in a call, or its task is not running. -/
theorem task_of_stopped_blocked {a : Agent σ} (hs : a.state = .stopped)
    (blocked : a.step? = none) :
    a.task = .absent ∨ (∃ loop pending, a.task = .calling loop pending ∧ a.now < pending.due) ∨
      a.task = .finished ∨ ∃ crash, a.task = .crashed crash := by
  unfold step? at blocked
  split at blocked
  · next h => exact .inl h
  · next h => exact .inr (.inr (.inl h))
  · next crash h => exact .inr (.inr (.inr ⟨crash, h⟩))
  · cases blocked
  · cases blocked
  · next loop pending calling =>
    split at blocked
    · cases blocked
    · next early => exact .inr (.inl ⟨loop, pending, calling, Nat.lt_of_not_le early⟩)
  · rw [if_pos hs] at blocked
    cases blocked

/-! ## No more calls -/

theorem Reaches.calls_eq {a b : Agent σ} (h : Reaches a b) (hs : a.state = .stopped) :
    b.history.filterMap Event.call? = a.history.filterMap Event.call? := by
  refine h.keeps rfl fun hab hc hb => ?_
  cases hc.change with
  | step taken =>
    cases taken with
    | call _ live => exact absurd (hab.state_stopped hs) live
    | answer => exact (Event.filterMap_call?_noticed _ _ _).trans hb
    | leave => exact (Event.filterMap_call?_noticed _ _ _).trans hb
    | _ => exact hb
  | _ => exact hb

/-! ## What becomes of a stopped agent -/

/-- What has become of a stopped agent that had no call in flight. -/
structure Quiet (a b : Agent σ) : Prop where
  endpoint : b.endpoint = a.endpoint
  counters : b.counters = a.counters
  uncalled : ∀ loop pending, b.task ≠ .calling loop pending
  crashed : ∀ crash, b.task = .crashed crash ↔ a.task = .crashed crash

theorem Reaches.quiet {a b : Agent σ} (h : Reaches a b) (hs : a.state = .stopped)
    (uncalled : ∀ loop pending, a.task ≠ .calling loop pending) : Quiet a b := by
  refine h.keeps ⟨rfl, rfl, uncalled, fun _ => Iff.rfl⟩ fun hab hc hb => ?_
  cases hc.change with
  | start absent =>
    refine ⟨hb.endpoint, hb.counters, by simp, fun crash => ?_⟩
    rw [← hb.crashed crash, absent]
    simp
  | stop => exact ⟨hb.endpoint, hb.counters, hb.uncalled, hb.crashed⟩
  | again => exact hb
  | step taken =>
    cases taken with
    | enter _ live => exact absurd (hab.state_stopped hs) live
    | call _ live => exact absurd (hab.state_stopped hs) live
    | answer _ calling => exact absurd calling (hb.uncalled _ _)
    | wake _ live => exact absurd (hab.state_stopped hs) live
    | leave _ between =>
      refine ⟨hb.endpoint, hb.counters, by simp, fun crash => ?_⟩
      rw [← hb.crashed crash]
      constructor
      · exact fun h => by cases h
      · intro h
        rw [h] at between
        cases between
  | pass => exact ⟨hb.endpoint, hb.counters, hb.uncalled, hb.crashed⟩

/-- At rest, a task that was started has ended. -/
theorem Quiet.task_eq {a b : Agent σ} (h : Quiet a b) (hs : b.state = .stopped)
    (blocked : b.step? = none) (started : b.task ≠ .absent) : b.task = a.task.stopped := by
  rcases task_of_stopped_blocked hs blocked with hb | ⟨loop, pending, hb, _⟩ | hb | ⟨crash, hb⟩
  · exact absurd hb started
  · exact absurd hb (h.uncalled _ _)
  · rw [hb]
    cases ha : a.task with
    | crashed crash =>
      rw [(h.crashed crash).2 ha] at hb
      cases hb
    | _ => rfl
  · rw [(h.crashed crash).1 hb, hb]
    rfl

/-- A stopped agent that has just taken the answer of its last call. -/
structure Answered (loop : Loop) (pending : Pending) (a b : Agent σ) : Prop where
  now : b.now = pending.due
  endpoint : b.endpoint = pending.answer.leader?.getD a.endpoint
  counters : b.counters =
    pending.answer.count loop { a with now := pending.due }.wallClock a.counters
  uncalled : ∀ loop pending, b.task ≠ .calling loop pending
  started : b.task ≠ .absent
  task : b.task.stopped = pending.answer.lastTask loop
  history : .completed pending.due pending.call pending.answer ∈ b.history

/-- A stopped agent with a call in flight changes by the answer to this call only. -/
theorem Reaches.lastCall {a b : Agent σ} (h : Reaches a b) (hs : a.state = .stopped)
    (ha : a.Coherent) {loop : Loop} {pending : Pending} (calling : a.task = .calling loop pending) :
    (b.task = .calling loop pending ∧ b.endpoint = a.endpoint ∧ b.counters = a.counters) ∨
      ∃ m, Reaches a m ∧ Reaches m b ∧ Answered loop pending a m := by
  refine h.keeps (.inl ⟨calling, rfl, rfl⟩) fun {b c} hab hm hb => ?_
  rcases hb with ⟨htask, hend, hcount⟩ | ⟨m, ham, hmb, hans⟩
  · cases hm.change with
    | start absent => rw [absent] at htask; cases htask
    | step taken =>
      cases taken with
      | enter ready => rw [ready] at htask; cases htask
      | call turn => rw [turn] at htask; cases htask
      | wake waiting => rw [waiting] at htask; cases htask
      | leave _ between => rw [htask] at between; cases between
      | answer notices calling' due =>
        rw [htask] at calling'
        cases calling'
        have hnow : b.now = pending.due :=
          Nat.le_antisymm ((hab.coherent ha).inFlight _ _ htask).now_le_due due
        refine .inr ⟨_, hab.tail hm, Reaches.refl _, hnow, ?_, ?_, ?_, ?_, ?_, ?_⟩
        · exact congrArg (pending.answer.leader?.getD ·) hend
        · show pending.answer.count loop b.wallClock b.counters = _
          rw [hcount, wallClock, hab.epoch_eq, hnow, wallClock]
        · exact taskAfter_ne_calling _ _ _
        · exact taskAfter_ne_absent _ _ _
        · exact stopped_taskAfter (hab.state_stopped hs) _ _
        · rw [← hnow]
          exact List.mem_append_right _ List.mem_cons_self
    | _ => exact .inl ⟨htask, hend, hcount⟩
  · exact .inr ⟨m, ham, hmb.tail hm, hans⟩

/-! ## At rest -/

theorem Reaches.rest_of_uncalled {a b : Agent σ} (h : Reaches a b) (hs : a.state = .stopped)
    (uncalled : ∀ loop pending, a.task ≠ .calling loop pending) (blocked : b.step? = none) :
    b.endpoint = a.endpoint ∧ b.counters = a.counters ∧
      (b.task ≠ .absent → b.task = a.task.stopped) := by
  have hq := h.quiet hs uncalled
  exact ⟨hq.endpoint, hq.counters, hq.task_eq (h.state_stopped hs) blocked⟩

/-- A stopped agent that had a call in flight, once it is at rest: the call is either still in
flight, or its answer was taken when it was due. -/
theorem Reaches.rest_of_calling {a b : Agent σ} (h : Reaches a b) (hs : a.state = .stopped)
    (ha : a.Coherent) {loop : Loop} {pending : Pending} (calling : a.task = .calling loop pending)
    (blocked : b.step? = none) :
    (b.now < pending.due → b.task = a.task ∧ b.endpoint = a.endpoint ∧ b.counters = a.counters) ∧
    (pending.due ≤ b.now →
      b.task = pending.answer.lastTask loop ∧
      b.endpoint = pending.answer.leader?.getD a.endpoint ∧
      b.counters = pending.answer.count loop { a with now := pending.due }.wallClock a.counters ∧
      .completed pending.due pending.call pending.answer ∈ b.history) := by
  have hbs := h.state_stopped hs
  rcases h.lastCall hs ha calling with ⟨htask, hend, hcount⟩ | ⟨m, ham, hmb, hans⟩
  · refine ⟨fun _ => ⟨htask.trans calling.symm, hend, hcount⟩, fun late => ?_⟩
    rcases task_of_stopped_blocked hbs blocked with hb | ⟨_, _, hb, early⟩ | hb | ⟨_, hb⟩
    · cases htask.symm.trans hb
    · cases htask.symm.trans hb
      exact absurd late (Nat.not_le_of_lt early)
    · cases htask.symm.trans hb
    · cases htask.symm.trans hb
  · have hq := hmb.quiet (ham.state_stopped hs) hans.uncalled
    refine ⟨fun early => ?_, fun _ => ⟨?_, ?_, ?_, ?_⟩⟩
    · have hle : pending.due ≤ b.now := hans.now ▸ hmb.now_le
      exact absurd hle (Nat.not_le_of_lt early)
    · rw [hq.task_eq hbs blocked (hmb.task_ne_absent hans.started), hans.task]
    · rw [hq.endpoint, hans.endpoint]
    · rw [hq.counters, hans.counters]
    · exact hmb.history_suffix.subset hans.history

/-! ## The stop -/

omit [ControlPlane σ] in
theorem task_stop (a : Agent σ) : a.stop.task = a.task := by
  unfold stop
  split <;> rfl

omit [ControlPlane σ] in
theorem endpoint_stop (a : Agent σ) : a.stop.endpoint = a.endpoint := by
  unfold stop
  split <;> rfl

omit [ControlPlane σ] in
theorem counters_stop (a : Agent σ) : a.stop.counters = a.counters := by
  unfold stop
  split <;> rfl

omit [ControlPlane σ] in
theorem now_stop (a : Agent σ) : a.stop.now = a.now := by
  unfold stop
  split <;> rfl

omit [ControlPlane σ] in
theorem wallClock_stop (a : Agent σ) (now : Nat) :
    { a.stop with now := now }.wallClock = { a with now := now }.wallClock := by
  unfold stop
  split <;> rfl

omit [ControlPlane σ] in
theorem filterMap_call?_stop (a : Agent σ) :
    a.stop.history.filterMap Event.call? = a.history.filterMap Event.call? := by
  unfold stop
  split <;> rfl

omit [ControlPlane σ] in
theorem InFlight.limit_le {a : Agent σ} {loop : Loop} {pending : Pending}
    (h : a.InFlight loop pending) :
    pending.call.limit.millis ≤
      max a.timings.registerTimeout.millis a.timings.heartbeatTimeout.millis := by
  rw [h.limit]
  cases loop with
  | registering => exact Nat.le_max_left _ _
  | beating => exact Nat.le_max_right _ _

omit [ControlPlane σ] in
/-- The only registration is the one that is accepted last. -/
theorem Phased.first_registration {a : Agent σ} (h : a.Phased) {loop : Loop} {pending : Pending}
    (calling : a.task = .calling loop pending) (hl : loop.isRegistering = true)
    (ha : pending.answer.accepts = true) (wallClock : Nat) :
    (pending.answer.count loop wallClock a.counters).registrations = 1 := by
  have hstage : a.task.stage = loop.stage := congrArg Task.stage calling
  rw [Answer.registrations_count, hl, ha, h.counted, h.early]
  · rfl
  · rw [hstage]
    cases loop with
    | registering => exact Nat.le_refl _
    | beating => cases hl

theorem task_after_stop {a : Agent σ} (ha : a.task = .absent) (commands : List Command) :
    (a.stop.after commands).task = .absent ↔ ∀ c ∈ commands, c.action ≠ .start :=
  task_after_eq_absent ((task_stop a).trans ha) commands

/-- Who was stopped before it was started can still be started. -/
theorem first_start_after_stop {a : Agent σ} (ha : a.task = .absent) {commands : List Command}
    (unstarted : ∀ c ∈ commands, c.action ≠ .start) :
    let b := (a.stop.after commands).settle
    b.task = .absent ∧ (b.act .start).1 = .started := by
  intro b
  have hrest := (task_after_stop ha commands).2 unstarted
  have hb : b.task = .absent := by
    show (Agent.settle _).task = _
    rw [settle_of_blocked (by simp [step?, hrest])]
    exact hrest
  exact ⟨hb, by simp only [act, start?_of_absent hb]⟩

/-- An agent that is stopped at any moment of any run, with any session after that. It stays stopped
and makes no call, though a first start succeeds. If no call is in flight, the endpoint and the
counters stay as they are and the task ends at once. If one is in flight, it ends soon, the task with
it, and the endpoint and the counters change by its answer only. -/
theorem stop_is_prompt (identity : Identity) (timings : Timings) (epoch : Int) (plane : σ)
    (home : String) {a : Agent σ} (run : Reaches (new identity timings epoch plane home) a)
    (commands : List Command) :
    let b := (a.stop.after commands).settle
    (∀ m, Reaches a.stop m →
      m.state = .stopped ∧ m.history.filterMap Event.call? = a.history.filterMap Event.call?) ∧
    b.now = a.now + Command.elapsed commands ∧
    (a.task = .absent → (∀ c ∈ commands, c.action ≠ .start) →
      b.task = .absent ∧ (b.act .start).1 = .started) ∧
    ((∀ loop pending, a.task ≠ .calling loop pending) →
      b.endpoint = a.endpoint ∧ b.counters = a.counters ∧
      (a.task ≠ .absent ∨ (∃ c ∈ commands, c.action = .start) → b.task = a.task.stopped)) ∧
    ∀ loop pending, a.task = .calling loop pending →
      a.now ≤ pending.due ∧
      pending.due ≤ a.now + max timings.registerTimeout.millis timings.heartbeatTimeout.millis ∧
      (∀ bound, timings.shutdownBound = some bound →
        max timings.registerTimeout.millis timings.heartbeatTimeout.millis ≤ bound.millis) ∧
      (b.now < pending.due →
        b.task = a.task ∧ b.endpoint = a.endpoint ∧ b.counters = a.counters) ∧
      (pending.due ≤ b.now →
        b.task = pending.answer.lastTask loop ∧
        b.endpoint = pending.answer.leader?.getD a.endpoint ∧
        b.counters =
          pending.answer.count loop { a with now := pending.due }.wallClock a.counters ∧
        .completed pending.due pending.call pending.answer ∈ b.history ∧
        (loop.isRegistering ∧ pending.answer.accepts → b.counters.registrations = 1)) := by
  intro b
  have hco := coherent_new identity timings epoch plane home
  have hs : a.stop.state = .stopped := state_stop a
  have rest : a.stop.ComesToRest := comesToRest_of_stopped hs
  have hb : Reaches a.stop b := (reaches_after commands _).trans (reaches_settle _)
  have blocked : b.step? = none := rest.settled_after commands
  refine ⟨?_, ?_, ?_, ?_, ?_⟩
  · intro m hm
    exact ⟨hm.state_stopped hs, (hm.calls_eq hs).trans (filterMap_call?_stop a)⟩
  · exact (rest.now_settle_after commands).trans (by rw [now_stop])
  · exact fun ha unstarted => first_start_after_stop ha unstarted
  · intro uncalled
    obtain ⟨hend, hcount, htask⟩ :=
      hb.rest_of_uncalled hs (by rw [task_stop]; exact uncalled) blocked
    refine ⟨hend.trans (endpoint_stop a), hcount.trans (counters_stop a), fun started => ?_⟩
    rw [← task_stop a]
    refine htask ?_
    by_cases ha : a.task = .absent
    · obtain ⟨c, hc, hstart⟩ := started.resolve_left fun h => h ha
      exact (reaches_settle _).task_ne_absent fun h => (task_after_stop ha _).1 h c hc hstart
    · exact hb.task_ne_absent (by rwa [task_stop])
  · intro loop pending calling
    have hin := (run.coherent hco).inFlight _ _ calling
    have hlim := hin.limit_le
    rw [run.timings_eq] at hlim
    obtain ⟨hearly, hlate⟩ := hb.rest_of_calling hs ((run.tail (.stop a)).coherent hco)
      ((task_stop a).trans calling) blocked
    rw [task_stop, endpoint_stop, counters_stop] at hearly
    rw [wallClock_stop, endpoint_stop, counters_stop] at hlate
    refine ⟨hin.now_le_due, ?_, fun bound => Timings.limit_le_shutdownBound, hearly, ?_⟩
    · have hmade := hin.made
      have hdue := hin.due_le
      exact Nat.le_trans hdue (Nat.add_le_add hmade hlim)
    · intro late
      obtain ⟨htask, hend, hcount, hpast⟩ := hlate late
      refine ⟨htask, hend, hcount, hpast, fun ⟨hl, hacc⟩ => ?_⟩
      rw [hcount]
      exact (run.phased (phased_new _ _ _ _ _) hco).first_registration calling hl hacc _

/-- A stop during a registration that is never answered: the call ends at its limit of five seconds,
and the task with it. -/
theorem stop_ends_hanging_registration :
    let a := (new ⟨"w", "", ""⟩ {} 0 ({ registerDefault := { act := .hang } } : Script) "A").after
      [{ action := .start }]
    let b := (a.stop.after [{ action := .advance 5000 }]).settle
    a.task.status = .running ∧ b.now = 5000 ∧ b.task = .finished ∧ b.endpoint = "A" := by
  intro a b
  have calling : a.task = .calling .registering
      ⟨⟨0, "A", .register "w" "w" "", .ofSecs 5⟩, 5000, .fault (.timeout "A" (.ofSecs 5))⟩ := by
    decide
  obtain ⟨_, hnow, _, _, h⟩ := stop_is_prompt _ _ _ _ _ (reaches_after _ _ : Reaches _ a)
    [{ action := .advance 5000 }]
  obtain ⟨_, _, _, _, hlate⟩ := h _ _ calling
  have hb : b.now = 5000 := hnow
  obtain ⟨htask, hend, _⟩ := hlate (Nat.le_of_eq hb.symm)
  exact ⟨by rw [calling]; rfl, hb, htask, hend⟩

end Agent
end ClusterMember
