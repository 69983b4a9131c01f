import ClusterMember.Agent.Script
import ClusterMember.Proofs.Agent.Conservation

/-! # Live reports and live tasks

A state that is reported as live should belong to a task that is still running. No reply, fault or
hang ends a task, and no break-down of the client during a heartbeat does. A break-down during a
registration ends the task and leaves the state as it was: then, and only then, the report is wrong.

* `Task.brokenOff`: whether a break-down ended the task.
* `Agent.Reaches.broken_off`: only registrations break a task off, and each that breaks down does.
* `Agent.live_unless_broken_off`: when a live report can be believed.
* `Agent.registering_without_task`: an agent that reports that it is registering and has no task.
-/

namespace ClusterMember
set_option autoImplicit false

/-- How often the task was broken off. -/
def Task.brokenOff : Task → Nat
  | crashed _ => 1
  | absent | ready | turn _ | calling .. | waiting .. | finished => 0

namespace Agent
variable {σ : Type} [ControlPlane σ]

omit [ControlPlane σ] in
theorem brokenOff_taskAfter (loop : Loop) (answer : Answer) (a : Agent σ) :
    (a.taskAfter loop answer).brokenOff =
      if loop.isRegistering = true ∧ answer.crashes = true then 1 else 0 := by
  cases loop with
  | beating missed => simp [taskAfter, Task.brokenOff, Loop.isRegistering]
  | registering =>
    simp only [taskAfter, Loop.isRegistering, true_and]
    cases answer with
    | reply reply =>
      split
      · split <;> rfl
      · split <;> rfl
    | fault => rfl
    | crash => rfl

omit [ControlPlane σ] in
theorem brokenOff_of_between {task : Task} (h : task.isBetweenCalls = true) :
    task.brokenOff = 0 := by
  cases task <;> simp [Task.isBetweenCalls] at h <;> rfl

theorem Reaches.broken_off {a b : Agent σ} (h : Reaches a b) (hc : a.Coherent)
    (ha : Event.endCount true Answer.crashes a.history = a.task.brokenOff) :
    Event.endCount true Answer.crashes b.history = b.task.brokenOff := by
  refine h.keeps ha fun {b c} hab hm hb => ?_
  cases hm.change with
  | start absent =>
    rw [absent] at hb
    exact hb
  | stop => exact hb
  | again => exact hb
  | pass => exact hb
  | step taken =>
    cases taken with
    | enter ready =>
      rw [ready] at hb
      exact hb
    | call turn =>
      rw [turn] at hb
      rw [Event.endCount_noticed, Event.endCount_called, hb]
      rfl
    | @answer loop pending notices calling =>
      have hreq := ((hab.coherent hc).inFlight _ _ calling).request
      have hzero : Event.endCount true Answer.crashes b.history = 0 := by
        rw [hb, calling]
        rfl
      rw [Event.endCount_noticed, Event.endCount_completed, hzero, hreq, brokenOff_taskAfter,
        Nat.zero_add]
    | wake waiting =>
      rw [waiting] at hb
      exact hb
    | leave notices between =>
      rw [Event.endCount_noticed, hb]
      exact brokenOff_of_between between

omit [ControlPlane σ] in
theorem crashed_iff_brokenOff (task : Task) :
    (∃ crash, task.status = .crashed crash) ↔ 0 < task.brokenOff := by
  cases task <;> simp [Task.status, Task.brokenOff]

omit [ControlPlane σ] in
theorem status_of_stage {task : Task}
    (h : task.stage = .registering ∨ task.stage = .heartbeating) :
    task.status = .running ∨ task.stage = .registering ∧ ∃ crash, task.status = .crashed crash := by
  cases task with
  | turn loop => exact .inl rfl
  | calling loop pending => exact .inl rfl
  | waiting loop wake => exact .inl rfl
  | crashed crash => exact .inr ⟨rfl, crash, rfl⟩
  | absent => simp [Task.stage] at h
  | ready => simp [Task.stage] at h
  | finished => simp [Task.stage] at h

/-- An agent that reports that it is heartbeating has a running task, in every session. One that
reports that it is registering has one too unless a registration broke down. A task that ended in
any other way was told to stop. -/
theorem live_unless_broken_off (identity : Identity) (timings : Timings) (epoch : Int) (plane : σ)
    (home : String) (commands : List Command) :
    let b := (new identity timings epoch plane home).after commands
    let breakdowns := Event.endCount true Answer.crashes b.history
    (b.state = .heartbeating → b.task.status = .running) ∧
    (b.state = .registering → (b.task.status = .running ↔ breakdowns = 0)) ∧
    (b.task.status = .finished → ∃ c ∈ commands, c.action = .stop) ∧
    ((∃ crash, b.task.status = .crashed crash) ↔ 0 < breakdowns) := by
  intro b breakdowns
  let fresh := new identity timings epoch plane home
  have hc : fresh.Coherent := coherent_new identity timings epoch plane home
  have hfb : Reaches fresh b := reaches_after commands fresh
  have phased : b.Phased := hfb.phased (phased_new _ _ _ _ _) hc
  have hcount : breakdowns = b.task.brokenOff := hfb.broken_off hc rfl
  have hcrash := crashed_iff_brokenOff b.task
  rw [← hcount] at hcrash
  refine ⟨?_, ?_, ?_, hcrash⟩
  · intro hs
    have hstage : b.task.stage = .heartbeating :=
      (phased.state.resolve_right (by simp [hs])).symm.trans hs
    rcases status_of_stage (.inr hstage) with running | ⟨early, _⟩
    · exact running
    · cases early.symm.trans hstage
  · intro hs
    have hstage : b.task.stage = .registering :=
      (phased.state.resolve_right (by simp [hs])).symm.trans hs
    constructor
    · intro running
      refine Nat.eq_zero_of_not_pos fun hpos => ?_
      obtain ⟨crash, crashed⟩ := hcrash.2 hpos
      cases running.symm.trans crashed
    · intro hzero
      rcases status_of_stage (.inl hstage) with running | ⟨_, crashed⟩
      · exact running
      · exact absurd (hcrash.1 crashed) (by omega)
  · intro ended
    have hstopped : b.state = .stopped := by
      rcases phased.state with he | he
      · rw [he]
        cases hb : b.task <;> simp [hb, Task.status, Task.stage] at ended ⊢
      · exact he
    exact (state_after_eq_stopped (by simp [new]) commands).1 hstopped

/-- A client that breaks down in the first registration. A minute later the agent still reports that
it is registering, and nothing is left that would register it. -/
theorem registering_without_task :
    let script : Script := { register := [{ act := .crash (.withText "injected fault") }] }
    let b := (new ⟨"w", "c", ""⟩ {} 1700000000 script "A").after
      [{ action := .start }, { action := .advance 60000 }]
    b.state = .registering ∧ b.task.status = .crashed (.withText "injected fault") := by
  decide +kernel

end Agent
end ClusterMember
