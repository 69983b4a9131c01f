import ClusterMember.Proofs.Agent.Move

/-! # Sessions and the moments between commands

After each command of a session the task does all it can. Whether it comes to rest depends on the
control plane; a task that comes to rest lets the clock go on as far as it is asked to.

* `Agent.steps_blocked`: a task whose steps use something up comes to rest.
* `Agent.ComesToRest`: whatever happens to the agent, its task can settle.
* `Command.elapsed`, `Agent.ComesToRest.now_after`: how long a session takes.
* `Agent.task_after_eq_absent`, `Agent.state_after_eq_stopped`: what a session without a start, or
  without a stop, leaves as it is.
-/

namespace ClusterMember
set_option autoImplicit false

/-- How much time an action takes, in milliseconds. -/
def Action.millis : Action → Nat
  | advance millis => millis
  | start | stop | http _ | snapshot => 0

/-- How much time the commands of a session take. -/
def Command.elapsed : List Command → Nat
  | [] => 0
  | command :: rest => command.action.millis + elapsed rest

namespace Agent
variable {σ : Type} [ControlPlane σ]

/-! ## Coming to rest -/

theorem steps_of_blocked {a : Agent σ} (blocked : a.step? = none) (n : Nat) : a.steps n = a := by
  cases n with
  | zero => rfl
  | succ n => simp only [steps, blocked]

theorem settle_of_blocked {a : Agent σ} (blocked : a.step? = none) : a.settle = a :=
  steps_of_blocked blocked _

theorem steps_add (m n : Nat) (a : Agent σ) : a.steps (m + n) = (a.steps m).steps n := by
  induction m generalizing a with
  | zero => rw [Nat.zero_add, steps]
  | succ m ih =>
    rw [Nat.succ_add, steps, steps]
    cases h : a.step? with
    | none => exact (steps_of_blocked h n).symm
    | some b => exact ih b

/-- Whoever allows for more steps than are taken sees the same ones. -/
theorem steps_of_le {a : Agent σ} {m n : Nat} (blocked : (a.steps m).step? = none) (hle : m ≤ n) :
    a.steps n = a.steps m := by
  obtain ⟨k, rfl⟩ := Nat.exists_eq_add_of_le hle
  rw [steps_add, steps_of_blocked blocked]

/-- Steps that stay among the agents with `P`, and each of which uses something up, come to an end
before more of them are taken than there is to use up. -/
theorem steps_blocked (P : Agent σ → Prop) (μ : Agent σ → Nat)
    (less : ∀ {a b : Agent σ}, P a → a.step? = some b → P b ∧ μ b < μ a) {a : Agent σ} (ha : P a)
    {n : Nat} (hn : μ a ≤ n) : (a.steps n).step? = none := by
  induction n generalizing a with
  | zero =>
    cases hstep : a.step? with
    | none => exact hstep
    | some b => exact absurd (less ha hstep).2 (by omega)
  | succ n ih =>
    simp only [steps]
    split
    · next blocked => exact blocked
    · next b taken =>
      obtain ⟨hb, hlt⟩ := less ha taken
      exact ih hb (by omega)

/-- Whatever happens to the agent, its task can settle. -/
def ComesToRest (a : Agent σ) : Prop := ∀ b, Reaches a b → b.settle.step? = none

namespace ComesToRest

theorem reaches {a b : Agent σ} (h : a.ComesToRest) (hab : Reaches a b) : b.ComesToRest :=
  fun c hbc => h c (hab.trans hbc)

theorem settled {a : Agent σ} (h : a.ComesToRest) : a.settle.step? = none :=
  h a (Reaches.refl a)

theorem now_advanceTo {a : Agent σ} {target : Nat} (h : a.ComesToRest) :
    (a.advanceTo target).now = target := by
  fun_induction advanceTo with
  | case1 a awake =>
    rw [h.settled] at awake
    cases awake
  | case2 => rfl
  | case3 a awake due hd later ih =>
    refine ih (h.reaches ((reaches_settle a).tail (.pass h.settled ?_ ?_)))
    · simpa using Nat.le_of_lt later.1
    · intro due' hd'
      exact Nat.le_of_eq (Option.some.inj (hd.symm.trans hd'))
  | case4 => rfl

theorem now_act {a : Agent σ} (h : a.ComesToRest) (action : Action) :
    (a.act action).2.now = a.now + action.millis := by
  cases action with
  | start =>
    simp only [act]
    split
    · next started =>
      obtain ⟨_, rfl⟩ := start?_eq_ok started
      rfl
    · rfl
  | stop =>
    simp only [act, stop]
    split <;> rfl
  | advance millis => exact h.now_advanceTo
  | http => rfl
  | snapshot => rfl

/-- A session takes as long as its commands ask for. -/
theorem now_after {a : Agent σ} (h : a.ComesToRest) (commands : List Command) :
    (a.after commands).now = a.now + Command.elapsed commands := by
  induction commands generalizing a with
  | nil => rfl
  | cons command rest ih =>
    have hnow : (a.perform command).2.now = a.now + command.action.millis := by
      simp only [perform]
      split
      · rw [now_settle, h.now_act]
      · exact h.now_act _
    rw [after_cons, ih (h.reaches (reaches_perform command a)), hnow]
    simp only [Command.elapsed, Nat.add_assoc]

theorem now_settle_after {a : Agent σ} (h : a.ComesToRest) (commands : List Command) :
    (a.after commands).settle.now = a.now + Command.elapsed commands := by
  rw [now_settle, h.now_after]

theorem settled_after {a : Agent σ} (h : a.ComesToRest) (commands : List Command) :
    (a.after commands).settle.step? = none := h _ (reaches_after commands a)

end ComesToRest

/-! ## What the task and the clock keep -/

theorem settle_keeps {P : Agent σ → Prop}
    (step : ∀ {a b : Agent σ}, a.step? = some b → P a → P b) {a : Agent σ} (ha : P a) :
    P a.settle := by
  have h (n : Nat) (a : Agent σ) (ha : P a) : P (a.steps n) := by
    induction n generalizing a with
    | zero => exact ha
    | succ n ih =>
      simp only [steps]
      split
      · exact ha
      · next b taken => exact ih b (step taken ha)
  exact h _ a ha

theorem advanceTo_keeps {P : Agent σ → Prop}
    (step : ∀ {a b : Agent σ}, a.step? = some b → P a → P b)
    (pass : ∀ {a : Agent σ} (time : Nat), P a → P { a with now := time }) {a : Agent σ}
    {target : Nat} (ha : P a) : P (a.advanceTo target) := by
  fun_induction advanceTo with
  | case1 => exact settle_keeps step ha
  | case2 => exact pass _ (settle_keeps step ha)
  | case3 a awake due hd later ih => exact ih (pass _ (settle_keeps step ha))
  | case4 => exact pass _ (settle_keeps step ha)

/-! ## What the owner did -/

theorem task_perform_absent {a : Agent σ} (ha : a.task = .absent) {command : Command}
    (hc : command.action ≠ .start) : (a.perform command).2.task = .absent := by
  have step {a b : Agent σ} (taken : a.step? = some b) (ha : a.task = .absent) :
      b.task = .absent := by
    simp [step?, ha] at taken
  have hact : (a.act command.action).2.task = .absent := by
    cases h : command.action with
    | start => exact absurd h hc
    | stop =>
      simp only [act, stop]
      split
      · exact ha
      · exact ha
    | advance millis => exact advanceTo_keeps step (fun _ h => h) ha
    | http => exact ha
    | snapshot => exact ha
  simp only [perform]
  split
  · exact settle_keeps step hact
  · exact hact

/-- Without a start or a stop only time passes. -/
theorem after_of_absent {a : Agent σ} (ha : a.task = .absent) {commands : List Command}
    (hc : ∀ c ∈ commands, c.action ≠ .start ∧ c.action ≠ .stop) :
    a.after commands = { a with now := a.now + Command.elapsed commands } := by
  have settled {b : Agent σ} (hb : b.task = .absent) : b.settle = b :=
    settle_of_blocked (by simp [step?, hb])
  have perform_eq (command : Command) (b : Agent σ) (hb : b.task = .absent)
      (h : command.action ≠ .start ∧ command.action ≠ .stop) :
      (b.perform command).2 = { b with now := b.now + command.action.millis } := by
    have hact : (b.act command.action).2 = { b with now := b.now + command.action.millis } := by
      cases hk : command.action with
      | start => exact absurd hk h.1
      | stop => exact absurd hk h.2
      | advance millis =>
        simp only [act, advance, Action.millis]
        rw [advanceTo, settled hb]
        simp [step?, nextDue, hb]
      | http => rfl
      | snapshot => rfl
    simp only [perform, hact]
    split
    · exact settled hb
    · rfl
  induction commands generalizing a with
  | nil => rfl
  | cons command rest ih =>
    obtain ⟨h, hrest⟩ := List.forall_mem_cons.1 hc
    rw [after_cons, perform_eq command a ha h, ih (by exact ha) hrest]
    simp only [Command.elapsed, Nat.add_assoc]

omit [ControlPlane σ] in
theorem taskAfter_ne_absent (loop : Loop) (answer : Answer) (a : Agent σ) :
    a.taskAfter loop answer ≠ .absent := by
  unfold taskAfter
  split
  · split
    · split <;> exact Task.noConfusion
    · split
      · exact Task.noConfusion
      · split <;> exact Task.noConfusion
  · exact Task.noConfusion

theorem Reaches.task_ne_absent {a b : Agent σ} (h : Reaches a b) (ha : a.task ≠ .absent) :
    b.task ≠ .absent := by
  refine h.keeps ha fun _ hc hb => ?_
  cases hc.change with
  | start => exact Task.noConfusion
  | step taken =>
    cases taken with
    | answer => exact taskAfter_ne_absent _ _ _
    | _ => exact Task.noConfusion
  | _ => exact hb

theorem task_perform_start {a : Agent σ} {command : Command} (hc : command.action = .start) :
    (a.perform command).2.task ≠ .absent := by
  have hact : (a.act command.action).2.task ≠ .absent := by
    by_cases ha : a.task = .absent
    · simp [hc, act, start?_of_absent ha]
    · simpa [hc, act, start?_of_started ha] using ha
  simp only [perform]
  split
  · exact (reaches_settle _).task_ne_absent hact
  · exact hact

/-- A task comes into being by a start only. -/
theorem task_after_eq_absent {a : Agent σ} (ha : a.task = .absent) (commands : List Command) :
    (a.after commands).task = .absent ↔ ∀ c ∈ commands, c.action ≠ .start := by
  induction commands generalizing a with
  | nil => simpa using ha
  | cons command rest ih =>
    rw [after_cons, List.forall_mem_cons]
    by_cases hc : command.action = .start
    · have h := (reaches_after rest _).task_ne_absent (task_perform_start (a := a) hc)
      exact ⟨fun h' => absurd h' h, fun h' => absurd hc h'.1⟩
    · rw [ih (task_perform_absent ha hc)]
      exact ⟨fun h => ⟨hc, h⟩, fun h => h.2⟩

theorem state_step_ne_stopped {a b : Agent σ} (taken : a.step? = some b)
    (ha : a.state ≠ .stopped) : b.state ≠ .stopped := by
  cases stride_of_step? taken with
  | enter => exact Lifecycle.noConfusion
  | answer =>
    show stateAfter _ _ _ ≠ _
    unfold stateAfter
    split
    · exact Lifecycle.noConfusion
    · exact ha
  | _ => exact ha

theorem state_perform_ne_stopped {a : Agent σ} (ha : a.state ≠ .stopped) {command : Command}
    (hc : command.action ≠ .stop) : (a.perform command).2.state ≠ .stopped := by
  have hact : (a.act command.action).2.state ≠ .stopped := by
    cases h : command.action with
    | start =>
      simp only [act]
      split
      · next started =>
        obtain ⟨_, rfl⟩ := start?_eq_ok started
        exact ha
      · exact ha
    | stop => exact absurd h hc
    | advance millis => exact advanceTo_keeps state_step_ne_stopped (fun _ h => h) ha
    | http => exact ha
    | snapshot => exact ha
  simp only [perform]
  split
  · exact settle_keeps state_step_ne_stopped hact
  · exact hact

omit [ControlPlane σ] in
@[simp] theorem state_stop (a : Agent σ) : a.stop.state = .stopped := by
  unfold stop
  split
  · next stopped => exact stopped
  · rfl

theorem state_perform_stop (a : Agent σ) {command : Command} (hc : command.action = .stop) :
    (a.perform command).2.state = .stopped := by
  simp only [perform, hc, act]
  split
  · exact (reaches_settle _).state_stopped (state_stop a)
  · exact state_stop a

/-- An agent is stopped by a stop only. -/
theorem state_after_eq_stopped {a : Agent σ} (ha : a.state ≠ .stopped) (commands : List Command) :
    (a.after commands).state = .stopped ↔ ∃ c ∈ commands, c.action = .stop := by
  induction commands generalizing a with
  | nil => simpa using ha
  | cons command rest ih =>
    rw [after_cons]
    by_cases hc : command.action = .stop
    · have h := (reaches_after rest _).state_stopped (state_perform_stop a hc)
      exact ⟨fun _ => ⟨command, List.mem_cons_self, hc⟩, fun _ => h⟩
    · rw [ih (state_perform_ne_stopped ha hc)]
      simp [hc]

end Agent
end ClusterMember
