import ClusterMember.Agent.Session
import ClusterMember.Proofs.Agent.Answer
import Mathlib.Logic.Relation

/-! # Runs of an agent

A run is made of moves: the owner starts or stops the agent, the task takes a step, or time passes
while the task is blocked. The owner may come in between any two steps of the task, also at a moment
when a call or a wait falls due; a session is the special case in which the task settles first.

* `Agent.new`: an agent as it is made.
* `Agent.Move`, `Agent.Reaches`: one move, and a run.
* `Agent.Stride`, `Agent.Change`: all that a step of the task, and a move, can do.
* `Agent.Reaches.keeps`: what every move keeps, every run keeps.
* `Agent.reaches_after`: a session is a run.
-/

namespace ClusterMember
set_option autoImplicit false

/-- Whether a task is running while none of its calls is in flight. -/
def Task.isBetweenCalls : Task → Bool
  | .ready | .turn _ | .waiting .. => true
  | .absent | .calling .. | .finished | .crashed _ => false

namespace Agent
variable {σ : Type}

def new (identity : Identity) (timings : Timings) (epoch : Int) (plane : σ) (endpoint : String) :
    Agent σ :=
  { identity, timings, epoch, plane, endpoint }

theorem start?_eq_ok {a b : Agent σ} (h : a.start? = .ok b) :
    a.task = .absent ∧ b = { a with task := .ready } := by
  unfold start? at h
  split at h
  · next ha => exact ⟨ha, (Except.ok.inj h).symm⟩
  · exact absurd h (by simp)

theorem start?_of_absent {a : Agent σ} (h : a.task = .absent) :
    a.start? = .ok { a with task := .ready } := if_pos h

theorem start?_of_started {a : Agent σ} (h : a.task ≠ .absent) :
    a.start? = .error .alreadyStarted := if_neg h

variable [ControlPlane σ]

/-! ## Moves -/

/-- One thing that happens to an agent. -/
inductive Move : Agent σ → Agent σ → Prop
  | start {a b : Agent σ} (started : a.start? = .ok b) : Move a b
  | stop (a : Agent σ) : Move a a.stop
  | step {a b : Agent σ} (taken : a.step? = some b) : Move a b
  /-- Time passes, at most until the task is no longer blocked. -/
  | pass {a : Agent σ} {time : Nat} (blocked : a.step? = none) (later : a.now ≤ time)
      (inTime : ∀ due, a.nextDue = some due → time ≤ due) : Move a { a with now := time }

/-- A run leads from one agent to another. -/
def Reaches (a b : Agent σ) : Prop := Relation.ReflTransGen Move a b

/-- A call of a loop that is made now, with the answer that it will end with. -/
def placed (loop : Loop) (a : Agent σ) : Pending :=
  let result := (ControlPlane.handle (a.nextCall loop) a.plane).1.result (a.nextCall loop)
  ⟨a.nextCall loop, a.now + result.1, result.2⟩

/-- What the client notes down while it handles the call of a loop, the latest first. -/
def remarks (loop : Loop) (a : Agent σ) : List Notice :=
  (ControlPlane.handle (a.nextCall loop) a.plane).1.notices.reverse

/-- An agent that has just made the call of a loop. -/
abbrev called (loop : Loop) (a : Agent σ) : Agent σ :=
  { a with
    plane := (ControlPlane.handle (a.nextCall loop) a.plane).2
    counters := if loop.isRegistering then a.counters.countAttempt else a.counters
    task := .calling loop (a.placed loop)
    history := (a.remarks loop).map (Event.noticed a.now) ++
      .called (a.nextCall loop) :: a.history }

theorem placeCall_eq (loop : Loop) (a : Agent σ) : a.placeCall loop = a.called loop := by
  rw [called, remarks, List.map_reverse]
  cases loop <;> rfl

/-- What a step of the task changes, written out for each kind of step. -/
inductive Stride : Agent σ → Agent σ → Prop
  | enter {a : Agent σ} (ready : a.task = .ready) (live : a.state ≠ .stopped) :
      Stride a
        { a with
          state := .registering
          task := .turn .registering
          history := .noticed a.now (.starting a.endpoint) :: a.history }
  | call {a : Agent σ} {loop : Loop} (turn : a.task = .turn loop) (live : a.state ≠ .stopped) :
      Stride a (a.called loop)
  | answer {a : Agent σ} {loop : Loop} {pending : Pending} (notices : List Notice)
      (calling : a.task = .calling loop pending) (due : pending.due ≤ a.now) :
      Stride a (a.answered loop pending notices)
  | wake {a : Agent σ} {loop : Loop} {time : Nat} (waiting : a.task = .waiting loop time)
      (live : a.state ≠ .stopped) (due : time ≤ a.now) : Stride a { a with task := .turn loop }
  | leave {a : Agent σ} (notices : List Notice) (between : a.task.isBetweenCalls = true)
      (stopped : a.state = .stopped) :
      Stride a
        { a with
          task := .finished
          history := notices.map (Event.noticed a.now) ++ a.history }

/-- What a move changes. -/
inductive Change : Agent σ → Agent σ → Prop
  | start {a : Agent σ} (absent : a.task = .absent) : Change a { a with task := .ready }
  | stop {a : Agent σ} (live : a.state ≠ .stopped) :
      Change a
        { a with
          state := .stopped
          history := .noticed a.now (.stopped a.state) :: a.history }
  | again (a : Agent σ) : Change a a
  | step {a b : Agent σ} (taken : Stride a b) : Change a b
  | pass {a : Agent σ} {time : Nat} (blocked : a.step? = none) (later : a.now ≤ time)
      (inTime : ∀ due, a.nextDue = some due → time ≤ due) : Change a { a with now := time }

theorem stride_begin {a : Agent σ} (ready : a.task = .ready) : Stride a a.begin := by
  unfold begin
  split
  · next stopped => exact .leave [] (by rw [ready]; rfl) stopped
  · next live => exact .enter ready live

theorem stride_leave {a : Agent σ} {loop : Loop} (between : a.task.isBetweenCalls = true)
    (stopped : a.state = .stopped) : Stride a (a.leave loop) := by
  cases loop with
  | registering => exact .leave [] between stopped
  | beating missed => exact .leave [.beatsEnded] between stopped

theorem stride_of_step? {a b : Agent σ} (taken : a.step? = some b) : Stride a b := by
  unfold step? at taken
  split at taken
  · cases taken
  · cases taken
  · cases taken
  · next ready =>
    cases taken
    exact stride_begin ready
  · next loop turn =>
    cases taken
    split
    · next stopped => exact stride_leave (by rw [turn]; rfl) stopped
    · next live => exact placeCall_eq loop a ▸ .call turn live
  · next loop pending calling =>
    split at taken
    · next due =>
      cases taken
      obtain ⟨notices, h⟩ := complete_eq loop pending a
      exact h ▸ .answer notices calling due
    · cases taken
  · next loop time waiting =>
    split at taken
    · next stopped =>
      cases taken
      exact stride_leave (by rw [waiting]; rfl) stopped
    · next live =>
      split at taken
      · next due =>
        cases taken
        exact .wake waiting live due
      · cases taken

theorem Move.change {a b : Agent σ} (h : Move a b) : Change a b := by
  cases h with
  | start started =>
    obtain ⟨absent, rfl⟩ := start?_eq_ok started
    exact .start absent
  | stop =>
    unfold Agent.stop
    split
    · exact .again a
    · next live => exact .stop live
  | step taken => exact .step (stride_of_step? taken)
  | pass blocked later inTime => exact .pass blocked later inTime

/-! ## Runs -/

namespace Reaches

theorem refl (a : Agent σ) : Reaches a a := Relation.ReflTransGen.refl

theorem single {a b : Agent σ} (h : Move a b) : Reaches a b := Relation.ReflTransGen.single h

theorem trans {a b c : Agent σ} (h : Reaches a b) (h' : Reaches b c) : Reaches a c :=
  Relation.ReflTransGen.trans h h'

theorem tail {a b c : Agent σ} (h : Reaches a b) (h' : Move b c) : Reaches a c :=
  Relation.ReflTransGen.tail h h'

/-- What holds at first and is kept by every move along a run holds at its end. -/
@[elab_as_elim]
theorem keeps {P : Agent σ → Prop} {a b : Agent σ} (h : Reaches a b) (first : P a)
    (kept : ∀ {b c : Agent σ}, Reaches a b → Move b c → P b → P c) : P b := by
  induction h with
  | refl => exact first
  | tail hab hbc ih => exact kept hab hbc ih

theorem identity_eq {a b : Agent σ} (h : Reaches a b) : b.identity = a.identity := by
  refine h.keeps rfl fun _ hc hb => ?_
  cases hc.change with
  | step taken => cases taken <;> exact hb
  | _ => exact hb

theorem timings_eq {a b : Agent σ} (h : Reaches a b) : b.timings = a.timings := by
  refine h.keeps rfl fun _ hc hb => ?_
  cases hc.change with
  | step taken => cases taken <;> exact hb
  | _ => exact hb

theorem epoch_eq {a b : Agent σ} (h : Reaches a b) : b.epoch = a.epoch := by
  refine h.keeps rfl fun _ hc hb => ?_
  cases hc.change with
  | step taken => cases taken <;> exact hb
  | _ => exact hb

theorem now_le {a b : Agent σ} (h : Reaches a b) : a.now ≤ b.now := by
  refine h.keeps (Nat.le_refl _) fun _ hc hb => ?_
  cases hc.change with
  | pass _ later _ => exact Nat.le_trans hb later
  | step taken => cases taken <;> exact hb
  | _ => exact hb

theorem state_stopped {a b : Agent σ} (h : Reaches a b) (ha : a.state = .stopped) :
    b.state = .stopped := by
  refine h.keeps ha fun _ hc hb => ?_
  cases hc.change with
  | stop => rfl
  | step taken =>
    cases taken with
    | enter _ live => exact absurd hb live
    | answer => simp [stateAfter, hb]
    | _ => exact hb
  | _ => exact hb

theorem history_suffix {a b : Agent σ} (h : Reaches a b) : a.history <:+ b.history := by
  refine h.keeps (List.suffix_refl _) fun _ hc hb => ?_
  cases hc.change with
  | stop => exact hb.trans (List.suffix_cons _ _)
  | step taken =>
    cases taken with
    | enter => exact hb.trans (List.suffix_cons _ _)
    | call => exact hb.trans ((List.suffix_cons _ _).trans (List.suffix_append _ _))
    | answer => exact hb.trans ((List.suffix_cons _ _).trans (List.suffix_append _ _))
    | wake => exact hb
    | leave => exact hb.trans (List.suffix_append _ _)
  | _ => exact hb

end Reaches

/-! ## Sessions -/

theorem reaches_steps (n : Nat) (a : Agent σ) : Reaches a (a.steps n) := by
  induction n generalizing a with
  | zero => exact Reaches.refl a
  | succ n ih =>
    simp only [steps]
    split
    · exact Reaches.refl a
    · next b taken => exact (Reaches.single (.step taken)).trans (ih b)

theorem reaches_settle (a : Agent σ) : Reaches a a.settle := reaches_steps _ a

/-- A blocked task is due later than now. -/
theorem lt_of_nextDue {a : Agent σ} {due : Nat} (blocked : a.step? = none)
    (h : a.nextDue = some due) : a.now < due := by
  unfold nextDue at h
  unfold step? at blocked
  split at h
  · next loop pending calling =>
    cases h
    simp only [calling] at blocked
    split at blocked
    · cases blocked
    · next early => exact Nat.lt_of_not_le early
  · next loop time waiting =>
    cases h
    simp only [waiting] at blocked
    split at blocked
    · cases blocked
    · split at blocked
      · cases blocked
      · next early => exact Nat.lt_of_not_le early
  all_goals cases h

theorem reaches_advanceTo {target : Nat} {a : Agent σ} (h : a.now ≤ target) :
    Reaches a (a.advanceTo target) := by
  fun_induction advanceTo with
  | case1 => exact reaches_settle _
  | case2 a awake none =>
    refine (reaches_settle a).tail (.pass (by simpa using awake) (by simpa using h) ?_)
    intro due hd
    rw [none] at hd
    cases hd
  | case3 a awake due hd later ih =>
    refine ((reaches_settle a).tail (.pass (by simpa using awake) ?_ ?_)).trans (ih later.2)
    · simpa using Nat.le_of_lt later.1
    · intro due' hd'
      exact Nat.le_of_eq (Option.some.inj (hd.symm.trans hd'))
  | case4 a awake due hd later =>
    have blocked : a.settle.step? = Option.none := by simpa using awake
    refine (reaches_settle a).tail (.pass blocked (by simpa using h) ?_)
    intro due' hd'
    have hlt := lt_of_nextDue blocked hd'
    rw [now_settle] at hlt
    rw [hd] at hd'
    cases hd'
    omega

theorem reaches_advance (millis : Nat) (a : Agent σ) : Reaches a (a.advance millis) :=
  reaches_advanceTo (Nat.le_add_right _ _)

theorem reaches_act (action : Action) (a : Agent σ) : Reaches a (a.act action).2 := by
  cases action with
  | start =>
    simp only [act]
    split
    · next started => exact Reaches.single (.start started)
    · exact Reaches.refl a
  | stop => exact Reaches.single (.stop a)
  | advance millis => exact reaches_advance millis a
  | http => exact Reaches.refl a
  | snapshot => exact Reaches.refl a

theorem reaches_perform (command : Command) (a : Agent σ) : Reaches a (a.perform command).2 := by
  simp only [perform]
  split
  · exact (reaches_act _ a).trans (reaches_settle _)
  · exact reaches_act _ a

@[simp] theorem after_nil (a : Agent σ) : a.after [] = a := rfl

@[simp] theorem after_cons (command : Command) (rest : List Command) (a : Agent σ) :
    a.after (command :: rest) = (a.perform command).2.after rest := rfl

theorem after_append (before rest : List Command) (a : Agent σ) :
    a.after (before ++ rest) = (a.after before).after rest := List.foldl_append

/-- A session is a run. -/
theorem reaches_after (commands : List Command) (a : Agent σ) : Reaches a (a.after commands) := by
  induction commands generalizing a with
  | nil => exact Reaches.refl a
  | cons command rest ih => exact (reaches_perform command a).trans (ih _)

end Agent
end ClusterMember
