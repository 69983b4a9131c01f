import ClusterMember.Agent.Task

/-! # How an agent runs

Nothing takes time but calls and waits, so a run is a sequence of moments. At each of them the task
does all it can; then the clock goes on to the moment when it is no longer blocked.

* `Agent.settle`: let the task do all it can at the present moment.
* `Agent.advance`: let time pass.
* `Agent.runUntil`: let time pass until something has come about.
* `Agent.now_settle`: no time passes while the task does all it can.
-/

namespace ClusterMember
set_option autoImplicit false

namespace Agent
variable {σ : Type} [ControlPlane σ]

/-! ## One moment -/

/-- At most `n` steps of the task, at the present moment. -/
def steps : Nat → Agent σ → Agent σ
  | 0, a => a
  | n + 1, a =>
    match a.step? with
    | none => a
    | some b => steps n b

/-- More steps than a task can take at one moment, unless it would never be blocked again: four for
each call laid down in advance and for the two that may follow them. -/
def stamina (a : Agent σ) : Nat := 4 * (ControlPlane.unread a.plane + 2)

def settle (a : Agent σ) : Agent σ := a.steps a.stamina

/-! ## The clock stands still -/

omit [ControlPlane σ] in
@[simp] theorem now_note (notice : Notice) (a : Agent σ) : (a.note notice).now = a.now := rfl

omit [ControlPlane σ] in
@[simp] theorem now_wait (loop : Loop) (a : Agent σ) : (a.wait loop).now = a.now := rfl

omit [ControlPlane σ] in
@[simp] theorem now_follow (leader : String) (a : Agent σ) : (a.follow leader).now = a.now := rfl

omit [ControlPlane σ] in
@[simp] theorem now_retry (called : String) (fault : Fault) (a : Agent σ) :
    (a.retry called fault).now = a.now := rfl

omit [ControlPlane σ] in
@[simp] theorem now_miss (missed : Nat) (reason : String) (a : Agent σ) :
    (a.miss missed reason).now = a.now := by
  simp only [miss]; split <;> rfl

omit [ControlPlane σ] in
@[simp] theorem now_enterHeartbeats (a : Agent σ) : a.enterHeartbeats.now = a.now := by
  simp only [enterHeartbeats]; split <;> rfl

omit [ControlPlane σ] in
@[simp] theorem now_completeRegistration (called : String) (answer : Answer) (a : Agent σ) :
    (a.completeRegistration called answer).now = a.now := by
  unfold completeRegistration; split
  · split <;> simp
  · simp
  · rfl

omit [ControlPlane σ] in
@[simp] theorem now_completeBeat (called : String) (missed : Nat) (answer : Answer)
    (a : Agent σ) : (a.completeBeat called missed answer).now = a.now := by
  unfold completeBeat; split
  · split
    · dsimp only; split <;> simp
    · split <;> simp
  · simp
  · simp

omit [ControlPlane σ] in
@[simp] theorem now_complete (loop : Loop) (pending : Pending) (a : Agent σ) :
    (a.complete loop pending).now = a.now := by
  cases loop <;> simp [complete]

omit [ControlPlane σ] in
@[simp] theorem now_begin (a : Agent σ) : a.begin.now = a.now := by
  unfold begin; split <;> rfl

omit [ControlPlane σ] in
@[simp] theorem now_leave (loop : Loop) (a : Agent σ) : (a.leave loop).now = a.now := by
  cases loop <;> rfl

@[simp] theorem now_placeCall (loop : Loop) (a : Agent σ) : (a.placeCall loop).now = a.now := rfl

theorem now_of_step? {a b : Agent σ} (h : a.step? = some b) : b.now = a.now := by
  unfold step? at h
  split at h
  · simp at h
  · simp at h
  · simp at h
  · simp at h; simp [← h]
  · simp at h; subst h; split <;> simp
  · split at h <;> simp at h; simp [← h]
  · split at h
    · simp at h; simp [← h]
    · split at h <;> simp at h; simp [← h]

theorem now_steps (n : Nat) (a : Agent σ) : (a.steps n).now = a.now := by
  induction n generalizing a with
  | zero => rfl
  | succ n ih =>
    simp only [steps]
    split
    · rfl
    · next b h => rw [ih, now_of_step? h]

@[simp] theorem now_settle (a : Agent σ) : a.settle.now = a.now := now_steps _ a

/-! ## Passing time -/

/-- Let time pass until `target`: the task does all it can at the present moment, and again at every
moment up to the target, that one included, at which it is no longer blocked. No time passes while
there is something to do, so that the clock of a task that is never blocked stands still. -/
def advanceTo (target : Nat) (a : Agent σ) : Agent σ :=
  if a.settle.step?.isSome then a.settle
  else
    match a.settle.nextDue with
    | none => { a.settle with now := target }
    | some due =>
      if _later : a.now < due ∧ due ≤ target then advanceTo target { a.settle with now := due }
      else { a.settle with now := target }
termination_by target - a.now
decreasing_by omega

/-- Let `millis` milliseconds pass. -/
def advance (millis : Nat) (a : Agent σ) : Agent σ := a.advanceTo (a.now + millis)

/-- Let time pass until something holds of the settled agent, or for as many waits as `moments`. -/
def runUntil (done : Agent σ → Bool) : (moments : Nat) → Agent σ → Agent σ
  | 0, a => a.settle
  | moments + 1, a =>
    if done a.settle then a.settle
    else
      match a.settle.nextDue with
      | none => a.settle
      | some due => runUntil done moments { a.settle with now := max a.now due }

end Agent
end ClusterMember
