import ClusterMember.Agent.Script
import ClusterMember.Proofs.Agent.Answer
import Mathlib.Data.List.Infix

/-! # The schedule of registrations

A registration that fails is tried again, at once after a redirect and after a wait otherwise. So
the steps of a script fix when each registration is called for, and where.

* `Step.inTime`, `Step.span`, `Step.leader?`, `Step.accepts`, `Step.crashes`: what a step makes of a
  call with a given limit.
* `Timings.spent`: how long failing registrations take, with the waits after them.
* `Timings.leaderAfter`, `Timings.redirects`: where they lead, and how often.
* `Timings.registration`: the call that is made after them.
-/

namespace ClusterMember
set_option autoImplicit false

namespace Step

/-! ## One call -/

/-- Whether the step answers within a limit of so many milliseconds. -/
def inTime (limit : Nat) (step : Step) : Bool :=
  decide (step.act ≠ .hang ∧ min step.delay Duration.longestWait ≤ limit)

/-- How long a call with a limit takes. -/
def span (limit : Nat) (step : Step) : Nat :=
  if step.act = .hang then limit else min (min step.delay Duration.longestWait) limit

/-- The leader that the step names in time. -/
def leader? (limit : Nat) (step : Step) : Option String :=
  match step.act with
  | .reply reply => if step.inTime limit then (Answer.reply reply).leader? else none
  | .fail _ | .failHere _ | .crash _ | .hang => none

def accepts (limit : Nat) (step : Step) : Bool :=
  match step.act with
  | .reply reply => step.inTime limit && reply.ok
  | .fail _ | .failHere _ | .crash _ | .hang => false

/-- Whether the step breaks the client down in time. -/
def crashes (limit : Nat) (step : Step) : Bool :=
  match step.act with
  | .crash _ => step.inTime limit
  | .reply _ | .fail _ | .failHere _ | .hang => false

/-- What becomes of a call that is handled by a step: its span, and what its answer says. -/
theorem result_handling (endpoint : String) (call : Call) (step : Step) :
    let result := (step.handling endpoint).result call
    let limit := call.limit.millis
    result.1 = step.span limit ∧
    result.2.leader? = step.leader? limit ∧
    result.2.accepts = step.accepts limit ∧
    (step.crashes limit = false → ∀ cause, result.2 ≠ .crash cause) := by
  obtain ⟨delay, act⟩ := step
  by_cases h : min delay Duration.longestWait ≤ call.limit.millis
  · cases act <;>
      simp [handling, Handling.result, h, span, leader?, accepts, crashes, inTime, Answer.accepts,
        Answer.leader?]
  · have hle : call.limit.millis ≤ min delay Duration.longestWait := Nat.le_of_not_le h
    cases act <;>
      simp [handling, Handling.result, h, span, leader?, accepts, crashes, inTime, Answer.accepts,
        Answer.leader?, Nat.min_eq_right hle]

end Step

namespace Timings

/-! ## Failing registrations -/

/-- How long it takes from a registration that fails to the next one. -/
def turn (t : Timings) (step : Step) : Nat :=
  step.span t.registerTimeout.millis +
    if (step.leader? t.registerTimeout.millis).isSome then 0 else t.retryDelay.waited

/-- How long it takes from the first registration to the one after all that fail. -/
def spent (t : Timings) : List Step → Nat
  | [] => 0
  | step :: rest => t.turn step + t.spent rest

/-- The leader named last, or `home` if none was. -/
def leaderAfter (t : Timings) (home : String) (failing : List Step) : String :=
  failing.foldl (fun leader step => (step.leader? t.registerTimeout.millis).getD leader) home

def redirects (t : Timings) (failing : List Step) : Nat :=
  failing.countP fun step => (step.leader? t.registerTimeout.millis).isSome

/-- The registration that is made after those that fail, the first of them at `start`. -/
def registration (t : Timings) (identity : Identity) (home : String) (start : Nat)
    (failing : List Step) : Call where
  time := start + t.spent failing
  endpoint := t.leaderAfter home failing
  request := .register identity.workerId identity.address identity.cloudTag
  limit := t.registerTimeout

variable (t : Timings)

theorem turn_of_redirect {step : Step}
    (h : (step.leader? t.registerTimeout.millis).isSome = true) :
    t.turn step = step.span t.registerTimeout.millis := by
  rw [turn, if_pos h, Nat.add_zero]

theorem turn_of_retry {step : Step} (h : step.leader? t.registerTimeout.millis = none) :
    t.turn step = step.span t.registerTimeout.millis + t.retryDelay.waited := by
  rw [turn, h, if_neg (by simp)]

theorem span_le_turn (step : Step) : step.span t.registerTimeout.millis ≤ t.turn step :=
  Nat.le_add_right _ _

theorem spent_append (a b : List Step) : t.spent (a ++ b) = t.spent a + t.spent b := by
  induction a with
  | nil => exact (Nat.zero_add _).symm
  | cons step rest ih =>
    rw [List.cons_append, spent, spent, ih, Nat.add_assoc]

theorem spent_concat (done : List Step) (step : Step) :
    t.spent (done ++ [step]) = t.spent done + t.turn step := by
  rw [spent_append, spent, spent, Nat.add_zero]

theorem leaderAfter_concat (home : String) (done : List Step) (step : Step) :
    t.leaderAfter home (done ++ [step]) =
      (step.leader? t.registerTimeout.millis).getD (t.leaderAfter home done) := by
  simp [leaderAfter]

theorem redirects_concat (done : List Step) (step : Step) :
    t.redirects (done ++ [step]) =
      t.redirects done + if (step.leader? t.registerTimeout.millis).isSome then 1 else 0 := by
  simp [redirects, List.countP_cons]

end Timings
end ClusterMember
