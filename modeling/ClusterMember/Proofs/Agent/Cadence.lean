import ClusterMember.Proofs.Agent.Leader
import Mathlib.Algebra.BigOperators.Group.Finset.Basic
import Mathlib.Data.Nat.Count

/-! # The schedule of heartbeats

A heartbeat is followed by the next one after a wait, however it ends. So the steps of a script fix
when each heartbeat is sent, where it goes, and which counter it goes to.

* `Landing`, `Step.landing`: the four ways in which a heartbeat is counted.
* `Cadence`: heartbeats as a script lays them down.
* `Cadence.time`, `Cadence.endpoint`, `Cadence.call`: when they are sent and where they go.
* `Cadence.due`, `Cadence.answer`: when and how they end.
* `Cadence.Tally`: what so many of them add to the counters.
-/

namespace ClusterMember
set_option autoImplicit false

/-- The counter that a heartbeat goes to. -/
inductive Landing
  | accepted
  | redirected
  | rejected
  | failed
deriving DecidableEq

def Landing.count (wallClock : Nat) : Landing → Counters → Counters
  | accepted, c => c.countBeat wallClock
  | redirected, c => c.countRedirect
  | rejected, c => c.countRejectedBeat
  | failed, c => c.countFailedBeat

namespace Step

/-! ## One heartbeat -/

/-- What a heartbeat with a limit is counted as. Whatever comes after the limit is a failure. -/
def landing (limit : Nat) (step : Step) : Landing :=
  match step.act with
  | .reply reply =>
    if step.inTime limit then
      match reply.verdict with
      | .accepted => .accepted
      | .redirected _ => .redirected
      | .rejected _ => .rejected
    else .failed
  | .fail _ | .failHere _ | .crash _ | .hang => .failed

theorem result_late (endpoint : String) (call : Call) {step : Step}
    (h : step.inTime call.limit.millis = false) :
    ((step.handling endpoint).result call).2 = .fault (.timeout call.endpoint call.limit) := by
  obtain ⟨delay, act⟩ := step
  cases act with
  | hang => rfl
  | _ =>
    have late : ¬ min delay Duration.longestWait ≤ call.limit.millis := by simpa [inTime] using h
    simp [handling, Handling.result, late]

theorem landing_late {limit : Nat} {step : Step} (h : step.inTime limit = false) :
    step.landing limit = .failed := by
  unfold landing
  split
  · rw [h]
    rfl
  all_goals rfl

theorem count_result (endpoint : String) (call : Call) (step : Step) (missed wallClock : Nat)
    (c : Counters) :
    ((step.handling endpoint).result call).2.count (.beating missed) wallClock c =
      (step.landing call.limit.millis).count wallClock c := by
  cases ht : step.inTime call.limit.millis with
  | false =>
    rw [result_late endpoint call ht, landing_late ht]
    rfl
  | true =>
    obtain ⟨delay, act⟩ := step
    have early : min delay Duration.longestWait ≤ call.limit.millis :=
      (of_decide_eq_true ht).2
    cases act with
    | hang => exact absurd rfl (of_decide_eq_true ht).1
    | reply reply =>
      simp only [handling, Handling.result, early, if_true, landing, ht]
      cases hok : reply.ok with
      | true => simp [Reply.verdict_of_ok hok, Answer.count, Answer.accepts, hok, Landing.count]
      | false =>
        by_cases hl : reply.leaderAddr = ""
        · simp [Reply.verdict_of_refusal hok hl, Answer.count, Answer.accepts, Answer.leader?, hok,
            hl, Landing.count]
        · simp [Reply.verdict_of_leader hok hl, Answer.count, Answer.accepts, Answer.leader?, hok,
            hl, Landing.count]
    | _ =>
      simp [handling, Handling.result, early, landing, Answer.count, Answer.accepts,
        Answer.leader?, Landing.count]

end Step

/-- Heartbeats as a script lays them down for an agent that becomes a member at a given moment, and
takes a given address for the leader's. -/
structure Cadence where
  identity : Identity
  timings : Timings
  script : Script
  start : Nat
  leader : String

namespace Cadence
variable (c : Cadence)

/-! ## All heartbeats -/

abbrev limit : Nat := c.timings.heartbeatTimeout.millis

def step (k : Nat) : Step := c.script.stepFor false k

/-- How long it takes from a heartbeat to the next one. -/
def period (k : Nat) : Nat := (c.step k).span c.limit + c.timings.heartbeatInterval.waited

/-- When the heartbeat is sent that `k` went before. -/
def time (k : Nat) : Nat := c.start + ∑ j ∈ Finset.range k, c.period j

/-- Where it is sent: to the leader named last. -/
def endpoint : Nat → String
  | 0 => c.leader
  | k + 1 => ((c.step k).leader? c.limit).getD (endpoint k)

def call (k : Nat) : Call where
  time := c.time k
  endpoint := c.endpoint k
  request := .heartbeat c.identity.workerId
  limit := c.timings.heartbeatTimeout

def due (k : Nat) : Nat := c.time k + (c.step k).span c.limit

def answer (k : Nat) : Answer := (((c.step k).handling (c.endpoint k)).result (c.call k)).2

def landing (k : Nat) : Landing := (c.step k).landing c.limit

/-- How many of the first `n` heartbeats are counted in a given way. -/
def landings (way : Landing) (n : Nat) : Nat := Nat.count (fun k => c.landing k = way) n

theorem time_zero : c.time 0 = c.start := by
  rw [time, Finset.sum_range_zero, Nat.add_zero]

theorem time_succ (k : Nat) : c.time (k + 1) = c.due k + c.timings.heartbeatInterval.waited := by
  rw [time, Finset.sum_range_succ, due, time, period]
  omega

theorem time_le_due (k : Nat) : c.time k ≤ c.due k := Nat.le_add_right _ _

theorem due_le_time_succ (k : Nat) : c.due k ≤ c.time (k + 1) := by
  rw [time_succ]
  exact Nat.le_add_right _ _

theorem time_mono : Monotone c.time :=
  monotone_nat_of_le_succ fun k => Nat.le_trans (c.time_le_due k) (c.due_le_time_succ k)

theorem due_mono : Monotone c.due :=
  monotone_nat_of_le_succ fun k => Nat.le_trans (c.due_le_time_succ k) (c.time_le_due (k + 1))

/-- A heartbeat that is not answered in time fails, whatever would have come later. -/
theorem answer_late {k : Nat} (h : (c.step k).inTime c.limit = false) :
    c.answer k = .fault (.timeout (c.endpoint k) c.timings.heartbeatTimeout) :=
  Step.result_late (c.endpoint k) (c.call k) h

/-! ## The counters -/

/-- What the first `n` heartbeats add to the counters. -/
structure Tally (n : Nat) (before after : Counters) : Prop where
  registrationAttempts : after.registrationAttempts = before.registrationAttempts
  registrations : after.registrations = before.registrations
  heartbeatsOk : after.heartbeatsOk = before.heartbeatsOk + c.landings .accepted n
  redirects : after.redirects = before.redirects + c.landings .redirected n
  heartbeatsRejected : after.heartbeatsRejected = before.heartbeatsRejected + c.landings .rejected n
  heartbeatsFailed : after.heartbeatsFailed = before.heartbeatsFailed + c.landings .failed n

variable {c}

theorem landings_succ (way : Landing) (n : Nat) :
    c.landings way (n + 1) = c.landings way n + if c.landing n = way then 1 else 0 :=
  Nat.count_succ _ _

theorem Tally.zero (before : Counters) : c.Tally 0 before before := by
  constructor <;> rfl

theorem Tally.succ {n : Nat} {before after : Counters} (h : c.Tally n before after)
    (wallClock : Nat) : c.Tally (n + 1) before ((c.landing n).count wallClock after) := by
  obtain ⟨attempts, registrations, ok, redirects, rejected, failed⟩ := h
  cases hl : c.landing n <;>
    constructor <;>
      simp [Landing.count, Counters.countBeat, Counters.countRedirect, Counters.countRejectedBeat,
        Counters.countFailedBeat, landings_succ, hl, attempts, registrations, ok, redirects,
        rejected, failed, Nat.add_assoc]

end Cadence
end ClusterMember
