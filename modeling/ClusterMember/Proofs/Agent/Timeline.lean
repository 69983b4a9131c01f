import ClusterMember.Proofs.Agent.Reports
import ClusterMember.Proofs.Agent.Rest

/-! # How finely time is driven

An agent that comes to rest at every moment does not notice whether time passes at once or in parts.
A part may end in the middle of a call or of a wait, and also at the very moment when one falls due.

* `Agent.ComesToRest.advanceTo_advanceTo`: time that passes in two parts.
* `Agent.ComesToRest.after_advances`: time that passes in any number of parts.
* `Agent.time_is_additive`: what this means for every run over a script.
-/

namespace ClusterMember
set_option autoImplicit false

namespace Agent
variable {σ : Type} [ControlPlane σ]

/-! ## The clock of a blocked task -/

/-- A blocked task stays so until it is due. -/
theorem step?_pass {a : Agent σ} (blocked : a.step? = none) {time : Nat}
    (early : ∀ due, a.nextDue = some due → time < due) : { a with now := time }.step? = none := by
  obtain ⟨identity, timings, epoch, plane, now, endpoint, state, counters, task, history⟩ := a
  cases task with
  | absent => rfl
  | finished => rfl
  | crashed => rfl
  | ready => cases blocked
  | turn => cases blocked
  | calling loop pending =>
    have hlt : time < pending.due := early pending.due rfl
    exact if_neg (Nat.not_le_of_lt hlt)
  | waiting loop wake =>
    have hlt : time < wake := early wake rfl
    have live : state ≠ .stopped := by
      intro stopped
      simp [step?, stopped] at blocked
    simp [step?, live, hlt]

/-- How far the clock goes from a moment at which the task settles. -/
theorem advanceTo_of_settled {a b : Agent σ} (settled : a.settle = b) (blocked : b.step? = none)
    (target : Nat) :
    a.advanceTo target =
      match b.nextDue with
      | none => { b with now := target }
      | some due =>
        if a.now < due ∧ due ≤ target then { b with now := due }.advanceTo target
        else { b with now := target } := by
  subst settled
  rw [advanceTo, if_neg (by simp [blocked])]
  cases a.settle.nextDue with
  | none => rfl
  | some due => exact dite_eq_ite

namespace ComesToRest

/-- After time has passed the task is at rest. -/
theorem settled_advanceTo {a : Agent σ} {target : Nat} (h : a.ComesToRest) :
    (a.advanceTo target).step? = none := by
  fun_induction advanceTo with
  | case1 a awake => exact h.settled
  | case2 a awake hd => exact step?_pass h.settled (by simp [hd])
  | case3 a awake due hd later ih =>
    refine ih (h.reaches ((reaches_settle a).tail (.pass h.settled ?_ ?_)))
    · simpa using Nat.le_of_lt later.1
    · intro due' hd'
      exact Nat.le_of_eq (Option.some.inj (hd.symm.trans hd'))
  | case4 a awake due hd later =>
    refine step?_pass h.settled fun due' hd' => ?_
    have hlt := lt_of_nextDue h.settled hd'
    rw [now_settle] at hlt
    cases hd.symm.trans hd'
    omega

/-- Time that passes in two parts. -/
theorem advanceTo_advanceTo {a : Agent σ} {first target : Nat} (h : a.ComesToRest)
    (le : first ≤ target) : (a.advanceTo first).advanceTo target = a.advanceTo target := by
  fun_induction advanceTo first a with
  | case1 a awake => exact absurd h.settled (by simpa [Option.isSome_iff_ne_none] using awake)
  | case2 a awake hd =>
    have blocked : { a.settle with now := first }.step? = none :=
      step?_pass h.settled (by simp [hd])
    have hd' : { a.settle with now := first }.nextDue = none := hd
    rw [advanceTo_of_settled (settle_of_blocked blocked) blocked, hd',
      advanceTo_of_settled rfl h.settled, hd]
  | case3 a awake due hd later ih =>
    have rest : { a.settle with now := due }.ComesToRest := by
      refine h.reaches ((reaches_settle a).tail (.pass h.settled ?_ ?_))
      · simpa using Nat.le_of_lt later.1
      · intro due' hd'
        exact Nat.le_of_eq (Option.some.inj (hd.symm.trans hd'))
    rw [ih rest, advanceTo_of_settled rfl h.settled target, hd]
    exact (if_pos ⟨later.1, Nat.le_trans later.2 le⟩).symm
  | case4 a awake due hd later =>
    have hlt : a.now < due := by simpa using lt_of_nextDue h.settled hd
    have early : first < due := by omega
    have blocked : { a.settle with now := first }.step? = none := by
      refine step?_pass h.settled fun due' hd' => ?_
      cases hd.symm.trans hd'
      exact early
    have hd' : { a.settle with now := first }.nextDue = some due := hd
    -- The first part ended before the task fell due, so that the second finds it as the whole does.
    rw [advanceTo_of_settled (settle_of_blocked blocked) blocked, hd',
      advanceTo_of_settled rfl h.settled, hd]
    simp only [hlt, early, true_and]

theorem advance_advance {a : Agent σ} (h : a.ComesToRest) (m n : Nat) :
    (a.advance m).advance n = a.advance (m + n) := by
  have hnow : (a.advance m).now = a.now + m := h.now_advanceTo
  show (a.advance m).advanceTo ((a.advance m).now + n) = _
  rw [hnow, Nat.add_assoc]
  exact h.advanceTo_advanceTo (by omega)

theorem perform_advance {a : Agent σ} (h : a.ComesToRest) {command : Command} {millis : Nat}
    (hm : command.action = .advance millis) : (a.perform command).2 = a.advance millis := by
  simp only [perform, hm, act]
  split
  · exact settle_of_blocked h.settled_advanceTo
  · rfl

/-- A session in which nothing is done but to let time pass. -/
theorem after_advances {a : Agent σ} (h : a.ComesToRest) {first : Command} {rest : List Command}
    (advances : ∀ command ∈ first :: rest, ∃ millis, command.action = .advance millis) :
    a.after (first :: rest) = a.advance (Command.elapsed (first :: rest)) := by
  obtain ⟨millis, hm⟩ := advances first List.mem_cons_self
  rw [after_cons, h.perform_advance hm, Command.elapsed, hm]
  induction rest generalizing a first millis with
  | nil => rfl
  | cons second rest ih =>
    have hrest : (a.advance millis).ComesToRest := h.reaches (reaches_advance millis a)
    have later : ∀ command ∈ second :: rest, ∃ millis, command.action = .advance millis :=
      fun command hc => advances command (List.mem_cons_of_mem _ hc)
    obtain ⟨next, hn⟩ := later second List.mem_cons_self
    rw [after_cons, hrest.perform_advance hn, ih hrest later next hn, h.advance_advance,
      Command.elapsed, hn]
    rfl

end ComesToRest

/-! ## Every run over a script -/

/-- Two stretches of time and the whole that they make up. An agent over a script, in whatever state
a run has brought it, ends up in the same state, with the same call or wait before it and the same
steps of its script left, and the two stretches hold between them the calls and the notices of the
whole, at the same times. The same goes for any number of stretches. -/
theorem time_is_additive (identity : Identity) (timings : Timings) (epoch : Int) (script : Script)
    (home : String) (retry : 1 ≤ timings.retryDelay.millis)
    (interval : 1 ≤ timings.heartbeatInterval.millis)
    (last : script.registerDefault.bounces = false) {a : Agent Script}
    (run : Reaches (new identity timings epoch script home) a) (m n : Nat) :
    let b := a.advance m
    let c := b.advance n
    let whole := a.advance (m + n)
    c = whole ∧
    (b.now = a.now + m ∧ b.step? = none ∧ c.now = a.now + m + n ∧ c.step? = none) ∧
    (a.report .nothing b).calls ++ (b.report .nothing c).calls =
      (a.report .nothing whole).calls ∧
    (a.report .nothing b).notices ++ (b.report .nothing c).notices =
      (a.report .nothing whole).notices ∧
    (∀ first rest, (∀ command ∈ first :: rest, ∃ millis, command.action = .advance millis) →
      let total := a.advance (Command.elapsed (first :: rest))
      a.after (first :: rest) = total ∧
      (a.session (first :: rest)).flatMap Report.calls = (a.report .nothing total).calls ∧
      (a.session (first :: rest)).flatMap Report.notices = (a.report .nothing total).notices) := by
  intro b c whole
  have ha : a.ComesToRest := (comesToRest_of_script retry interval last).reaches run
  have hb : b.ComesToRest := ha.reaches (reaches_advance m a)
  have hwhole : c = whole := ha.advance_advance m n
  have hab : a.history <:+ b.history := (reaches_advance m a).history_suffix
  have hbc : b.history <:+ c.history := (reaches_advance n b).history_suffix
  have hbnow : b.now = a.now + m := ha.now_advanceTo
  have hcnow : c.now = b.now + n := hb.now_advanceTo
  refine ⟨hwhole, ⟨hbnow, ha.settled_advanceTo, hbnow ▸ hcnow, hb.settled_advanceTo⟩, ?_, ?_, ?_⟩
  · rw [← hwhole]
    exact List.filterMap_append.symm.trans
      (congrArg (List.filterMap Event.call?) (eventsSince_append hab hbc))
  · rw [← hwhole]
    exact List.filterMap_append.symm.trans
      (congrArg (List.filterMap Event.notice?) (eventsSince_append hab hbc))
  · intro first rest advances total
    have htotal : a.after (first :: rest) = total := ha.after_advances advances
    refine ⟨htotal, ?_, ?_⟩
    · rw [calls_session, htotal]
      rfl
    · rw [notices_session, htotal]
      rfl

/-- A registration that is never answered and the wait after it. Time may stop at the very moment
when the call is given up; the wait then ends no sooner and no later. -/
theorem time_stops_at_the_limit_of_a_call :
    let a := (new ⟨"w", "c", ""⟩ {} 0 ({ register := [{ act := .hang }] } : Script) "A").after
      [{ action := .start }]
    (a.advance 5000).advance 5000 = a.advance 10000 ∧ (a.advance 5000).now = 5000 ∧
    (a.advance 10000).state = .heartbeating := by
  intro a
  have h := time_is_additive ⟨"w", "c", ""⟩ {} 0 { register := [{ act := .hang }] } "A"
    (by decide) (by decide) (by decide) (reaches_after [{ action := .start }] _) 5000 5000
  exact ⟨h.1, h.2.1.1, by decide +kernel⟩

end Agent
end ClusterMember
