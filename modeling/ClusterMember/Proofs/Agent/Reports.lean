import ClusterMember.Proofs.Agent.Move

/-! # The reports of a session

Each report of a session tells what happened since the one before it.

* `Agent.session_append`, `Agent.length_session`: a session in two parts.
* `Agent.eventsSince_append`: what happened in two stretches of a run.
* `Agent.calls_session`, `Agent.notices_session`: the reports of a session lose nothing of what
  happened, and tell nothing twice.
-/

namespace ClusterMember
set_option autoImplicit false

namespace Agent
variable {σ : Type}

/-! ## What is reported -/

/-- What is reported where nothing happened. -/
theorem report_self (a : Agent σ) (outcome : Outcome) :
    a.report outcome a =
      { time := a.now, outcome, standing := a.standing, task := a.task.status, calls := [],
        notices := [] } := by
  simp [report, eventsSince]

theorem eventsSince_of_append {a b : Agent σ} {events : List Event}
    (h : b.history = events ++ a.history) :
    b.eventsSince a.history.length = events.reverse := by
  simp [eventsSince, h]

theorem eventsSince_append {a b c : Agent σ} (hab : a.history <:+ b.history)
    (hbc : b.history <:+ c.history) :
    b.eventsSince a.history.length ++ c.eventsSince b.history.length =
      c.eventsSince a.history.length := by
  obtain ⟨early, he⟩ := hab
  obtain ⟨late, hl⟩ := hbc
  have hac : c.history = (late ++ early) ++ a.history := by rw [List.append_assoc, he, hl]
  rw [eventsSince_of_append he.symm, eventsSince_of_append hl.symm, eventsSince_of_append hac,
    List.reverse_append]

/-! ## Reports one after another -/

variable [ControlPlane σ]

theorem session_cons (command : Command) (rest : List Command) (a : Agent σ) :
    a.session (command :: rest) =
      a.report (a.perform command).1 (a.perform command).2 :: (a.perform command).2.session rest :=
  rfl

theorem session_append (before rest : List Command) (a : Agent σ) :
    a.session (before ++ rest) = a.session before ++ (a.after before).session rest := by
  induction before generalizing a with
  | nil => rfl
  | cons command before ih =>
    rw [List.cons_append, session_cons, session_cons, ih, after_cons, List.cons_append]

theorem length_session (commands : List Command) (a : Agent σ) :
    (a.session commands).length = commands.length := by
  induction commands generalizing a with
  | nil => rfl
  | cons command rest ih =>
    rw [session_cons, List.length_cons, ih, List.length_cons]

/-! ## What the reports tell -/

/-- The reports of a session, one after another, tell what happened in it. -/
theorem flatMap_session {β : Type} (tell : Report → List β) (f : Event → Option β)
    (htell : ∀ (a b : Agent σ) (outcome : Outcome),
      tell (a.report outcome b) = (b.eventsSince a.history.length).filterMap f)
    (commands : List Command) (a : Agent σ) :
    (a.session commands).flatMap tell =
      ((a.after commands).eventsSince a.history.length).filterMap f := by
  induction commands generalizing a with
  | nil => simp [session, eventsSince]
  | cons command rest ih =>
    have hfirst := (reaches_perform command a).history_suffix
    have hrest := (reaches_after rest (a.perform command).2).history_suffix
    rw [session_cons, List.flatMap_cons, htell, ih, after_cons, ← List.filterMap_append,
      eventsSince_append hfirst hrest]

theorem calls_session (commands : List Command) (a : Agent σ) :
    (a.session commands).flatMap Report.calls =
      ((a.after commands).eventsSince a.history.length).filterMap Event.call? :=
  flatMap_session _ _ (fun _ _ _ => rfl) commands a

theorem notices_session (commands : List Command) (a : Agent σ) :
    (a.session commands).flatMap Report.notices =
      ((a.after commands).eventsSince a.history.length).filterMap Event.notice? :=
  flatMap_session _ _ (fun _ _ _ => rfl) commands a

end Agent
end ClusterMember
