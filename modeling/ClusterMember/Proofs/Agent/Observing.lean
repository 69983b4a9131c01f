import ClusterMember.Agent.Script
import ClusterMember.Proofs.Agent.Reports
import ClusterMember.Proofs.Agent.Settle

/-! # Looking on

The pages of a worker and its counters can be looked at whenever one likes. What is shown is read off
the agent, and the agent goes on as if nobody had looked: also an agent that was started or stopped
and whose task has not run since.

* `Action.observes`, `Command.looksOn`: what only looks on.
* `Agent.perform_of_observes`: looking on leaves the whole agent as it is.
* `Agent.session_without_lookers`: a session without all those who look on.
* `Agent.observing_changes_nothing`: a session with and without those who look on.
-/

namespace ClusterMember
set_option autoImplicit false

/-- Whether an action only looks at the agent. -/
def Action.observes : Action → Bool
  | http _ | snapshot => true
  | start | stop | advance _ => false

/-- Whether a command looks at the agent and holds its task back meanwhile. -/
def Command.looksOn (command : Command) : Bool := command.action.observes && !command.settle

namespace Agent
variable {σ : Type} [ControlPlane σ]

/-! ## One look -/

theorem act_of_observes {action : Action} (observes : action.observes = true) (a : Agent σ) :
    (a.act action).2 = a := by
  cases action with
  | http => rfl
  | snapshot => rfl
  | start => cases observes
  | stop => cases observes
  | advance => cases observes

/-- Looking on leaves the agent as it is, unless its task has something to do and is then let do
it. -/
theorem perform_of_observes {look : Command} {a : Agent σ} (observes : look.action.observes = true)
    (quiet : look.settle = false ∨ a.step? = none) : (a.perform look).2 = a := by
  simp only [perform, act_of_observes observes]
  rcases quiet with held | blocked
  · rw [held]
    rfl
  · rw [settle_of_blocked blocked, ite_self]

theorem perform_of_looksOn {look : Command} (looksOn : look.looksOn = true) (a : Agent σ) :
    (a.perform look).2 = a := by
  obtain ⟨observes, held⟩ := Bool.and_eq_true_iff.1 looksOn
  exact perform_of_observes observes (.inl (by simpa using held))

/-! ## Sessions -/

/-- The commands that do more than look on, with their reports. -/
theorem session_without_lookers (commands : List Command) (a : Agent σ) :
    ((commands.zip (a.session commands)).filter fun entry => !entry.1.looksOn).map Prod.snd =
        a.session (commands.filter fun command => !command.looksOn) ∧
      a.after commands = a.after (commands.filter fun command => !command.looksOn) := by
  induction commands generalizing a with
  | nil => exact ⟨rfl, rfl⟩
  | cons command rest ih =>
    rw [session_cons, List.zip_cons_cons, after_cons]
    by_cases looksOn : command.looksOn = true
    · have unchanged := perform_of_looksOn looksOn a
      rw [List.filter_cons_of_neg (by simpa using looksOn),
        List.filter_cons_of_neg (by simpa using looksOn), unchanged]
      exact ih a
    · obtain ⟨hreports, hafter⟩ := ih (a.perform command).2
      rw [List.filter_cons_of_pos (by simpa using looksOn),
        List.filter_cons_of_pos (by simpa using looksOn), List.map_cons, hreports, hafter,
        session_cons, after_cons]
      exact ⟨rfl, rfl⟩

/-- A look at a page, or at the counters, at any point of any session: either before the task has
run, or when it is at rest. The session goes on to the same end, and every other report of it is the
same in all that it tells. What is shown is where the agent stands, and no call and no notice is
reported there that belongs to a later command. The same goes for any number of looks. -/
theorem observing_changes_nothing (a : Agent σ) (before rest : List Command) {look : Command}
    (observes : look.action.observes = true)
    (quiet : look.settle = false ∨ (a.after before).step? = none) :
    let here := a.after before
    let reports := a.session (before ++ look :: rest)
    a.after (before ++ look :: rest) = a.after (before ++ rest) ∧
    reports.eraseIdx before.length = a.session (before ++ rest) ∧
    (∃ outcome,
      reports[before.length]? = some
        { time := here.now, outcome, standing := here.standing, task := here.task.status,
          calls := [], notices := [] } ∧
      ∀ request, look.action = .http request →
        outcome = .page ((Http.Site.ofStanding here.standing).respond? request)) ∧
    (∀ commands : List Command,
      let others := commands.filter fun command => !command.looksOn
      a.after commands = a.after others ∧
      ((commands.zip (a.session commands)).filter fun entry => !entry.1.looksOn).map Prod.snd =
        a.session others) := by
  intro here reports
  have unchanged : (here.perform look).2 = here := perform_of_observes observes quiet
  have hlength : (a.session before).length = before.length := length_session before a
  have hreports : reports =
      a.session before ++ here.report (here.perform look).1 here :: here.session rest := by
    show a.session (before ++ look :: rest) = _
    rw [session_append, session_cons, unchanged]
  refine ⟨?_, ?_, ⟨(here.perform look).1, ?_, ?_⟩, fun commands => ?_⟩
  · rw [after_append, after_cons, unchanged, ← after_append]
  · rw [hreports, ← hlength, List.eraseIdx_append_of_length_le (Nat.le_refl _), Nat.sub_self,
      List.eraseIdx_cons_zero, session_append]
  · rw [hreports, ← hlength, List.getElem?_append_right (Nat.le_refl _), Nat.sub_self, report_self]
    rfl
  · intro request http
    simp only [perform, http, act]
  · exact (session_without_lookers commands a).symm

/-- Someone looks at the status page of an agent that was started and has not run yet; then it is
stopped and lets go without a call. -/
theorem status_before_the_first_step :
    let a := new ⟨"w", "c", ""⟩ {} 0 ({} : Script) "A"
    let look : Command := ⟨.http ⟨"GET", "/status"⟩, false⟩
    (a.session [⟨.start, false⟩, look, ⟨.stop, true⟩]).eraseIdx 1 =
        a.session [⟨.start, false⟩, ⟨.stop, true⟩] ∧
      (a.after [⟨.start, false⟩, look, ⟨.stop, true⟩]).task = .finished := by
  intro a look
  have h := observing_changes_nothing a [⟨.start, false⟩] [⟨.stop, true⟩]
    (show look.action.observes = true from rfl) (.inl rfl)
  exact ⟨h.2.1, (congrArg Agent.task h.1).trans (by decide)⟩

end Agent
end ClusterMember
