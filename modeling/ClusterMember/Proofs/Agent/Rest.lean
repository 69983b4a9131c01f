import ClusterMember.Proofs.Agent.Registration

/-! # Tasks that come to rest

Where waits take time, a task can be kept busy at one moment by nothing but redirects that take no
time. A script holds so many of them, and none once it is used up. So the task comes to rest at
every moment, also where the time limits of its calls are zero.

* `Step.bounces`, `Script.bounces`: the redirects that take no time.
* `Task.exertion`: a bound on the steps that a task can still take at the present moment.
* `Agent.Stride.exertion_lt`: every step of a task that is not stopped uses some of it up.
* `Agent.bounces_called`: such a redirect is used up by the registration that it answers.
* `Agent.comesToRest_of_script`: what this means for every run over a script.
-/

namespace ClusterMember
set_option autoImplicit false

/-! ## Redirects that take no time -/

/-- Whether the step is a redirect that takes no time. -/
def Step.bounces (step : Step) : Bool := step.delay = 0 && (step.leader? 0).isSome

/-- How many registrations are still laid down that are redirected in no time. -/
def Script.bounces (script : Script) : Nat := script.register.countP Step.bounces

theorem Step.bounces_of_leader {step : Step} {limit : Nat} (span : step.span limit = 0)
    (leader : (step.leader? limit).isSome = true) : step.bounces = true := by
  obtain ⟨delay, act⟩ := step
  cases act with
  | reply reply =>
    have inTime : min delay Duration.longestWait ≤ limit := by
      by_contra late
      simp [leader?, Step.inTime, late] at leader
    have hdelay : delay = 0 := by
      have hmin : min (min delay Duration.longestWait) limit = 0 := by simpa [Step.span] using span
      rw [Nat.min_eq_left inTime] at hmin
      unfold Duration.longestWait at hmin
      omega
    subst hdelay
    simpa [bounces, leader?, Step.inTime] using leader
  | fail => simp [leader?] at leader
  | failHere => simp [leader?] at leader
  | crash => simp [leader?] at leader
  | hang => simp [leader?] at leader

/-- A redirect that takes no time is used up by the registration that it answers. -/
theorem Script.bounces_next {script : Script} (last : script.registerDefault.bounces = false)
    {request : Request} (register : request.isRegister = true) :
    (script.next request).2.bounces + (if (script.next request).1.bounces then 1 else 0) =
      script.bounces := by
  cases request with
  | heartbeat => cases register
  | register =>
    unfold next
    cases h : script.register with
    | nil => simp [bounces, h, last]
    | cons step rest => simp [bounces, h, List.countP_cons]

theorem Script.bounces_le_unread (script : Script) :
    script.bounces ≤ ControlPlane.unread script :=
  Nat.le_trans List.countP_le_length (Nat.le_add_right _ _)

/-! ## What a task can still do -/

/-- A bound on the steps that a task can take at the present moment, if so many registrations are
still redirected in no time. -/
def Task.exertion (left now : Nat) : Task → Nat
  | ready => 2 * left + 6
  | turn .registering => 2 * left + 5
  | calling .registering pending =>
    if pending.due ≤ now ∧ pending.answer.leader?.isSome then 2 * left + 6 else 4
  | waiting .registering wake => if wake ≤ now then 2 * left + 6 else 1
  | task => task.toGo 0 now

theorem Task.exertion_le (left now : Nat) (task : Task) : task.exertion left now ≤ 2 * left + 6 := by
  unfold exertion
  split
  · exact Nat.le_refl _
  · omega
  · split <;> omega
  · split <;> omega
  · have h := task.toGo_le 0 now
    omega

namespace Agent

theorem exertion_taskAfter_registering {a : Agent Script} (retry : 1 ≤ a.timings.retryDelay.millis)
    (answer : Answer) (left : Nat) :
    (a.taskAfter .registering answer).exertion left a.now <
      if answer.leader?.isSome then 2 * left + 6 else 4 := by
  by_cases hl : answer.leader?.isSome = true
  · rw [taskAfter_of_redirect hl, if_pos hl]
    exact Nat.lt_succ_self _
  · rw [if_neg hl]
    simp only [taskAfter, if_neg hl]
    by_cases ha : answer.accepts = true
    · rw [if_pos ha]
      split
      · exact Nat.succ_pos _
      · exact Nat.lt_succ_self _
    · rw [if_neg ha]
      have hpos := Duration.waited_pos retry
      have hlater : ¬ a.now + a.timings.retryDelay.waited ≤ a.now := by omega
      cases answer with
      | crash => exact Nat.succ_pos _
      | reply => simp [Task.exertion, hlater]
      | fault => simp [Task.exertion, hlater]

/-- A registration is redirected at once only by a step that is laid down for it and then used up. -/
theorem bounces_called {a : Agent Script} (last : a.plane.registerDefault.bounces = false) :
    (a.called .registering).plane.bounces +
        (if (a.placed .registering).due ≤ a.now ∧ (a.placed .registering).answer.leader?.isSome
          then 1 else 0) ≤ a.plane.bounces := by
  let call := a.nextCall .registering
  let step := (a.plane.next call.request).1
  obtain ⟨hspan, hleader, _⟩ := Step.result_handling call.endpoint call step
  have hleft := Script.bounces_next last (show call.request.isRegister = true from rfl)
  show (a.plane.next call.request).2.bounces + _ ≤ a.plane.bounces
  split
  · next h =>
    obtain ⟨due, leader⟩ := h
    have instant : step.span call.limit.millis = 0 := by
      have hdue : a.now + step.span call.limit.millis ≤ a.now := hspan ▸ due
      omega
    have bounces : step.bounces = true := Step.bounces_of_leader instant (hleader ▸ leader)
    rw [if_pos bounces] at hleft
    omega
  · omega

theorem exertion_placed {a : Agent Script} (last : a.plane.registerDefault.bounces = false) :
    (Task.calling .registering (a.placed .registering)).exertion
        (a.called .registering).plane.bounces a.now < 2 * a.plane.bounces + 5 := by
  have hleft := bounces_called last
  by_cases redirected : (a.placed .registering).due ≤ a.now ∧
      (a.placed .registering).answer.leader?.isSome
  · rw [if_pos redirected] at hleft
    rw [Task.exertion, if_pos redirected]
    omega
  · rw [Task.exertion, if_neg redirected]
    omega

/-- Every step of a task that is not stopped leaves less to do at the present moment. -/
theorem Stride.exertion_lt {a b : Agent Script} (hs : Stride a b)
    (retry : 1 ≤ a.timings.retryDelay.millis) (interval : 1 ≤ a.timings.heartbeatInterval.millis)
    (last : a.plane.registerDefault.bounces = false) (live : a.state ≠ .stopped) :
    b.task.exertion b.plane.bounces b.now < a.task.exertion a.plane.bounces a.now := by
  -- The second loop is paced by its waits; what is left of the script plays no part in it.
  have beating (member : a.task.stage = .heartbeating) := hs.toGo_lt member interval live 0 0
  cases hs with
  | enter ready =>
    rw [ready]
    exact Nat.lt_succ_self _
  | @call loop turn =>
    rw [turn] at beating ⊢
    cases loop with
    | registering => exact exertion_placed last
    | beating missed => exact beating rfl
  | @answer loop pending notices calling due =>
    rw [calling] at beating ⊢
    cases loop with
    | registering =>
      refine Nat.lt_of_lt_of_eq (exertion_taskAfter_registering retry pending.answer _) ?_
      simp only [Task.exertion, due, true_and]
    | beating missed => exact beating rfl
  | @wake loop time waiting _ due =>
    rw [waiting] at beating ⊢
    cases loop with
    | registering =>
      show 2 * a.plane.bounces + 5 < if time ≤ a.now then _ else _
      rw [if_pos due]
      exact Nat.lt_succ_self _
    | beating missed => exact beating rfl
  | leave _ _ stopped => exact absurd stopped live

/-! ## Every run over a script -/

theorem Reaches.registerDefault_eq {identity : Identity} {timings : Timings} {epoch : Int}
    {script : Script} {home : String} {a : Agent Script}
    (run : Reaches (new identity timings epoch script home) a) :
    a.plane.registerDefault = script.registerDefault := by
  rw [(run.scripted (scripted_new _ _ _ _ _)).plane]
  rfl

theorem exertion_lt_of_script {identity : Identity} {timings : Timings} {epoch : Int}
    {script : Script} {home : String} (retry : 1 ≤ timings.retryDelay.millis)
    (interval : 1 ≤ timings.heartbeatInterval.millis)
    (last : script.registerDefault.bounces = false) {a b : Agent Script}
    (run : Reaches (new identity timings epoch script home) a) (live : a.state ≠ .stopped)
    (hs : Stride a b) :
    b.task.exertion b.plane.bounces b.now < a.task.exertion a.plane.bounces a.now := by
  have ht : a.timings = timings := run.timings_eq
  exact hs.exertion_lt (ht ▸ retry) (ht ▸ interval) (run.registerDefault_eq ▸ last) live

/-- An agent over a script comes to rest at every moment, if its waits take time and the script does
not end in redirects that take none. -/
theorem comesToRest_of_script {identity : Identity} {timings : Timings} {epoch : Int}
    {script : Script} {home : String} (retry : 1 ≤ timings.retryDelay.millis)
    (interval : 1 ≤ timings.heartbeatInterval.millis)
    (last : script.registerDefault.bounces = false) :
    (new identity timings epoch script home).ComesToRest := by
  refine comesToRest_of_less (fun a => a.task.exertion a.plane.bounces a.now)
    (exertion_lt_of_script retry interval last) ?_
  intro a run
  have hle := a.task.exertion_le a.plane.bounces a.now
  have hleft := a.plane.bounces_le_unread
  unfold stamina
  omega

end Agent
end ClusterMember
