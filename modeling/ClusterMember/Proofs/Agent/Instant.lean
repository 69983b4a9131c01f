import ClusterMember.Proofs.Agent.Chronicle
import ClusterMember.Proofs.Agent.Reports
import ClusterMember.Proofs.Agent.Rest

/-! # What can happen at one moment

Nothing limits how often a registration is tried, and a redirect is followed without a wait. All the
same a task does little at one moment, where waits take time: every registration that it makes but
the last one uses up a redirect of the script, and once it is a member it sends one heartbeat.

* `Task.registrationsToCome`, `Task.beatsToCome`: the calls that a task can still make at the moment.
* `Agent.Stride.registrations_le`, `Agent.Stride.beats_le`: a step makes no more of them than that.
* `Event.Redirected`, `Event.Bounced`: registrations that were redirected when they were made.
* `Task.Paced`: what a task tells of the registrations of the present moment, in every run.
* `Agent.moment_comes_to_an_end`: what this means for whatever moment of a run.
-/

namespace ClusterMember
set_option autoImplicit false

/-! ## Calls still to come -/

/-- How many registrations a task can still make at the present moment, if so many of them are
redirected in no time. -/
def Task.registrationsToCome (left now : Nat) : Task → Nat
  | ready | turn .registering => 1 + left
  | calling .registering pending =>
    if pending.due ≤ now ∧ pending.answer.leader?.isSome then 1 + left else 0
  | waiting .registering wake => if wake ≤ now then 1 + left else 0
  | turn (.beating _) | calling (.beating _) _ | waiting (.beating _) _ => 0
  | absent | finished | crashed _ => 0

/-- How many heartbeats a task can still send at the present moment. -/
def Task.beatsToCome (now : Nat) : Task → Nat
  | ready | turn _ | calling .registering _ | waiting .registering _ => 1
  | waiting (.beating _) wake => if wake ≤ now then 1 else 0
  | calling (.beating _) _ | absent | finished | crashed _ => 0

theorem Task.registrationsToCome_le (left now : Nat) (task : Task) :
    task.registrationsToCome left now ≤ 1 + left := by
  unfold registrationsToCome
  split
  · exact Nat.le_refl _
  · exact Nat.le_refl _
  · split <;> omega
  · split <;> omega
  all_goals exact Nat.zero_le _

theorem Task.beatsToCome_le (now : Nat) (task : Task) : task.beatsToCome now ≤ 1 := by
  unfold beatsToCome
  split <;> try split
  all_goals omega

namespace Agent

theorem registrationsToCome_taskAfter {a : Agent Script}
    (retry : 1 ≤ a.timings.retryDelay.millis) (answer : Answer) (left : Nat) :
    (a.taskAfter .registering answer).registrationsToCome left a.now ≤
      if answer.leader?.isSome then 1 + left else 0 := by
  have hpos := Duration.waited_pos retry
  have hlater : ¬ a.now + a.timings.retryDelay.waited ≤ a.now := by omega
  simp only [taskAfter]
  split
  · split <;> exact Nat.zero_le _
  · split
    · exact Nat.le_refl _
    · cases answer with
      | crash => exact Nat.le_refl _
      | reply => simp [Task.registrationsToCome, hlater]
      | fault => simp [Task.registrationsToCome, hlater]

theorem registrationsToCome_placed {a : Agent Script}
    (last : a.plane.registerDefault.bounces = false) :
    (Task.calling .registering (a.placed .registering)).registrationsToCome
        (a.called .registering).plane.bounces a.now ≤ a.plane.bounces := by
  have hleft := bounces_called last
  by_cases redirected : (a.placed .registering).due ≤ a.now ∧
      (a.placed .registering).answer.leader?.isSome
  · rw [if_pos redirected] at hleft
    rw [Task.registrationsToCome, if_pos redirected]
    omega
  · rw [Task.registrationsToCome, if_neg redirected]
    exact Nat.zero_le _

theorem Stride.registrations_le {a b : Agent Script} (hs : Stride a b)
    (retry : 1 ≤ a.timings.retryDelay.millis)
    (last : a.plane.registerDefault.bounces = false) :
    Event.callCount true b.history + b.task.registrationsToCome b.plane.bounces b.now ≤
      Event.callCount true a.history + a.task.registrationsToCome a.plane.bounces a.now := by
  cases hs with
  | enter ready =>
    rw [ready]
    exact Nat.le_refl _
  | @call loop turn =>
    rw [Event.callCount_noticed, Event.callCount_called, nextCall_isRegister, turn]
    cases loop with
    | beating missed => exact Nat.le_refl _
    | registering =>
      have hleft := registrationsToCome_placed last
      show _ + 1 + (Task.calling .registering (a.placed .registering)).registrationsToCome
        (a.called .registering).plane.bounces a.now ≤ _ + (1 + a.plane.bounces)
      omega
  | @answer loop pending notices calling due =>
    rw [Event.callCount_noticed, Event.callCount_completed, calling]
    cases loop with
    | beating missed => exact Nat.le_refl _
    | registering =>
      refine Nat.add_le_add_left (Nat.le_trans
        (registrationsToCome_taskAfter retry pending.answer _) (Nat.le_of_eq ?_)) _
      simp only [Task.registrationsToCome, due, true_and]
  | @wake loop time waiting _ due =>
    rw [waiting]
    cases loop with
    | beating missed => exact Nat.le_refl _
    | registering => exact Nat.le_of_eq (congrArg _ (if_pos due).symm)
  | leave notices =>
    rw [Event.callCount_noticed]
    exact Nat.add_le_add_left (Nat.zero_le _) _

theorem beatsToCome_taskAfter {a : Agent Script}
    (interval : 1 ≤ a.timings.heartbeatInterval.millis) (loop : Loop) (answer : Answer) :
    (a.taskAfter loop answer).beatsToCome a.now ≤ if loop.isRegistering then 1 else 0 := by
  cases loop with
  | registering => exact Task.beatsToCome_le _ _
  | beating missed =>
    have hpos := Duration.waited_pos interval
    have hlater : ¬ a.now + a.timings.heartbeatInterval.waited ≤ a.now := by omega
    simp [taskAfter, Task.beatsToCome, hlater]

theorem Stride.beats_le {a b : Agent Script} (hs : Stride a b)
    (interval : 1 ≤ a.timings.heartbeatInterval.millis) :
    Event.callCount false b.history + b.task.beatsToCome b.now ≤
      Event.callCount false a.history + a.task.beatsToCome a.now := by
  cases hs with
  | enter ready =>
    rw [ready]
    exact Nat.le_refl _
  | @call loop turn =>
    rw [Event.callCount_noticed, Event.callCount_called, nextCall_isRegister, turn]
    cases loop with
    | beating missed => exact Nat.le_refl _
    | registering => exact Nat.le_refl _
  | @answer loop pending notices calling =>
    rw [Event.callCount_noticed, Event.callCount_completed, calling]
    refine Nat.add_le_add_left (Nat.le_trans (beatsToCome_taskAfter interval loop _) ?_) _
    cases loop with
    | beating missed => exact Nat.le_refl _
    | registering => exact Nat.le_refl _
  | @wake loop time waiting _ due =>
    rw [waiting]
    cases loop with
    | registering => exact Nat.le_refl _
    | beating missed => exact Nat.le_of_eq (congrArg _ (if_pos due).symm)
  | leave notices =>
    rw [Event.callCount_noticed]
    exact Nat.add_le_add_left (Nat.zero_le _) _

end Agent

/-! ## Registrations that were redirected at once -/

namespace Event

/-- Whether a call was redirected at the moment at which it was made. What happened since the call
was made is given as it stands in a history, the latest first. -/
def Redirected (call : Call) (since : List Event) : Prop :=
  ∃ (rest between : List Event) (answer : Answer),
    since = rest ++ completed call.time call answer :: between ∧
    (∀ e ∈ between, e.notice?.isSome) ∧ answer.leader?.isSome

/-- Every registration that was made at a given time or later was redirected at once. -/
def Bounced (time : Nat) (history : List Event) : Prop :=
  ∀ since call earlier, history = since ++ called call :: earlier →
    call.request.isRegister = true → time ≤ call.time → Redirected call since

theorem Redirected.later {call : Call} {since : List Event} (h : Redirected call since)
    (events : List Event) : Redirected call (events ++ since) := by
  obtain ⟨rest, between, answer, rfl, quiet, leader⟩ := h
  exact ⟨events ++ rest, between, answer, (List.append_assoc _ _ _).symm, quiet, leader⟩

theorem call?_of_notice? {e : Event} (h : e.notice?.isSome = true) : e.call? = none := by
  cases e with
  | noticed => rfl
  | called => cases h
  | completed => cases h

/-- A call is not among events none of which is one. -/
theorem split_of_uncalled {events history since earlier : List Event} {call : Call}
    (quiet : ∀ e ∈ events, e.call? = none)
    (split : events ++ history = since ++ called call :: earlier) :
    ∃ since', since = events ++ since' ∧ history = since' ++ called call :: earlier := by
  induction events generalizing since with
  | nil => exact ⟨since, rfl, split⟩
  | cons e events ih =>
    obtain ⟨first, others⟩ := List.forall_mem_cons.1 quiet
    cases since with
    | nil =>
      cases (List.cons.inj split).1
      cases first
    | cons e' since =>
      obtain ⟨rfl, tail⟩ := List.cons.inj split
      obtain ⟨since', rfl, hsplit⟩ := ih others tail
      exact ⟨since', rfl, hsplit⟩

namespace Bounced
variable {time : Nat} {history : List Event}

theorem mono (h : Bounced time history) {later : Nat} (hle : time ≤ later) :
    Bounced later history :=
  fun since call earlier split request made =>
    h since call earlier split request (Nat.le_trans hle made)

theorem of_past (past : ∀ e ∈ history, e.time < time) : Bounced time history := by
  intro since call earlier split _ made
  have hlt : call.time < time := past (called call) (by simp [split])
  omega

theorem append (h : Bounced time history) {events : List Event}
    (quiet : ∀ e ∈ events, e.call? = none) : Bounced time (events ++ history) := by
  intro since call earlier split request made
  obtain ⟨since', rfl, hsplit⟩ := split_of_uncalled quiet split
  exact (h since' call earlier hsplit request made).later events

/-- One more call, which is redirected at once if it was made as late as that. -/
theorem call (h : Bounced time history) {call : Call} {events : List Event}
    (quiet : ∀ e ∈ events, e.call? = none)
    (redirected : time ≤ call.time → Redirected call events) :
    Bounced time (events ++ called call :: history) := by
  intro since call' earlier split request made
  obtain ⟨since', rfl, hsplit⟩ := split_of_uncalled quiet split
  cases since' with
  | nil =>
    cases (List.cons.inj hsplit).1
    rw [List.append_nil]
    exact redirected made
  | cons e since' =>
    obtain ⟨rfl, hbefore⟩ := List.cons.inj hsplit
    rw [List.append_cons]
    exact (h since' call' earlier hbefore request made).later _

end Bounced
end Event

/-! ## What a task tells of them -/

/-- What a task tells of the registrations of the present moment. -/
def Task.Paced (now : Nat) (history : List Event) : Task → Prop
  | absent | ready => Event.Bounced 0 history
  | turn .registering => Event.Bounced now history
  | calling .registering pending =>
    ∃ since earlier : List Event, history = since ++ .called pending.call :: earlier ∧
      (∀ e ∈ since, e.notice?.isSome) ∧ Event.Bounced pending.call.time earlier
  | waiting .registering wake => Event.Bounced wake history
  | turn (.beating _) | calling (.beating _) _ | waiting (.beating _) _ => True
  | finished | crashed _ => True

namespace Task.Paced
variable {now : Nat} {history : List Event} {task : Task}

theorem later (h : task.Paced now history) {time : Nat} (hle : now ≤ time) :
    task.Paced time history := by
  cases task with
  | turn loop =>
    cases loop with
    | registering => exact Event.Bounced.mono h hle
    | beating missed => trivial
  | calling loop pending => cases loop <;> exact h
  | waiting loop wake => cases loop <;> exact h
  | _ => exact h

theorem note (h : task.Paced now history) (time : Nat) (notice : Notice) :
    task.Paced now (.noticed time notice :: history) := by
  have one {time' : Nat} (h : Event.Bounced time' history) :
      Event.Bounced time' ([.noticed time notice] ++ history) :=
    h.append (List.forall_mem_singleton.2 rfl)
  cases task with
  | absent => exact one h
  | ready => exact one h
  | turn loop =>
    cases loop with
    | registering => exact one h
    | beating missed => trivial
  | calling loop pending =>
    cases loop with
    | registering =>
      obtain ⟨since, earlier, rfl, quiet, bounced⟩ := h
      refine ⟨.noticed time notice :: since, earlier, rfl, ?_, bounced⟩
      exact List.forall_mem_cons.2 ⟨rfl, quiet⟩
    | beating missed => trivial
  | waiting loop wake =>
    cases loop with
    | registering => exact one h
    | beating missed => trivial
  | finished => trivial
  | crashed cause => trivial

end Task.Paced

namespace Agent
variable {σ : Type} [ControlPlane σ]

/-- After a registration that was redirected at once the next one may be made at the same moment,
and after any other it is made later. -/
theorem paced_answered {a : Agent σ} (h : a.task.Paced a.now a.history) (hc : a.Coherent)
    (retry : 1 ≤ a.timings.retryDelay.millis) {pending : Pending} (notices : List Notice)
    (calling : a.task = .calling .registering pending) (due : pending.due ≤ a.now) :
    let b := a.answered .registering pending notices
    b.task.Paced b.now b.history := by
  intro b
  have made : pending.call.time ≤ a.now := (hc.inFlight _ _ calling).made
  rw [calling] at h
  obtain ⟨since, earlier, hist, quiet, bounced⟩ := h
  by_cases leader : pending.answer.leader?.isSome = true
  · have htask : b.task = .turn .registering := taskAfter_of_redirect leader
    let events := notices.map (Event.noticed a.now) ++
      .completed a.now pending.call pending.answer :: since
    have hb : b.history = events ++ .called pending.call :: earlier := by
      simp [b, events, hist]
    rw [htask, hb]
    refine (bounced.mono made).call ?_ fun late => ?_
    · refine List.forall_mem_append.2 ⟨?_, List.forall_mem_cons.2 ⟨rfl, ?_⟩⟩
      · exact List.forall_mem_map.2 fun _ _ => rfl
      · exact fun e he => Event.call?_of_notice? (quiet e he)
    · have hnow : pending.call.time = a.now := Nat.le_antisymm made late
      exact ⟨notices.map (Event.noticed a.now), since, pending.answer, by rw [hnow], quiet, leader⟩
  · -- Nothing has happened yet at the time to which the next registration is put off.
    have past : ∀ e ∈ b.history, e.time ≤ a.now := (hc.stride (.answer notices calling due)).past
    have hpos := Duration.waited_pos retry
    show (a.taskAfter .registering pending.answer).Paced _ _
    simp only [taskAfter, if_neg leader]
    split
    · split <;> trivial
    · cases pending.answer with
      | crash => trivial
      | _ =>
        refine Event.Bounced.of_past fun e he => ?_
        exact Nat.lt_of_le_of_lt (past e he) (Nat.lt_add_of_pos_right hpos)

theorem Stride.paced {a b : Agent σ} (hs : Stride a b) (h : a.task.Paced a.now a.history)
    (hc : a.Coherent) (retry : 1 ≤ a.timings.retryDelay.millis) :
    b.task.Paced b.now b.history := by
  cases hs with
  | enter ready =>
    rw [ready] at h
    have bounced : Event.Bounced a.now a.history := Event.Bounced.mono h (Nat.zero_le _)
    exact bounced.append (List.forall_mem_singleton.2 rfl)
  | @call loop turn =>
    cases loop with
    | beating missed => trivial
    | registering =>
      rw [turn] at h
      refine ⟨_, a.history, rfl, ?_, ?_⟩
      · exact List.forall_mem_map.2 fun _ _ => rfl
      · exact h
  | @answer loop pending notices calling due =>
    cases loop with
    | beating missed => trivial
    | registering => exact paced_answered h hc retry notices calling due
  | @wake loop time waiting _ due =>
    cases loop with
    | beating missed => trivial
    | registering =>
      rw [waiting] at h
      exact Event.Bounced.mono h due
  | leave => trivial

theorem Reaches.paced {a b : Agent σ} (run : Reaches a b) (hc : a.Coherent)
    (retry : 1 ≤ a.timings.retryDelay.millis) (ha : a.task.Paced a.now a.history) :
    b.task.Paced b.now b.history := by
  refine run.keeps ha fun {b c} hab hm h => ?_
  cases hm.change with
  | start absent =>
    rw [absent] at h
    exact h
  | stop => exact h.note _ _
  | again => exact h
  | step taken => exact taken.paced h (hab.coherent hc) (hab.timings_eq ▸ retry)
  | pass _ later => exact h.later later

omit [ControlPlane σ] in
theorem paced_new (identity : Identity) (timings : Timings) (epoch : Int) (plane : σ)
    (home : String) :
    let a := new identity timings epoch plane home
    a.task.Paced a.now a.history :=
  Event.Bounced.of_past fun _ he => absurd he List.not_mem_nil

/-- A registration that was followed by another one at the same moment was redirected at once. -/
theorem Reaches.redirected {identity : Identity} {timings : Timings} {epoch : Int} {plane : σ}
    {home : String} {a : Agent σ} (run : Reaches (new identity timings epoch plane home) a)
    (retry : 1 ≤ timings.retryDelay.millis) {call : Call} {since earlier : List Event}
    (split : a.history = since ++ .called call :: earlier)
    (request : call.request.isRegister = true) (made : call.time = a.now)
    (another : 0 < Event.callCount true since) : Event.Redirected call since := by
  obtain ⟨e, he, hcall⟩ := List.countP_pos_iff.1 another
  obtain ⟨since', between, rfl⟩ := List.append_of_mem he
  cases e with
  | completed => cases hcall
  | noticed => cases hcall
  | called next =>
    -- When the next registration was made, the clock stood where it stood at the one before.
    have suffix : .called next :: (between ++ .called call :: earlier) <:+ a.history :=
      ⟨since', by simp [split]⟩
    obtain ⟨m, hm, hma, hist, loop, turn, _, rfl⟩ := run.moment rfl rfl suffix
    have registering : loop.isRegistering = true := by
      simpa [Event.isCall, nextCall_isRegister] using hcall
    have bounced : Event.Bounced m.now m.history := by
      have paced := hm.paced (coherent_new _ _ _ _ _) retry (paced_new _ _ _ _ _)
      rw [turn] at paced
      cases loop with
      | registering => exact paced
      | beating missed => cases registering
    rw [List.append_cons]
    exact (bounced between call earlier hist request (made ▸ hma.now_le)).later _

/-! ## One moment -/

theorem Writes.time_eq {a : Agent σ} {events : List Event} (h : a.Writes events) :
    ∀ e ∈ events, e.time = a.now := by
  have noticed (notices : List Notice) : ∀ e ∈ notices.map (Event.noticed a.now), e.time = a.now :=
    List.forall_mem_map.2 fun _ _ => rfl
  cases h with
  | nothing => exact fun _ he => absurd he List.not_mem_nil
  | starting => exact noticed [_]
  | @call loop =>
    exact List.forall_mem_append.2
      ⟨noticed _, List.forall_mem_singleton.2 (nextCall_time loop a)⟩
  | answer => exact List.forall_mem_append.2 ⟨noticed _, List.forall_mem_singleton.2 rfl⟩
  | ended => exact noticed [_]

/-- All that happens while the task does what it can at a moment happens at that moment. -/
theorem history_settle (a : Agent σ) :
    ∃ events, a.settle.history = events ++ a.history ∧ ∀ e ∈ events, e.time = a.now := by
  have h : a.settle.now = a.now ∧
      ∃ events, a.settle.history = events ++ a.history ∧ ∀ e ∈ events, e.time = a.now := by
    refine settle_keeps (P := fun b => b.now = a.now ∧ ∃ events,
      b.history = events ++ a.history ∧ ∀ e ∈ events, e.time = a.now) ?_ ?_
    · rintro b c taken ⟨hnow, events, hist, times⟩
      obtain ⟨new, writes, hnew⟩ := writes_of_step? taken
      refine ⟨(now_of_step? taken).trans hnow, new ++ events, ?_, ?_⟩
      · rw [hnew, hist, List.append_assoc]
      · exact List.forall_mem_append.2 ⟨fun e he => (writes.time_eq e he).trans hnow, times⟩
    · exact ⟨rfl, [], rfl, by simp⟩
  exact h.2

omit [ControlPlane σ] in
theorem calls_report {a b : Agent σ} {events : List Event} (h : b.history = events ++ a.history)
    (outcome : Outcome) :
    (a.report outcome b).calls = (events.filterMap Event.call?).reverse := by
  rw [report, eventsSince_of_append h, List.filterMap_reverse]

theorem countP_reverse_call? (register : Bool) (events : List Event) :
    (events.filterMap Event.call?).reverse.countP (·.request.isRegister == register) =
      Event.callCount register events := by
  rw [← Event.length_calls, Event.calls, List.countP_eq_length_filter]

theorem calls_settle {identity : Identity} {timings : Timings} {epoch : Int} {script : Script}
    {home : String} (retry : 1 ≤ timings.retryDelay.millis)
    (interval : 1 ≤ timings.heartbeatInterval.millis)
    (last : script.registerDefault.bounces = false) {a : Agent Script}
    (run : Reaches (new identity timings epoch script home) a) :
    Event.callCount true a.settle.history ≤
        Event.callCount true a.history + (1 + a.plane.bounces) ∧
      Event.callCount false a.settle.history ≤ Event.callCount false a.history + 1 := by
  let Within (b : Agent Script) : Prop :=
    Reaches (new identity timings epoch script home) b ∧
    Event.callCount true b.history + b.task.registrationsToCome b.plane.bounces b.now ≤
      Event.callCount true a.history + (1 + a.plane.bounces) ∧
    Event.callCount false b.history + b.task.beatsToCome b.now ≤
      Event.callCount false a.history + 1
  -- A step takes the calls that it makes from those that could still come.
  have kept {b c : Agent Script} (taken : b.step? = some c) (h : Within b) : Within c := by
    obtain ⟨hb, registrations, beats⟩ := h
    have ht : b.timings = timings := hb.timings_eq
    have hs : Stride b c := stride_of_step? taken
    refine ⟨hb.tail (.step taken), ?_, ?_⟩
    · have hle := hs.registrations_le (ht ▸ retry) (hb.registerDefault_eq ▸ last)
      exact Nat.le_trans hle registrations
    · exact Nat.le_trans (hs.beats_le (ht ▸ interval)) beats
  obtain ⟨_, registrations, beats⟩ := settle_keeps kept (show Within a from
    ⟨run, Nat.add_le_add_left (a.task.registrationsToCome_le _ _) _,
      Nat.add_le_add_left (a.task.beatsToCome_le _) _⟩)
  constructor
  · omega
  · omega

/-- No run over a script is ever held up at one moment, also where calls have no time to be answered
in. From whatever state, a bounded number of steps brings the task to rest. On the way it registers
at most once more than the script still holds redirects that take no time, and sends one heartbeat at
most. And of all registrations of that moment, each but the last was redirected at that moment. -/
theorem moment_comes_to_an_end (identity : Identity) (timings : Timings) (epoch : Int)
    (script : Script) (home : String) (retry : 1 ≤ timings.retryDelay.millis)
    (interval : 1 ≤ timings.heartbeatInterval.millis)
    (last : script.registerDefault.bounces = false) {a : Agent Script}
    (run : Reaches (new identity timings epoch script home) a) :
    let redirects := a.plane.bounces
    let b := a.settle
    let made := (a.report .nothing b).calls
    (b.step? = none ∧ ∀ n, 2 * redirects + 6 ≤ n → a.steps n = b) ∧
    made.countP (·.request.isRegister) ≤ 1 + redirects ∧
    made.countP (!·.request.isRegister) ≤ 1 ∧
    (∀ call ∈ made, call.time = a.now) ∧
    ∀ call since earlier, b.history = since ++ .called call :: earlier →
      call.request.isRegister = true → call.time = a.now → 0 < Event.callCount true since →
      Event.Redirected call since := by
  intro redirects b made
  obtain ⟨events, hist, times⟩ := history_settle a
  obtain ⟨registrations, beats⟩ := calls_settle retry interval last run
  have hmade : made = (events.filterMap Event.call?).reverse := calls_report hist _
  rw [hist, Event.callCount, Event.callCount, List.countP_append] at registrations beats
  have hredirects : redirects ≤ ControlPlane.unread a.plane := a.plane.bounces_le_unread
  have blocked : (a.steps (2 * redirects + 6)).step? = none :=
    steps_blocked_of_less (fun a => a.task.exertion a.plane.bounces a.now)
      (exertion_lt_of_script retry interval last) run (a.task.exertion_le _ _) (by omega)
  have settled : b = a.steps (2 * redirects + 6) :=
    steps_of_le blocked (by unfold stamina; omega)
  refine ⟨⟨settled ▸ blocked, fun n hn => ?_⟩, ?_, ?_, ?_, ?_⟩
  · rw [settled, steps_of_le blocked hn]
  · have hcount := countP_reverse_call? true events
    simp only [beq_true, ← hmade, Event.callCount] at hcount
    omega
  · have hcount := countP_reverse_call? false events
    simp only [beq_false, ← hmade, Event.callCount] at hcount
    omega
  · intro call hc
    rw [hmade, List.mem_reverse, List.mem_filterMap] at hc
    obtain ⟨e, he, hcall⟩ := hc
    cases e with
    | called => cases hcall; exact times _ he
    | completed => cases hcall
    | noticed => cases hcall
  · intro call since earlier split request hnow
    rw [← now_settle a] at hnow
    exact (run.trans (reaches_settle a)).redirected retry split request hnow

/-- Two redirects at once, for calls that have no time to be answered in. All that can happen at the
moment does: three registrations, the last of them accepted, and the first heartbeat. -/
theorem moment_of_two_redirects :
    let script : Script :=
      { register := [{ act := .reply (.redirect "B") }, { act := .reply (.redirect "A") }] }
    let timings : Timings := { registerTimeout := .ofSecs 0, heartbeatTimeout := .ofSecs 0 }
    let a := (new ⟨"w", "c", ""⟩ timings 0 script "A").after [{ action := .start, settle := false }]
    let made := (a.report .nothing a.settle).calls
    a.settle.step? = none ∧ a.settle.state = .heartbeating ∧
    made.countP (·.request.isRegister) = 1 + a.plane.bounces ∧
    made.countP (!·.request.isRegister) = 1 := by
  intro script timings a made
  have run : Reaches (new ⟨"w", "c", ""⟩ timings 0 script "A") a := reaches_after _ _
  obtain ⟨⟨blocked, _⟩, registrations, beats, _⟩ := moment_comes_to_an_end _ timings 0 script "A"
    (by decide) (by decide) (by decide) run
  refine ⟨blocked, by decide +kernel, Nat.le_antisymm registrations ?_, Nat.le_antisymm beats ?_⟩
  · decide +kernel
  · decide +kernel

end Agent
end ClusterMember
