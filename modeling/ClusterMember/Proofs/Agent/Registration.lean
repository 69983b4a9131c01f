import ClusterMember.Proofs.Agent.Plan

/-! # Getting registered

An agent that is not stopped gets registered once the control plane agrees, however often and in
whatever way it failed to do so before. When each call is made, and where it goes, follows from the
steps that failed.

* `Task.toGo`, `Agent.Stride.toGo_lt`: what a task can still do at the present moment.
* `Plan.comesToRest`: the task comes to rest at every moment.
* `Plan.OnSchedule.at_rest`: at rest, the time tells which calls were made.
* `Agent.registration_gets_through`: what this means for a session.
-/

namespace ClusterMember
set_option autoImplicit false

/-- A bound on the steps that a task can take at the present moment, with so many registrations
still to be made. -/
def Task.toGo (left now : Nat) : Task → Nat
  | absent | finished | crashed _ => 0
  | turn .registering => 3 * left + 2
  | ready | waiting .registering _ => 3 * left + 3
  | calling .registering _ => 3 * left + 4
  | calling (.beating _) _ => 2
  | turn (.beating _) => 3
  | waiting (.beating _) wake => if wake ≤ now then 4 else 1

theorem Task.toGo_le (left now : Nat) (task : Task) : task.toGo left now ≤ 3 * left + 4 := by
  unfold toGo
  split <;> try split
  all_goals omega

theorem Duration.waited_pos {d : Duration} (h : 1 ≤ d.millis) : 0 < d.waited := by
  unfold waited longestWait
  omega

/-! ## Coming to rest -/

/-- Every step of a member leaves less to do at the present moment. -/
theorem Agent.Stride.toGo_lt {σ : Type} [ControlPlane σ] {a b : Agent σ} (hs : Stride a b)
    (member : a.task.stage = .heartbeating)
    (interval : 1 ≤ a.timings.heartbeatInterval.millis) (live : a.state ≠ .stopped)
    (left later : Nat) : b.task.toGo later b.now < a.task.toGo left a.now := by
  cases hs with
  | enter ready =>
    rw [ready] at member
    cases member
  | @call loop turn =>
    rw [turn] at member ⊢
    cases loop with
    | registering => cases member
    | beating missed => exact Nat.lt_succ_self _
  | @answer loop pending notices calling =>
    rw [calling] at member ⊢
    cases loop with
    | registering => cases member
    | beating missed =>
      have hpos := Duration.waited_pos interval
      have hlater : ¬ a.now + a.timings.heartbeatInterval.waited ≤ a.now := by omega
      show (if a.now + a.timings.heartbeatInterval.waited ≤ a.now then 4 else 1) < 2
      rw [if_neg hlater]
      exact Nat.lt_succ_self _
  | @wake loop time waiting _ due =>
    rw [waiting] at member ⊢
    cases loop with
    | registering => cases member
    | beating missed =>
      show 3 < if time ≤ a.now then 4 else 1
      rw [if_pos due]
      exact Nat.lt_succ_self _
  | leave _ _ stopped => exact absurd stopped live

namespace Plan
variable {p : Plan}

/-- How many registrations are still to be made, at most. -/
def left (p : Plan) (a : Agent Script) : Nat :=
  p.failing.length + 1 - Event.callCount true a.history

theorem toGo_taskAfter_registering (answer : Answer) (a : Agent Script) (left : Nat) :
    (a.taskAfter .registering answer).toGo left a.now < 3 * left + 4 := by
  simp only [Agent.taskAfter]
  split
  · split
    · exact Nat.succ_pos _
    · show 3 < _
      omega
  · split
    · show 3 * left + 2 < _
      omega
    · split
      · exact Nat.succ_pos _
      · exact Nat.lt_succ_self _
      · exact Nat.lt_succ_self _

/-- Every step leaves less to do at the present moment. -/
theorem OnSchedule.toGo_lt {a b : Agent Script} (h : p.OnSchedule a)
    (run : Agent.Reaches p.fresh a) (interval : 1 ≤ p.timings.heartbeatInterval.millis)
    (live : a.state ≠ .stopped) (hs : Agent.Stride a b) :
    b.task.toGo (p.left b) b.now < a.task.toGo (p.left a) a.now := by
  have ht : a.timings = p.timings := run.timings_eq
  by_cases member : a.task.stage = .heartbeating
  · exact hs.toGo_lt member (ht ▸ interval) live _ _
  cases hs with
  | enter ready =>
    rw [ready]
    exact Nat.lt_succ_self _
  | @call loop turn =>
    cases loop with
    | beating missed => exact absurd (congrArg Task.stage turn) member
    | registering =>
      have hlt : Event.callCount true a.history < p.failing.length + 1 := by
        cases h with
        | between done left split hb =>
          have hlen := congrArg List.length hb.calls
          have hfail := congrArg List.length split
          simp [Event.length_calls] at hlen hfail
          omega
        | during done step left split pending hd => cases hd.task.symm.trans turn
        | member hm => exact absurd hm.stage member
      rw [turn]
      simp only [Task.toGo, left, Event.callCount_noticed, Event.callCount_called,
        Agent.nextCall_isRegister, Loop.isRegistering, if_true]
      omega
  | @answer loop pending notices calling =>
    cases loop with
    | beating missed => exact absurd (congrArg Task.stage calling) member
    | registering =>
      simp only [left, Event.callCount_noticed, Event.callCount_completed]
      rw [calling]
      exact toGo_taskAfter_registering _ _ _
  | @wake loop time waiting =>
    cases loop with
    | beating missed => exact absurd (congrArg Task.stage waiting) member
    | registering =>
      rw [waiting]
      exact Nat.lt_succ_self _
  | leave _ _ stopped => exact absurd stopped live

theorem toGo_le_stamina {a : Agent Script} (run : Agent.Reaches p.fresh a) :
    a.task.toGo (p.left a) a.now ≤ a.stamina := by
  have hleft : p.left a ≤ ControlPlane.unread a.plane + 1 := by
    rw [(scripted_of_reaches run).plane]
    show _ ≤ (p.script.register.drop _).length + (p.script.heartbeat.drop _).length + 1
    have hle := p.length_failing_le
    simp only [left, List.length_drop]
    omega
  have hle := a.task.toGo_le (p.left a) a.now
  unfold Agent.stamina
  omega

/-- The task comes to rest, at whatever moment. -/
theorem comesToRest (started : Agent.Reaches p.fresh p.started)
    (interval : 1 ≤ p.timings.heartbeatInterval.millis) : p.started.ComesToRest := by
  refine Agent.comesToRest_of_less (fun a => a.task.toGo (p.left a) a.now) ?_ ?_
  · intro a b run live hs
    have on := (onSchedule_of_reaches started run).resolve_left live
    exact on.toGo_lt (started.trans run) interval live hs
  · intro a run
    exact toGo_le_stamina (started.trans run)

/-! ## At rest -/

theorem time_call_append (done later : List Step) :
    (p.call (done ++ later)).time = (p.call done).time + p.timings.spent later := by
  simp [call, Timings.registration, Timings.spent_append, Nat.add_assoc]

/-- The calls of the plan that were made are those whose time has come. -/
theorem filter_calls {done later : List Step} {a : Agent Script} {made : List Call}
    (coherent : a.Coherent) (split : p.failing = done ++ later)
    (calls : Event.calls true a.history = made) (next : List Call)
    (hdone : done.inits.map p.call = made ++ next) (hnext : ∀ call ∈ next, a.now < call.time)
    (hlater : ∀ rest ∈ later.inits.tail, a.now < (p.call (done ++ rest)).time) :
    Event.calls true a.history =
      (p.failing.inits.map p.call).filter fun call => call.time ≤ a.now := by
  have hpast : ∀ call ∈ made, call.time ≤ a.now := fun call hc =>
    coherent.past _ (Event.mem_calls (calls ▸ hc))
  have hrest : ∀ call ∈ (later.inits.tail.map fun rest => done ++ rest).map p.call,
      a.now < call.time := by
    intro call hc
    rw [List.map_map] at hc
    obtain ⟨rest, hr, rfl⟩ := List.mem_map.1 hc
    exact hlater rest hr
  rw [split, List.inits_append, List.map_append, hdone, List.filter_append, List.filter_append,
    List.filter_eq_self.2 (by simpa using hpast), List.filter_eq_nil_iff.2 (by simpa using hnext),
    List.filter_eq_nil_iff.2 (by simpa using hrest), calls, List.append_nil, List.append_nil]

theorem Between.at_rest {done left : List Step} {a : Agent Script} (h : p.Between done a)
    (coherent : a.Coherent) (split : p.failing = done ++ left) (blocked : a.step? = none) :
    (Event.calls true a.history =
      (p.failing.inits.map p.call).filter fun call => call.time ≤ a.now) ∧
    a.now < p.joinTime ∧ a.task.stage = .registering := by
  have hwait : a.task = .waiting .registering (p.call done).time := by
    rcases h.task with ⟨ht | ht, _⟩ | ⟨ht, _⟩
    · simp [Agent.step?, ht] at blocked
    · simp [Agent.step?, ht] at blocked
    · exact ht
  have hlt : a.now < (p.call done).time :=
    Agent.lt_of_nextDue blocked (by simp [Agent.nextDue, hwait])
  refine ⟨?_, ?_, congrArg Task.stage hwait⟩
  · refine filter_calls coherent split rfl [p.call done] h.calls.symm (by simpa using hlt) ?_
    intro rest _
    rw [time_call_append]
    exact Nat.lt_add_right _ hlt
  · have hle : (p.call done).time ≤ (p.call p.failing).time := by
      rw [split, time_call_append]
      exact Nat.le_add_right _ _
    exact Nat.lt_of_lt_of_le hlt (Nat.le_trans hle (Nat.le_add_right _ _))

theorem During.at_rest {done left : List Step} {step : Step} {pending : Pending}
    {a : Agent Script} (h : p.During done step pending a) (coherent : a.Coherent)
    (split : p.failing ++ [p.accepting] = done ++ step :: left) (blocked : a.step? = none) :
    (Event.calls true a.history =
      (p.failing.inits.map p.call).filter fun call => call.time ≤ a.now) ∧
    a.now < p.joinTime ∧ a.task.stage = .registering := by
  have hlt : a.now < (p.call done).time + step.span p.limit :=
    h.due ▸ Agent.lt_of_nextDue blocked (by simp [Agent.nextDue, h.task])
  have hcalls (later : List Step) (hf : p.failing = done ++ later)
      (hl : ∀ rest ∈ later.inits.tail, a.now < (p.call (done ++ rest)).time) :=
    filter_calls coherent hf h.calls [] (List.append_nil _).symm (by simp) hl
  rcases List.eq_nil_or_concat' left with hleft | ⟨front, last, hleft⟩
  · rw [hleft] at split
    obtain ⟨hdone, hstep⟩ := List.append_inj' split rfl
    cases hdone
    cases hstep
    exact ⟨hcalls [] (List.append_nil _).symm (by simp), hlt, congrArg Task.stage h.task⟩
  · rw [hleft, ← List.cons_append, ← List.append_assoc] at split
    obtain ⟨hf, _⟩ := List.append_inj' split rfl
    have hturn := p.timings.span_le_turn step
    have hnext (rest : List Step) : a.now < (p.call (done ++ step :: rest)).time := by
      rw [time_call_append, Timings.spent]
      unfold limit at hlt
      omega
    refine ⟨hcalls (step :: front) hf ?_, ?_, congrArg Task.stage h.task⟩
    · simpa [List.inits_cons] using fun rest _ => hnext rest
    · have hle : (p.call p.failing).time ≤ p.joinTime := Nat.le_add_right _ _
      rw [hf] at hle
      exact Nat.lt_of_lt_of_le (hnext front) hle

/-- At rest, it is the time that tells who is a member, and which registrations were made. -/
theorem OnSchedule.at_rest {a : Agent Script} (h : p.OnSchedule a) (coherent : a.Coherent)
    (blocked : a.step? = none) :
    (Event.calls true a.history =
      (p.failing.inits.map p.call).filter fun call => call.time ≤ a.now) ∧
    (a.now < p.joinTime ∧ a.task.stage = .registering ∨ p.joinTime ≤ a.now ∧ p.Member a) := by
  cases h with
  | between done left split hb =>
    obtain ⟨hcalls, hearly⟩ := hb.at_rest coherent split blocked
    exact ⟨hcalls, .inl hearly⟩
  | during done step left split pending hd =>
    obtain ⟨hcalls, hearly⟩ := hd.at_rest coherent split blocked
    exact ⟨hcalls, .inl hearly⟩
  | member hm =>
    obtain ⟨m, _, hma, hjoined⟩ := hm.joined
    refine ⟨?_, .inr ⟨hjoined.now ▸ hma.now_le, hm⟩⟩
    exact filter_calls coherent (List.append_nil _).symm hm.calls [] (List.append_nil _).symm
      (by simp) (by simp)

/-! ## Sessions -/

/-- A session that starts the agent at the moment of the plan. -/
theorem after_start {before : List Command} (rest : List Command)
    (unstarted : ∀ c ∈ before, c.action ≠ .start ∧ c.action ≠ .stop)
    (start : p.start = Command.elapsed before) :
    Agent.Reaches p.fresh p.started ∧
      p.fresh.after (before ++ { action := .start } :: rest) = p.started.settle.after rest := by
  have habsent : p.fresh.after before = { p.fresh with now := p.start } := by
    rw [Agent.after_of_absent rfl unstarted, start]
    simp [fresh, Agent.new]
  have hstart : (p.fresh.after before).perform { action := .start } =
      (.started, p.started.settle) := by
    rw [habsent]
    rfl
  constructor
  · have h := (Agent.reaches_after before p.fresh).tail
      (.start (Agent.start?_of_absent (by rw [habsent]; rfl)))
    rw [habsent] at h
    exact h
  · rw [Agent.after_append, Agent.after_cons, hstart]

theorem live_after {before rest : List Command}
    (unstarted : ∀ c ∈ before, c.action ≠ .start ∧ c.action ≠ .stop)
    (unstopped : ∀ c ∈ rest, c.action ≠ .stop) :
    (p.fresh.after (before ++ { action := .start } :: rest)).settle.state ≠ .stopped := by
  refine Agent.settle_keeps Agent.state_step_ne_stopped ?_
  rw [Ne, Agent.state_after_eq_stopped (by simp [fresh, Agent.new])]
  rintro ⟨c, hc, hstop⟩
  rcases List.mem_append.1 hc with hc | hc
  · exact (unstarted c hc).2 hstop
  · rcases List.mem_cons.1 hc with rfl | hc
    · cases hstop
    · exact unstopped c hc hstop

end Plan

namespace Agent

/-- An agent that is started and not stopped, over a script that fails first, in ways that are no
crash, and then agrees. However long the session goes on, exactly those registrations were made
whose time has come, each at its time and to the leader named last; and the agent is a member
exactly from the moment on at which the agreement is in. -/
theorem registration_gets_through (identity : Identity) (timings : Timings) (epoch : Int)
    (home : String) (script : Script) (failing : List Step) (accepting : Step)
    (steps : (List.range (failing.length + 1)).map (script.stepFor true) = failing ++ [accepting])
    (fails : ∀ step ∈ failing, step.accepts timings.registerTimeout.millis = false ∧
      step.crashes timings.registerTimeout.millis = false)
    (agrees : accepting.accepts timings.registerTimeout.millis = true)
    (interval : 1 ≤ timings.heartbeatInterval.millis) (before rest : List Command)
    (unstarted : ∀ c ∈ before, c.action ≠ .start ∧ c.action ≠ .stop)
    (unstopped : ∀ c ∈ rest, c.action ≠ .stop) :
    let fresh := new identity timings epoch script home
    let b := (fresh.after (before ++ { action := .start } :: rest)).settle
    let start := Command.elapsed before
    let joinTime := start + timings.spent failing +
      accepting.span timings.registerTimeout.millis
    let leader := timings.leaderAfter home failing
    let counters : Counters :=
      { registrationAttempts := failing.length + 1, registrations := 1,
        redirects := timings.redirects failing }
    b.now = start + Command.elapsed rest ∧
    (Event.calls true b.history =
      (failing.inits.map (timings.registration identity home start)).filter
        fun call => call.time ≤ b.now) ∧
    (b.now < joinTime → b.state = .registering ∧ Event.calls false b.history = []) ∧
    (joinTime ≤ b.now →
      b.state = .heartbeating ∧
      (∃ m, Reaches fresh m ∧ Reaches m b ∧ m.now = joinTime ∧ m.state = .heartbeating ∧
        m.endpoint = leader ∧ m.counters = counters ∧ Event.calls false m.history = []) ∧
      ((∀ time call answer, .completed time call answer ∈ b.history →
          call.request.isRegister = true) →
        b.endpoint = leader ∧ b.counters = counters)) := by
  intro fresh b start joinTime leader counters
  let p : Plan := ⟨identity, timings, epoch, home, script, start, failing, accepting, steps, fails,
    agrees⟩
  obtain ⟨started, hsession⟩ := p.after_start rest unstarted rfl
  have hb : b = (p.started.settle.after rest).settle := congrArg settle hsession
  have live : b.state ≠ .stopped := p.live_after unstarted unstopped
  have hrun : Reaches p.started b := by
    rw [hb]
    exact ((reaches_settle _).trans (reaches_after _ _)).trans (reaches_settle _)
  have comes := (Plan.comesToRest started interval).reaches (reaches_settle _)
  have blocked : b.step? = none := by
    rw [hb]
    exact comes.settled_after rest
  have hnow : b.now = start + Command.elapsed rest := by
    rw [hb, comes.now_settle_after, now_settle]
    rfl
  have hfresh : Reaches p.fresh b := started.trans hrun
  have phased := hfresh.phased (phased_new _ _ _ _ _) (coherent_new _ _ _ _ _)
  have hstate : b.state = b.task.stage := phased.state.resolve_right live
  obtain ⟨hcalls, hjoin⟩ := ((Plan.onSchedule_of_reaches started hrun).resolve_left live).at_rest
    (Plan.coherent_of_reaches hfresh) blocked
  refine ⟨hnow, hcalls, fun early => ?_, fun late => ?_⟩
  · rcases hjoin with ⟨_, hstage⟩ | ⟨hle, _⟩
    · have h0 := phased.early (by rw [hstage]; exact Nat.le_refl _)
      exact ⟨hstate.trans hstage,
        List.eq_nil_of_length_eq_zero ((Event.length_calls _ _).trans (phased.unbeaten h0))⟩
    · exact absurd hle (Nat.not_le_of_lt early)
  · rcases hjoin with ⟨hlt, _⟩ | ⟨_, hm⟩
    · exact absurd hlt (Nat.not_lt_of_le late)
    · obtain ⟨m, hsm, hmb, hjoined⟩ := hm.joined
      exact ⟨hstate.trans hm.stage,
        ⟨m, started.trans hsm, hmb, hjoined.now, hjoined.state, hjoined.endpoint, hjoined.counters,
          hjoined.unbeaten⟩, hm.unanswered⟩

/-- A redirect after 7 milliseconds, a call that is never answered, and an agreement. -/
theorem registration_after_redirect_and_hang :
    let failing : List Step := [{ delay := 7, act := .reply (.redirect "B") }, { act := .hang }]
    let script : Script := { register := failing, registerDefault := { delay := 3 } }
    let b := ((new ⟨"w", "c", ""⟩ {} 0 script "A").after
      ([] ++ { action := .start } :: [{ action := .advance 10010 }])).settle
    b.now = 10010 ∧ b.state = .heartbeating ∧
    (Event.calls true b.history).map (fun call => (call.time, call.endpoint)) =
      [(0, "A"), (7, "B"), (10007, "B")] := by
  intro failing script b
  obtain ⟨hnow, hcalls, _, hlate⟩ := registration_gets_through ⟨"w", "c", ""⟩ {} 0 "A" script failing
    { delay := 3 } (by decide) (by decide) (by decide) (by decide) [] [{ action := .advance 10010 }]
    (by simp) (by simp)
  have hb : b.now = 10010 := hnow.trans (by decide)
  refine ⟨hb, (hlate ?_).1, ?_⟩
  · exact Nat.le_of_eq (Eq.trans (by decide) hb.symm)
  · rw [show Event.calls true b.history = _ from hcalls, show Agent.now _ = _ from hb]
    decide

/-- No wait is longer than thirty years: a retry that is to wait for longer, with a refusal at once
at time 0, comes before its time. -/
theorem retry_before_its_delay :
    let timings : Timings := { retryDelay := .ofMillis 946080000001 }
    let script : Script := { register := [{ act := .reply (.reject "no") }] }
    let b := (new ⟨"w", "c", ""⟩ timings 1700000000 script "A").after
      [{ action := .start }, { action := .advance 500000000000 },
        { action := .advance 446079999999 }, { action := .advance 1 }]
    b.now < 0 + (0 + timings.retryDelay.millis) ∧ b.state = .heartbeating ∧
    (Event.calls true b.history).map Call.time = [0, b.now] := by
  decide +kernel

end Agent
end ClusterMember
