import ClusterMember.Proofs.Agent.Cadence
import ClusterMember.Proofs.Agent.Conservation
import ClusterMember.Proofs.Agent.Registration

/-! # Keeping the cadence

A member goes on sending heartbeats whatever becomes of them. None of them ends its task, sends it
back to registering or moves the ones that follow.

* `Cadence.Past`: the history, the endpoint and the counters after so many heartbeats.
* `Cadence.On`: about to send a heartbeat, waiting for its answer, or waiting for the next one.
* `Cadence.on_of_join`, `Cadence.On.change`: a member is in one of these places, at first and after
  every move.
* `Cadence.comesToRest`: its task comes to rest at every moment.
* `Agent.heartbeats_keep_cadence`: what this means for every run of a member.
-/

namespace ClusterMember
set_option autoImplicit false

namespace Cadence
variable {c : Cadence} {m a b : Agent Script}

/-- The heartbeats are laid down for this agent, whose calls are handled by their script. -/
structure Led (c : Cadence) (a : Agent Script) : Prop where
  identity : a.identity = c.identity
  timings : a.timings = c.timings
  scripted : a.Scripted c.script
  coherent : a.Coherent

theorem Led.reaches (h : c.Led a) (run : Agent.Reaches a b) : c.Led b where
  identity := run.identity_eq.trans h.identity
  timings := run.timings_eq.trans h.timings
  scripted := run.scripted h.scripted
  coherent := run.coherent h.coherent

/-- Since the agent became a member at `m`, so many heartbeats were sent and so many were answered,
and it asked for no registration. -/
structure Past (c : Cadence) (m : Agent Script) (sent ended : Nat) (a : Agent Script) : Prop where
  registrations : Event.calls true a.history = Event.calls true m.history
  beats : Event.calls false a.history = (List.range sent).map c.call
  endings : ∀ k < ended, .completed (c.due k) (c.call k) (c.answer k) ∈ a.history
  endpoint : a.endpoint = c.endpoint ended
  tally : c.Tally ended m.counters a.counters

theorem Past.of_same {sent ended : Nat} (h : c.Past m sent ended a)
    (history : b.history = a.history) (endpoint : b.endpoint = a.endpoint)
    (counters : b.counters = a.counters) : c.Past m sent ended b := by
  refine ⟨?_, ?_, ?_, ?_, ?_⟩
  · rw [history, h.registrations]
  · rw [history, h.beats]
  · rw [history]
    exact h.endings
  · rw [endpoint, h.endpoint]
  · rw [counters]
    exact h.tally

/-- Where a member can be that is not stopped. -/
inductive On (c : Cadence) (m a : Agent Script) : Prop
  | turn (k missed : Nat) (task : a.task = .turn (.beating missed)) (now : a.now = c.time k)
      (past : c.Past m k k a)
  | during (k missed : Nat)
      (task : a.task = .calling (.beating missed) ⟨c.call k, c.due k, c.answer k⟩)
      (past : c.Past m (k + 1) k a)
  | between (k missed : Nat) (task : a.task = .waiting (.beating missed) (c.time (k + 1)))
      (late : c.due k ≤ a.now) (early : a.now ≤ c.time (k + 1))
      (past : c.Past m (k + 1) (k + 1) a)

/-! ## Becoming a member -/

/-- The first heartbeat is sent at the moment when the agent becomes a member. -/
theorem on_of_join (phased : a.Phased) (move : Agent.Move a m)
    (outside : a.state ≠ .heartbeating) (member : m.state = .heartbeating)
    (start : c.start = m.now) (leader : c.leader = m.endpoint) : c.On m m := by
  cases move.change with
  | start => exact absurd member outside
  | stop => cases member
  | again => exact absurd member outside
  | pass => exact absurd member outside
  | step taken =>
    cases taken with
    | enter => cases member
    | call => exact absurd member outside
    | wake => exact absurd member outside
    | leave => exact absurd member outside
    | @answer loop pending notices calling =>
      -- No other answer changes the state.
      have agreed : loop.isRegistering = true ∧ pending.answer.accepts = true ∧
          a.state ≠ .stopped := by
        by_contra h
        have hstate : a.stateAfter loop pending.answer = a.state := if_neg h
        exact outside (hstate.symm.trans member)
      obtain ⟨hloop, hacc, live⟩ := agreed
      cases loop with
      | beating => cases hloop
      | registering =>
        have hstage : a.task.stage = .registering := congrArg Task.stage calling
        have unregistered : Event.registrationCount a.history = 0 :=
          phased.early (by rw [hstage]; exact Nat.le_refl _)
        refine .turn 0 0 (Agent.taskAfter_of_accepts hacc live) ?_ ?_
        · rw [time_zero, start]
        · refine ⟨rfl, ?_, fun k hk => absurd hk (Nat.not_lt_zero k), leader.symm, Tally.zero _⟩
          rw [Event.calls_noticed, Event.calls_completed]
          exact List.eq_nil_of_length_eq_zero
            ((Event.length_calls _ _).trans (phased.unbeaten unregistered))

/-! ## One move -/

theorem Past.send {k : Nat} (h : c.Past m k k a) (led : c.Led a) (now : a.now = c.time k)
    (missed : Nat) :
    a.placed (.beating missed) = ⟨c.call k, c.due k, c.answer k⟩ ∧
      c.Past m (k + 1) k (a.called (.beating missed)) := by
  have hcall : a.nextCall (.beating missed) = c.call k := by
    simp only [Agent.nextCall, led.identity, led.timings, now, h.endpoint]
    rfl
  have hcount : Event.callCount false a.history = k := by
    rw [← Event.length_calls, h.beats, List.length_map, List.length_range]
  have hhandle : (ControlPlane.handle (c.call k) a.plane).1 =
      (c.step k).handling (c.endpoint k) := by
    rw [led.scripted.handle]
    show (c.script.stepFor false (Event.callCount false a.history)).handling _ = _
    rw [hcount]
    rfl
  have hspan := ((c.step k).result_handling (c.endpoint k) (c.call k)).1
  constructor
  · simp only [Agent.placed, hcall, hhandle, hspan, now]
    rfl
  · refine ⟨?_, ?_, ?_, h.endpoint, h.tally⟩
    · rw [Event.calls_noticed, Event.calls_called, Agent.nextCall_isRegister]
      exact (List.append_nil _).trans h.registrations
    · rw [Event.calls_noticed, Event.calls_called, hcall, h.beats, List.range_succ,
        List.map_append]
      rfl
    · intro j hj
      exact List.mem_append_right _ (List.mem_cons_of_mem _ (h.endings j hj))

theorem Past.answer {k : Nat} (h : c.Past m (k + 1) k a) (due : a.now = c.due k) (missed : Nat)
    (notices : List Notice) :
    c.Past m (k + 1) (k + 1)
      (a.answered (.beating missed) ⟨c.call k, c.due k, c.answer k⟩ notices) := by
  have hleader := ((c.step k).result_handling (c.endpoint k) (c.call k)).2.1
  refine ⟨?_, ?_, ?_, ?_, ?_⟩
  · rw [Event.calls_noticed, Event.calls_completed, h.registrations]
  · rw [Event.calls_noticed, Event.calls_completed, h.beats]
  · intro j hj
    refine List.mem_append_right _ ?_
    rcases Nat.lt_succ_iff_lt_or_eq.1 hj with hj | rfl
    · exact List.mem_cons_of_mem _ (h.endings j hj)
    · rw [due]
      exact List.mem_cons_self
  · show (c.answer k).leader?.getD a.endpoint = _
    rw [h.endpoint, Cadence.answer, hleader]
    rfl
  · show c.Tally (k + 1) m.counters ((c.answer k).count _ a.wallClock a.counters)
    rw [Cadence.answer, Step.count_result]
    exact h.tally.succ a.wallClock

theorem On.change (h : c.On m a) (led : c.Led a) (move : Agent.Move a b)
    (live : b.state ≠ .stopped) : c.On m b := by
  cases move.change with
  | start absent => cases h with | _ _ _ task => cases task.symm.trans absent
  | stop => exact absurd rfl live
  | again => exact h
  | pass blocked later inTime =>
    cases h with
    | turn _ _ task => simp [Agent.step?, task] at blocked
    | during k missed task past =>
      exact .during k missed task (past.of_same rfl rfl rfl)
    | between k missed task late early past =>
      have hle := inTime (c.time (k + 1)) (by simp [Agent.nextDue, task])
      exact .between k missed task (Nat.le_trans late later) hle (past.of_same rfl rfl rfl)
  | step taken =>
    cases taken with
    | enter ready => cases h with | _ _ _ task => cases task.symm.trans ready
    | leave _ _ stopped => exact absurd stopped live
    | call turn =>
      cases h with
      | turn k missed task now past =>
        cases task.symm.trans turn
        obtain ⟨hplaced, hpast⟩ := past.send led now missed
        exact .during k missed (congrArg _ hplaced) hpast
      | during _ _ task => cases task.symm.trans turn
      | between _ _ task => cases task.symm.trans turn
    | answer notices calling due =>
      cases h with
      | turn _ _ task => cases task.symm.trans calling
      | between _ _ task => cases task.symm.trans calling
      | during k missed task past =>
        cases task.symm.trans calling
        -- Time passes at most until the call is due, so its answer is taken at that very moment.
        have hnow : a.now = c.due k :=
          Nat.le_antisymm (led.coherent.inFlight _ _ task).now_le_due due
        have hnext : a.now + a.timings.heartbeatInterval.waited = c.time (k + 1) := by
          rw [hnow, led.timings, time_succ]
        refine .between k ((c.answer k).missed missed) ?_ (Nat.le_of_eq hnow.symm) ?_
          (past.answer hnow missed notices)
        · rw [← hnext]
          rfl
        · rw [← hnext]
          exact Nat.le_add_right _ _
    | wake waiting _ due =>
      cases h with
      | turn _ _ task => cases task.symm.trans waiting
      | during _ _ task => cases task.symm.trans waiting
      | between k missed task late early past =>
        cases task.symm.trans waiting
        exact .turn (k + 1) missed rfl (Nat.le_antisymm early due) (past.of_same rfl rfl rfl)

/-! ## Every run of a member -/

theorem on_of_reaches (led : c.Led m) (first : c.On m m) (run : Agent.Reaches m b) :
    b.state = .stopped ∨ c.On m b := by
  refine run.keeps (.inr first) fun {a b} hab move ih => ?_
  by_cases hb : b.state = .stopped
  · exact .inl hb
  · have live : a.state ≠ .stopped := fun hs =>
      hb ((Agent.Reaches.single move).state_stopped hs)
    exact .inr ((ih.resolve_left live).change (led.reaches hab) move hb)

theorem On.stage (h : c.On m a) : a.task.stage = .heartbeating := by
  cases h with | _ _ _ task => exact congrArg Task.stage task

theorem On.status (h : c.On m a) : a.task.status = .running := by
  cases h with | _ _ _ task => exact congrArg Task.status task

/-- The task of a member comes to rest, at whatever moment. -/
theorem comesToRest (led : c.Led m) (first : c.On m m)
    (interval : 1 ≤ c.timings.heartbeatInterval.millis) : m.ComesToRest := by
  refine Agent.comesToRest_of_less (fun a => a.task.toGo 0 a.now) ?_ ?_
  · intro a b run live hs
    have on := (on_of_reaches led first run).resolve_left live
    have hinterval : 1 ≤ a.timings.heartbeatInterval.millis := by
      rw [(led.reaches run).timings]
      exact interval
    exact hs.toGo_lt on.stage hinterval live 0 0
  · intro a run
    have hle := a.task.toGo_le 0 a.now
    unfold Agent.stamina
    omega

/-! ## At rest -/

/-- Of moments in order, those before the next one are those that have come. -/
theorem lt_iff_of_next {f : Nat → Nat} (mono : Monotone f) {n now : Nat}
    (past : ∀ j < n, f j ≤ now) (next : now < f n) (j : Nat) : j < n ↔ f j ≤ now :=
  ⟨past j, fun h => mono.reflect_lt (Nat.lt_of_le_of_lt h next)⟩

/-- At rest, it is the time that tells which heartbeats were sent and which were answered. -/
theorem On.at_rest (h : c.On m a) (coherent : a.Coherent) :
    ∃ ended, c.Past m (ended + a.task.openBeats) ended a ∧
      (a.step? = none → ∀ k,
        (k < ended ↔ c.due k ≤ a.now) ∧
        (k < ended + a.task.openBeats ↔ c.time k ≤ a.now)) := by
  cases h with
  | turn k missed task now past =>
    refine ⟨k, ?_, fun blocked => ?_⟩
    · rw [task]
      exact past
    · simp [Agent.step?, task] at blocked
  | during k missed task past =>
    refine ⟨k, ?_, fun blocked => ?_⟩
    · rw [task]
      exact past
    · have hsent : c.time k ≤ a.now := (coherent.inFlight _ _ task).made
      have hdue : a.now < c.due k := Agent.lt_of_nextDue blocked (by simp [Agent.nextDue, task])
      have hnext : a.now < c.time (k + 1) := Nat.lt_of_lt_of_le hdue (c.due_le_time_succ k)
      rw [task]
      intro j
      constructor
      · refine lt_iff_of_next c.due_mono (fun i hi => ?_) hdue j
        exact Nat.le_trans (c.due_le_time_succ i) (Nat.le_trans (c.time_mono hi) hsent)
      · refine lt_iff_of_next c.time_mono (fun i hi => ?_) hnext j
        exact Nat.le_trans (c.time_mono (Nat.le_of_lt_succ hi)) hsent
  | between k missed task late early past =>
    refine ⟨k + 1, ?_, fun blocked => ?_⟩
    · rw [task]
      exact past
    · have hnext : a.now < c.time (k + 1) :=
        Agent.lt_of_nextDue blocked (by simp [Agent.nextDue, task])
      have hdue : a.now < c.due (k + 1) := Nat.lt_of_lt_of_le hnext (c.time_le_due (k + 1))
      rw [task]
      intro j
      constructor
      · refine lt_iff_of_next c.due_mono (fun i hi => ?_) hdue j
        exact Nat.le_trans (c.due_mono (Nat.le_of_lt_succ hi)) late
      · refine lt_iff_of_next c.time_mono (fun i hi => ?_) hnext j
        exact Nat.le_trans (c.time_mono (Nat.le_of_lt_succ hi)) (Nat.le_trans (c.time_le_due k) late)

end Cadence

namespace Agent

/-- A member, from the moment on at which it became one, over any script and in any run. Its task can
always settle, so that a session takes as long as its commands ask for. While it is not stopped it
remains a member with a running task and asks for no registration. Each heartbeat is sent at its
time, to the leader that those before it left, is answered when it is due, and is counted once.
Whatever comes after the time limit counts as a timeout. -/
theorem heartbeats_keep_cadence (identity : Identity) (timings : Timings) (epoch : Int)
    (home : String) (script : Script) (interval : 1 ≤ timings.heartbeatInterval.millis)
    {a m : Agent Script} (run : Reaches (new identity timings epoch script home) a)
    (join : Move a m) (outside : a.state ≠ .heartbeating) (member : m.state = .heartbeating) :
    let c : Cadence := ⟨identity, timings, script, m.now, m.endpoint⟩
    (∀ b, Reaches m b → ∀ commands,
      (b.after commands).settle.step? = none ∧
      (b.after commands).settle.now = b.now + Command.elapsed commands) ∧
    (∀ b, Reaches m b → b.state ≠ .stopped →
      b.state = .heartbeating ∧ b.task.status = .running ∧
      ∃ ended, c.Past m (ended + b.task.openBeats) ended b ∧
        (b.step? = none → ∀ k,
          (k < ended ↔ c.due k ≤ b.now) ∧
          (k < ended + b.task.openBeats ↔ c.time k ≤ b.now))) ∧
    (∀ k, (c.step k).inTime c.limit = false →
      c.answer k = .fault (.timeout (c.endpoint k) timings.heartbeatTimeout)) := by
  intro c
  have coherent : Coherent (new identity timings epoch script home) := coherent_new _ _ _ _ _
  have phased := run.phased (phased_new _ _ _ _ _) coherent
  have hm : Reaches (new identity timings epoch script home) m := run.tail join
  have led : c.Led m :=
    ⟨hm.identity_eq, hm.timings_eq, hm.scripted (scripted_new _ _ _ _ _), hm.coherent coherent⟩
  have first : c.On m m := Cadence.on_of_join phased join outside member rfl rfl
  have comes : m.ComesToRest := Cadence.comesToRest led first interval
  refine ⟨?_, ?_, fun k => c.answer_late⟩
  · intro b hb commands
    have hrest := comes.reaches hb
    exact ⟨hrest.settled_after commands, hrest.now_settle_after commands⟩
  · intro b hb live
    have on : c.On m b := (Cadence.on_of_reaches led first hb).resolve_left live
    have hphased := (hm.trans hb).phased (phased_new _ _ _ _ _) coherent
    have hstate : b.state = b.task.stage := hphased.state.resolve_right live
    exact ⟨hstate.trans on.stage, on.status, on.at_rest (led.reaches hb).coherent⟩

/-- A break-down after the time limit, a redirect and a call that is never answered. -/
theorem beats_after_breakdown_and_redirect :
    let script : Script :=
      { heartbeat := [{ delay := 4000, act := .crash .withoutText },
          { act := .reply (.redirect "B") }, { act := .hang }] }
    let ready : Agent Script := { new ⟨"w", "c", ""⟩ {} 0 script "A" with task := .ready }
    let b := ((ready.steps 3).after [{ action := .advance 20000 }]).settle
    b.now = 20000 ∧ b.state = .heartbeating ∧ b.counters.heartbeatsFailed = 2 ∧
    (Event.calls false b.history).map (fun call => (call.time, call.endpoint)) =
      [(0, "A"), (8000, "A"), (13000, "B")] := by
  intro script ready b
  have hready : Reaches (new ⟨"w", "c", ""⟩ {} 0 script "A") ready :=
    Reaches.single (.start rfl)
  obtain ⟨hsettles, hmember, _⟩ := heartbeats_keep_cadence ⟨"w", "c", ""⟩ {} 0 "A" script
    (by decide) (hready.trans (reaches_steps 2 ready)) (.step (b := ready.steps 3) rfl) (by decide)
    rfl
  obtain ⟨hblocked, hnow⟩ := hsettles _ (Reaches.refl _) [{ action := .advance 20000 }]
  have hb : b.now = 20000 := hnow.trans (by decide)
  have live : b.state ≠ .stopped :=
    settle_keeps state_step_ne_stopped (mt (state_after_eq_stopped (by decide) _).1 (by simp))
  obtain ⟨hstate, _, ended, hpast, hrest⟩ :=
    hmember b ((reaches_after _ _).trans (reaches_settle _)) live
  have hat := hrest hblocked
  simp only [hb] at hat
  have hended : ended = 3 := by
    have h2 := (hat 2).1.2 (by decide)
    have h3 := mt (hat 3).1.1 (by decide)
    omega
  have hsent : ended + b.task.openBeats = 3 := by
    have h2 := (hat 2).2.2 (by decide)
    have h3 := mt (hat 3).2.1 (by decide)
    omega
  refine ⟨hb, hstate, ?_, ?_⟩
  · rw [hpast.tally.heartbeatsFailed, hended]
    decide
  · rw [hpast.beats, hsent]
    decide

/-- No wait is longer than thirty years: where the interval is, the second heartbeat of a member
that joined at time 0 and was answered at once comes before its time. -/
theorem beat_before_its_interval :
    let timings : Timings := { heartbeatInterval := .ofMillis 946080000001 }
    let b := (new ⟨"w", "c", ""⟩ timings 1700000000 ({} : Script) "A").after
      [{ action := .start }, { action := .advance 500000000000 },
        { action := .advance 446079999999 }, { action := .advance 1 }]
    b.now < 0 + (0 + timings.heartbeatInterval.millis) ∧ b.state = .heartbeating ∧
    (Event.calls false b.history).map Call.time = [0, b.now] := by
  decide +kernel

end Agent
end ClusterMember
