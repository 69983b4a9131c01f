import ClusterMember.Proofs.Agent.Leader
import ClusterMember.Proofs.Agent.Stopping

/-! # A registration as it is laid down

A script lays down how each registration ends. An agent that is started and not stopped is always at
one place of this plan: about to make a call, in a call, or a member.

* `Plan`: a registration as a script lays it down.
* `Plan.Between`, `Plan.During`, `Plan.Joined`, `Plan.Member`: where an agent can be in it.
* `Plan.OnSchedule`: it is in one of these places.
* `Plan.onSchedule_of_reaches`: along every run.
-/

namespace ClusterMember
set_option autoImplicit false

/-- A registration as a script lays it down for an agent that is started at a given moment: steps
that fail, and one that agrees. -/
structure Plan where
  identity : Identity
  timings : Timings
  epoch : Int
  home : String
  script : Script
  start : Nat
  failing : List Step
  accepting : Step
  steps : (List.range (failing.length + 1)).map (script.stepFor true) = failing ++ [accepting]
  fails : ∀ step ∈ failing, step.accepts timings.registerTimeout.millis = false ∧
    step.crashes timings.registerTimeout.millis = false
  agrees : accepting.accepts timings.registerTimeout.millis = true

namespace Plan
variable (p : Plan)

abbrev limit : Nat := p.timings.registerTimeout.millis

def fresh : Agent Script := Agent.new p.identity p.timings p.epoch p.script p.home

/-- The agent as it is started. -/
def started : Agent Script := { p.fresh with now := p.start, task := .ready }

def call (done : List Step) : Call := p.timings.registration p.identity p.home p.start done

/-- When the agent becomes a member. -/
def joinTime : Nat := p.start + p.timings.spent p.failing + p.accepting.span p.limit

variable {p}

/-- The agent is about to make the registration after some that failed. -/
structure Between (p : Plan) (done : List Step) (a : Agent Script) : Prop where
  task : (a.task = .ready ∨ a.task = .turn .registering) ∧ a.now = (p.call done).time ∨
    a.task = .waiting .registering (p.call done).time ∧ a.now ≤ (p.call done).time
  endpoint : a.endpoint = (p.call done).endpoint
  counters : a.counters =
    { registrationAttempts := done.length, redirects := p.timings.redirects done }
  calls : Event.calls true a.history ++ [p.call done] = done.inits.map p.call

/-- The registration after some that failed is in flight, handled by a given step. -/
structure During (p : Plan) (done : List Step) (step : Step) (pending : Pending)
    (a : Agent Script) : Prop where
  task : a.task = .calling .registering pending
  due : pending.due = (p.call done).time + step.span p.limit
  leader : pending.answer.leader? = step.leader? p.limit
  accepts : pending.answer.accepts = step.accepts p.limit
  sound : step.crashes p.limit = false → ∀ cause, pending.answer ≠ .crash cause
  endpoint : a.endpoint = (p.call done).endpoint
  counters : a.counters =
    { registrationAttempts := done.length + 1, redirects := p.timings.redirects done }
  calls : Event.calls true a.history = done.inits.map p.call

/-- The moment at which the agent becomes a member. -/
structure Joined (p : Plan) (a : Agent Script) : Prop where
  now : a.now = p.joinTime
  state : a.state = .heartbeating
  task : a.task = .turn (.beating 0)
  endpoint : a.endpoint = p.timings.leaderAfter p.home p.failing
  counters : a.counters =
    { registrationAttempts := p.failing.length + 1, registrations := 1,
      redirects := p.timings.redirects p.failing }
  unbeaten : Event.calls false a.history = []

/-- The agent is a member. Until the first heartbeat is answered it is as it was when it became
one. -/
structure Member (p : Plan) (a : Agent Script) : Prop where
  stage : a.task.stage = .heartbeating
  calls : Event.calls true a.history = p.failing.inits.map p.call
  joined : ∃ m, Agent.Reaches p.started m ∧ Agent.Reaches m a ∧ p.Joined m
  unanswered : (∀ time call answer, .completed time call answer ∈ a.history →
      call.request.isRegister = true) →
    a.endpoint = p.timings.leaderAfter p.home p.failing ∧
    a.counters =
      { registrationAttempts := p.failing.length + 1, registrations := 1,
        redirects := p.timings.redirects p.failing }

/-- Where an agent is that was started and not stopped. -/
inductive OnSchedule (p : Plan) (a : Agent Script) : Prop
  | between (done left : List Step) (split : p.failing = done ++ left) (h : p.Between done a)
  | during (done : List Step) (step : Step) (left : List Step)
      (split : p.failing ++ [p.accepting] = done ++ step :: left) (pending : Pending)
      (h : p.During done step pending a)
  | member (h : p.Member a)

/-! ## Calls -/

theorem call_concat (done : List Step) (step : Step) :
    (p.call (done ++ [step])).time = (p.call done).time + p.timings.turn step := by
  simp [call, Timings.registration, Timings.spent_concat, Nat.add_assoc]

theorem endpoint_call_concat (done : List Step) (step : Step) :
    (p.call (done ++ [step])).endpoint =
      (step.leader? p.limit).getD (p.call done).endpoint := by
  simp [call, Timings.registration, Timings.leaderAfter_concat, limit]

theorem inits_concat (done : List Step) (step : Step) :
    (done ++ [step]).inits.map p.call = done.inits.map p.call ++ [p.call (done ++ [step])] := by
  simp [List.inits_append]

theorem coherent_of_reaches {a : Agent Script} (h : Agent.Reaches p.fresh a) : a.Coherent :=
  h.coherent (Agent.coherent_new _ _ _ _ _)

theorem scripted_of_reaches {a : Agent Script} (h : Agent.Reaches p.fresh a) :
    a.Scripted p.script :=
  h.scripted (Agent.scripted_new _ _ _ _ _)

theorem stepFor_done {done left : List Step} {step : Step}
    (split : p.failing ++ [p.accepting] = done ++ step :: left) :
    p.script.stepFor true done.length = step := by
  have hlen := congrArg List.length split
  have hget := congrArg (·[done.length]?) (p.steps.trans split)
  have hlt : done.length < p.failing.length + 1 := by
    simp at hlen
    omega
  simpa [hlt] using hget

/-- The steps that fail are laid down one by one, since a step that is repeated for ever does not
agree after it failed. -/
theorem length_failing_le : p.failing.length ≤ p.script.register.length := by
  refine Nat.le_of_not_lt fun hlt => ?_
  have hrepeat {i : Nat} (h : p.script.register.length ≤ i) :
      p.script.stepFor true i = p.script.registerDefault := by
    simp [Script.stepFor, List.getD_eq_getElem?_getD, List.getElem?_eq_none h]
  have hfail : p.script.stepFor true p.script.register.length ∈ p.failing := by
    have hget : p.failing[p.script.register.length]? =
        (p.failing ++ [p.accepting])[p.script.register.length]? :=
      (List.getElem?_append_left hlt).symm
    rw [← p.steps, List.getElem?_map, List.getElem?_range (Nat.lt_succ_of_lt hlt)] at hget
    exact List.mem_of_getElem? hget
  have hagree : p.script.stepFor true p.failing.length = p.accepting := stepFor_done rfl
  rw [hrepeat (Nat.le_refl _)] at hfail
  rw [hrepeat (Nat.le_of_lt hlt)] at hagree
  have hno := (p.fails _ hfail).1
  rw [hagree, p.agrees] at hno
  cases hno

theorem between_started : p.Between [] p.started where
  task := .inl ⟨.inl rfl, rfl⟩
  endpoint := rfl
  counters := rfl
  calls := rfl

/-- The registration after some that failed is made. -/
theorem Between.call {done left : List Step} {step : Step} {a : Agent Script}
    (h : p.Between done a) (run : Agent.Reaches p.fresh a)
    (split : p.failing ++ [p.accepting] = done ++ step :: left)
    (turn : a.task = .turn .registering) :
    p.During done step (a.placed .registering) (a.called .registering) := by
  have hnow : a.now = (p.call done).time := by
    rcases h.task with ⟨_, hnow⟩ | ⟨waiting, _⟩
    · exact hnow
    · rw [turn] at waiting
      cases waiting
  have hcall : a.nextCall .registering = p.call done := by
    have hid : a.identity = p.identity := run.identity_eq
    have ht : a.timings = p.timings := run.timings_eq
    simp only [Agent.nextCall, hid, ht, hnow, h.endpoint]
    rfl
  have hcount : Event.callCount true a.history = done.length := by
    have hlen := congrArg List.length h.calls
    simpa [Event.length_calls] using hlen
  have hhandle : (ControlPlane.handle (p.call done) a.plane).1 =
      step.handling (p.call done).endpoint := by
    rw [(scripted_of_reaches run).handle]
    show (p.script.stepFor true (Event.callCount true a.history)).handling _ = _
    rw [hcount, stepFor_done split]
  obtain ⟨hspan, hleader, haccepts, hsound⟩ :=
    step.result_handling (p.call done).endpoint (p.call done)
  have hplaced : a.placed .registering =
      ⟨p.call done, a.now + ((step.handling (p.call done).endpoint).result (p.call done)).1,
        ((step.handling (p.call done).endpoint).result (p.call done)).2⟩ := by
    simp only [Agent.placed, hcall, hhandle]
  rw [hplaced]
  refine ⟨congrArg _ hplaced, ?_, hleader, haccepts, hsound, h.endpoint, ?_, ?_⟩
  · show a.now + _ = _
    rw [hspan, hnow]
    rfl
  · show a.counters.countAttempt = _
    rw [h.counters]
    rfl
  · rw [Event.calls_noticed, Event.calls_called, hcall]
    exact h.calls

/-! ## Answers -/

/-- The answer is in, and is no agreement: the registration is made again. -/
theorem During.fail {done : List Step} {step : Step} {pending : Pending} {a : Agent Script}
    (h : p.During done step pending a) (run : Agent.Reaches p.fresh a)
    (ha : step.accepts p.limit = false) (hc : step.crashes p.limit = false)
    (due : a.now = pending.due) (notices : List Notice) :
    p.Between (done ++ [step]) (a.answered .registering pending notices) := by
  have hnow : a.now = (p.call done).time + step.span p.limit := due.trans h.due
  have hacc : pending.answer.accepts = false := h.accepts.trans ha
  have ht : a.timings = p.timings := run.timings_eq
  refine ⟨?_, ?_, ?_, ?_⟩
  · rw [call_concat]
    cases hl : step.leader? p.limit with
    | some leader =>
      have hsome : (step.leader? p.limit).isSome = true := by rw [hl]; rfl
      rw [p.timings.turn_of_redirect hsome]
      exact .inl ⟨.inr (Agent.taskAfter_of_redirect (h.leader ▸ hsome)), hnow⟩
    | none =>
      have hwake : (p.call done).time + p.timings.turn step =
          a.now + a.timings.retryDelay.waited := by
        rw [p.timings.turn_of_retry hl, hnow, ht, Nat.add_assoc, limit]
      rw [hwake]
      refine .inr ⟨?_, Nat.le_add_right _ _⟩
      exact Agent.taskAfter_of_retry hacc (h.leader.trans hl) (h.sound hc)
  · show pending.answer.leader?.getD a.endpoint = _
    rw [endpoint_call_concat, h.leader, h.endpoint]
  · show pending.answer.count .registering a.wallClock a.counters = _
    rw [Answer.count_of_failure hacc, h.leader, h.counters, Timings.redirects_concat,
      List.length_append]
    cases step.leader? p.limit <;> rfl
  · rw [Event.calls_noticed, Event.calls_completed, h.calls, inits_concat]

theorem During.agree {pending : Pending} {a : Agent Script}
    (h : p.During p.failing p.accepting pending a) (run : Agent.Reaches p.fresh a)
    (live : a.state ≠ .stopped) (due : a.now = pending.due) (notices : List Notice) :
    p.Joined (a.answered .registering pending notices) := by
  have hacc : pending.answer.accepts = true := h.accepts.trans p.agrees
  have hphase := run.phased (Agent.phased_new _ _ _ _ _) (Agent.coherent_new _ _ _ _ _)
  have hreg : Event.registrationCount a.history = 0 :=
    hphase.early (by rw [h.task]; exact Nat.le_refl _)
  refine ⟨due.trans h.due, ?_, Agent.taskAfter_of_accepts hacc live, ?_, ?_, ?_⟩
  · exact if_pos ⟨rfl, hacc, live⟩
  · show pending.answer.leader?.getD a.endpoint = _
    rw [Answer.leader?_of_accepts hacc, h.endpoint]
    rfl
  · show pending.answer.count .registering a.wallClock a.counters = _
    rw [Answer.count, if_pos hacc, h.counters]
    rfl
  · rw [Event.calls_noticed, Event.calls_completed]
    exact List.eq_nil_of_length_eq_zero ((Event.length_calls _ _).trans (hphase.unbeaten hreg))

/-! ## Members -/

/-- A member that is not stopped remains one. -/
theorem Member.change {a b : Agent Script} (h : p.Member a) (run : Agent.Reaches p.fresh a)
    (move : Agent.Move a b) (live : b.state ≠ .stopped) : p.Member b := by
  obtain ⟨m, hm, hma, hjoined⟩ := h.joined
  have joined : ∃ m, Agent.Reaches p.started m ∧ Agent.Reaches m b ∧ p.Joined m :=
    ⟨m, hm, hma.tail move, hjoined⟩
  have hstage := h.stage
  cases move.change with
  | start absent =>
    rw [absent] at hstage
    cases hstage
  | stop => exact absurd rfl live
  | again => exact h
  | pass => exact ⟨h.stage, h.calls, joined, h.unanswered⟩
  | step taken =>
    cases taken with
    | enter ready =>
      rw [ready] at hstage
      cases hstage
    | @call loop turn =>
      rw [turn] at hstage
      cases loop with
      | registering => cases hstage
      | beating missed =>
        refine ⟨rfl, ?_, joined, fun unanswered => h.unanswered fun time call answer hc => ?_⟩
        · rw [Event.calls_noticed, Event.calls_called, Agent.nextCall_isRegister]
          exact (List.append_nil _).trans h.calls
        · exact unanswered time call answer (List.mem_append_right _ (List.mem_cons_of_mem _ hc))
    | @answer loop pending notices calling =>
      have hreq := ((coherent_of_reaches run).inFlight _ _ calling).request
      rw [calling] at hstage
      cases loop with
      | registering => cases hstage
      | beating missed =>
        refine ⟨rfl, ?_, joined, fun unanswered => ?_⟩
        · rw [Event.calls_noticed, Event.calls_completed]
          exact h.calls
        · have hr := unanswered a.now pending.call pending.answer
            (List.mem_append_right _ List.mem_cons_self)
          cases hr.symm.trans hreq
    | wake waiting =>
      rw [waiting] at hstage
      exact ⟨hstage, h.calls, joined, h.unanswered⟩
    | leave _ _ stopped => exact absurd stopped live

/-! ## The whole plan -/

theorem Between.change {done left : List Step} {a b : Agent Script} (h : p.Between done a)
    (run : Agent.Reaches p.fresh a) (split : p.failing = done ++ left)
    (hc : Agent.Change a b) (live : b.state ≠ .stopped) : p.OnSchedule b := by
  cases hc with
  | start absent =>
    rcases h.task with ⟨ht | ht, _⟩ | ⟨ht, _⟩ <;> cases ht.symm.trans absent
  | stop => exact absurd rfl live
  | again => exact .between done left split h
  | pass blocked later inTime =>
    rcases h.task with ⟨ht | ht, _⟩ | ⟨ht, _⟩
    · simp [Agent.step?, ht] at blocked
    · simp [Agent.step?, ht] at blocked
    · have hle := inTime (p.call done).time (by simp [Agent.nextDue, ht])
      exact .between done left split ⟨.inr ⟨ht, hle⟩, h.endpoint, h.counters, h.calls⟩
  | step taken =>
    cases taken with
    | enter ready =>
      rcases h.task with ⟨_, hnow⟩ | ⟨ht, _⟩
      · exact .between done left split ⟨.inl ⟨.inr rfl, hnow⟩, h.endpoint, h.counters, h.calls⟩
      · cases ht.symm.trans ready
    | @call loop turn =>
      have hloop : loop = .registering := by
        rcases h.task with ⟨ht | ht, _⟩ | ⟨ht, _⟩ <;> cases ht.symm.trans turn
        rfl
      subst hloop
      cases left with
      | nil =>
        have split' : p.failing ++ [p.accepting] = done ++ p.accepting :: [] := by rw [split]; simp
        exact .during done _ _ split' _ (h.call run split' turn)
      | cons step left =>
        have split' : p.failing ++ [p.accepting] = done ++ step :: (left ++ [p.accepting]) := by
          rw [split]; simp
        exact .during done _ _ split' _ (h.call run split' turn)
    | answer _ calling =>
      rcases h.task with ⟨ht | ht, _⟩ | ⟨ht, _⟩ <;> cases ht.symm.trans calling
    | wake waiting _ due =>
      rcases h.task with ⟨ht | ht, _⟩ | ⟨ht, hle⟩ <;> cases ht.symm.trans waiting
      exact .between done left split
        ⟨.inl ⟨.inr rfl, Nat.le_antisymm hle due⟩, h.endpoint, h.counters, h.calls⟩
    | leave _ _ stopped => exact absurd stopped live

theorem During.change {done left : List Step} {step : Step} {pending : Pending}
    {a b : Agent Script} (h : p.During done step pending a) (run : Agent.Reaches p.started a)
    (fresh : Agent.Reaches p.fresh a) (split : p.failing ++ [p.accepting] = done ++ step :: left)
    (move : Agent.Move a b) (live : b.state ≠ .stopped) : p.OnSchedule b := by
  cases move.change with
  | start absent => cases h.task.symm.trans absent
  | stop => exact absurd rfl live
  | again => exact .during done step left split pending h
  | pass =>
    exact .during done step left split pending
      ⟨h.task, h.due, h.leader, h.accepts, h.sound, h.endpoint, h.counters, h.calls⟩
  | step taken =>
    cases taken with
    | enter ready => cases h.task.symm.trans ready
    | call turn => cases h.task.symm.trans turn
    | wake waiting => cases h.task.symm.trans waiting
    | leave _ _ stopped => exact absurd stopped live
    | answer notices calling due =>
      cases h.task.symm.trans calling
      have hnow : a.now = pending.due :=
        Nat.le_antisymm ((coherent_of_reaches fresh).inFlight _ _ h.task).now_le_due due
      rcases List.eq_nil_or_concat' left with hleft | ⟨front, last, hleft⟩
      · -- No step is left, so this is the one that agrees.
        rw [hleft] at split
        obtain ⟨hdone, hstep⟩ := List.append_inj' split rfl
        cases hdone
        cases hstep
        have hstate : a.state ≠ .stopped := fun hs =>
          live ((Agent.Reaches.single move).state_stopped hs)
        have hj := h.agree fresh hstate hnow notices
        refine .member ⟨congrArg Task.stage hj.task, ?_, ⟨_, run.tail move, Agent.Reaches.refl _, hj⟩,
          fun _ => ⟨hj.endpoint, hj.counters⟩⟩
        rw [Event.calls_noticed, Event.calls_completed]
        exact h.calls
      · rw [hleft, ← List.cons_append, ← List.append_assoc] at split
        obtain ⟨hfailing, _⟩ := List.append_inj' split rfl
        obtain ⟨ha, hc⟩ := p.fails step (by simp [hfailing])
        exact .between (done ++ [step]) front (by simp [hfailing]) (h.fail fresh ha hc hnow notices)

/-- An agent that was started and not stopped is on schedule. -/
theorem onSchedule_of_reaches (started : Agent.Reaches p.fresh p.started) {a : Agent Script}
    (run : Agent.Reaches p.started a) : a.state = .stopped ∨ p.OnSchedule a := by
  refine run.keeps (.inr (.between [] p.failing rfl between_started)) fun {b c} hb move ih => ?_
  by_cases live : c.state = .stopped
  · exact .inl live
  · have hstate : b.state ≠ .stopped := fun hs =>
      live ((Agent.Reaches.single move).state_stopped hs)
    right
    cases ih.resolve_left hstate with
    | between done left split h => exact h.change (started.trans hb) split move.change live
    | during done step left split pending h =>
      exact h.change hb (started.trans hb) split move live
    | member h => exact .member (h.change (started.trans hb) move live)

end Plan
end ClusterMember
