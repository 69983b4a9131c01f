import ClusterMember.Proofs.Agent.History
import ClusterMember.Proofs.Agent.Reports
import Mathlib.Data.Option.Basic

/-! # Two agents in lockstep

Two agents may have different names and different control planes, and yet do the same things at the
same times. All that an agent takes from an answer is its effect; so it is enough that the two control
planes answer like calls after the same time and to the same effect.

* `Answer.effect`: what an agent makes of an answer.
* `Agent.Alike`: two agents at the same point.
* `ControlPlane.Mirrors`: two control planes that answer like calls alike.
* `ControlPlane.mirrors_of_result`: such that give the same results.
* `Agent.Alike.step?`: they take like steps.
* `Agent.Alike.after`, `Agent.Alike.session`, `Agent.Alike.runUntil`: they stay alike whatever is
  done to both of them.
-/

namespace ClusterMember
set_option autoImplicit false

/-! ## What an agent makes of an answer -/

/-- What an agent makes of an answer. -/
inductive Effect
  | accepted
  | redirected (leader : String)
  | refused
  | failed
  | crashed (crash : Crash)
deriving DecidableEq

/-- A registration that is refused has failed; a heartbeat during which the client breaks down has
failed, while a registration has then crashed. -/
def Answer.effect (register : Bool) : Answer → Effect
  | reply r =>
    if r.ok then .accepted
    else if r.leaderAddr ≠ "" then .redirected r.leaderAddr
    else if register then .failed
    else .refused
  | fault _ => .failed
  | crash cause => if register then .crashed cause else .failed

namespace Effect

def accepts : Effect → Bool
  | accepted => true
  | redirected _ | refused | failed | crashed _ => false

def leader? : Effect → Option String
  | redirected leader => some leader
  | accepted | refused | failed | crashed _ => none

end Effect

namespace Answer

theorem accepts_eq (register : Bool) (answer : Answer) :
    answer.accepts = (answer.effect register).accepts := by
  cases answer with
  | reply reply =>
    cases hok : reply.ok <;> by_cases hl : reply.leaderAddr = "" <;> cases register <;>
      simp [accepts, effect, hok, hl, Effect.accepts]
  | fault => rfl
  | crash => cases register <;> rfl

theorem leader?_eq (register : Bool) (answer : Answer) :
    answer.leader? = (answer.effect register).leader? := by
  cases answer with
  | reply reply =>
    cases hok : reply.ok <;> by_cases hl : reply.leaderAddr = "" <;> cases register <;>
      simp [leader?, effect, hok, hl, Effect.leader?]
  | fault => rfl
  | crash => cases register <;> rfl

theorem count_eq (loop : Loop) (wallClock : Nat) (answer : Answer) (c : Counters) :
    answer.count loop wallClock c =
      match answer.effect loop.isRegistering, loop with
      | .accepted, .registering => c.countRegistration
      | .accepted, .beating _ => c.countBeat wallClock
      | .redirected _, _ => c.countRedirect
      | .refused, _ => c.countRejectedBeat
      | .failed, .registering => c
      | .failed, .beating _ => c.countFailedBeat
      | .crashed _, _ => c := by
  cases answer with
  | reply reply =>
    cases hok : reply.ok <;> by_cases hl : reply.leaderAddr = "" <;> cases loop <;>
      simp [count, accepts, leader?, effect, hok, hl, Loop.isRegistering]
  | fault => cases loop <;> rfl
  | crash => cases loop <;> rfl

end Answer

theorem Agent.taskAfter_registering {σ : Type} (answer : Answer) (a : Agent σ) :
    a.taskAfter .registering answer =
      match answer.effect true with
      | .accepted => if a.state = .stopped then .finished else .turn (.beating 0)
      | .redirected _ => .turn .registering
      | .crashed cause => .crashed cause
      | .refused | .failed => .waiting .registering (a.now + a.timings.retryDelay.waited) := by
  cases answer with
  | reply reply =>
    cases hok : reply.ok <;> by_cases hl : reply.leaderAddr = "" <;>
      simp [taskAfter, Answer.accepts, Answer.leader?, Answer.effect, hok, hl]
  | fault => rfl
  | crash => rfl

/-! ## What is seen of a call -/

section Views
variable {κ σ τ : Type}

/-- A call, with the request in it seen through `view`. -/
def Call.seen (view : Request → κ) (call : Call) : Nat × String × Duration × κ :=
  (call.time, call.endpoint, call.limit, view call.request)

theorem Call.seen_id_injective : Function.Injective (Call.seen id) := by
  rintro ⟨time, endpoint, request, limit⟩ ⟨time', endpoint', request', limit'⟩ h
  simp only [Call.seen, id_eq, Prod.mk.injEq] at h
  obtain ⟨rfl, rfl, rfl, rfl⟩ := h
  rfl

/-- What a worker asks for in each of its loops. -/
def Identity.asks (identity : Identity) : Loop → Request
  | .registering => .register identity.workerId identity.address identity.cloudTag
  | .beating _ => .heartbeat identity.workerId

/-- What a report tells apart from names and words: the calls in it are seen through `view`. -/
structure Report.Outline (κ : Type) where
  time : Nat
  state : Lifecycle
  endpoint : String
  counters : Counters
  task : TaskStatus
  calls : List (Nat × String × Duration × κ)

def Report.outline (view : Request → κ) (report : Report) : Report.Outline κ where
  time := report.time
  state := report.standing.state
  endpoint := report.standing.endpoint
  counters := report.standing.counters
  task := report.task
  calls := report.calls.map (Call.seen view)

/-! ## Two agents at the same point -/

/-- Two tasks at the same point; calls in flight end at the same time and to the same effect. -/
inductive Task.Alike : Task → Task → Prop
  | same (task : Task) : Alike task task
  | calling (loop : Loop) {p q : Pending} (due : p.due = q.due)
      (effect : p.answer.effect loop.isRegistering = q.answer.effect loop.isRegistering) :
      Alike (.calling loop p) (.calling loop q)

namespace Agent

/-- Two agents at the same point, after like calls. -/
structure Alike (view : Request → κ) (R : σ → τ → Prop) (a : Agent σ) (b : Agent τ) : Prop where
  timings : a.timings = b.timings
  epoch : a.epoch = b.epoch
  now : a.now = b.now
  endpoint : a.endpoint = b.endpoint
  state : a.state = b.state
  counters : a.counters = b.counters
  asks : ∀ loop, view (a.identity.asks loop) = view (b.identity.asks loop)
  task : a.task.Alike b.task
  plane : R a.plane b.plane
  calls : (a.history.filterMap Event.call?).map (Call.seen view) =
    (b.history.filterMap Event.call?).map (Call.seen view)

namespace Alike
variable {view : Request → κ} {R : σ → τ → Prop} {a : Agent σ} {b : Agent τ}

theorem nextCall (h : a.Alike view R b) (loop : Loop) :
    (a.nextCall loop).seen view = (b.nextCall loop).seen view := by
  have hask := h.asks loop
  cases loop <;>
    simpa [Call.seen, Agent.nextCall, h.now, h.endpoint, h.timings, Identity.asks] using hask

theorem begin (h : a.Alike view R b) : a.begin.Alike view R b.begin := by
  unfold Agent.begin
  rw [h.state]
  split
  · exact { h with state := rfl, task := .same _ }
  · exact { h with state := rfl, task := .same _, calls := h.calls }

theorem leave (h : a.Alike view R b) (loop : Loop) :
    (a.leave loop).Alike view R (b.leave loop) := by
  cases loop with
  | registering => exact { h with task := .same _ }
  | beating missed => exact { h with task := .same _, calls := h.calls }

/-- Answers to the same effect leave two agents alike. -/
theorem complete (h : a.Alike view R b) {loop : Loop} {p q : Pending}
    (effect : p.answer.effect loop.isRegistering = q.answer.effect loop.isRegistering) :
    (a.complete loop p).Alike view R (b.complete loop q) := by
  have haccepts : p.answer.accepts = q.answer.accepts := by
    rw [Answer.accepts_eq loop.isRegistering, effect, ← Answer.accepts_eq]
  have hleader : p.answer.leader? = q.answer.leader? := by
    rw [Answer.leader?_eq loop.isRegistering, effect, ← Answer.leader?_eq]
  have hclock : a.wallClock = b.wallClock := by
    unfold wallClock
    rw [h.epoch, h.now]
  have htask : a.taskAfter loop p.answer = b.taskAfter loop q.answer := by
    cases loop with
    | registering =>
      have heffect : p.answer.effect true = q.answer.effect true := effect
      rw [taskAfter_registering, taskAfter_registering, heffect, h.state, h.now, h.timings]
    | beating missed =>
      simp only [taskAfter, Answer.missed, haccepts, hleader, h.now, h.timings]
  obtain ⟨_, ha⟩ := complete_eq loop p a
  obtain ⟨_, hb⟩ := complete_eq loop q b
  rw [ha, hb]
  refine { h with endpoint := ?_, state := ?_, counters := ?_, task := ?_, calls := ?_ }
  · simp only [hleader, h.endpoint]
  · simp only [stateAfter, haccepts, h.state]
  · simp only [Answer.count_eq, effect, hclock, h.counters]
  · show (a.taskAfter loop p.answer).Alike (b.taskAfter loop q.answer)
    rw [htask]
    exact .same _
  · rw [Event.filterMap_call?_noticed, Event.filterMap_call?_noticed]
    exact h.calls

theorem pass (h : a.Alike view R b) (time : Nat) :
    { a with now := time }.Alike view R { b with now := time } := { h with now := rfl }

theorem nextDue (h : a.Alike view R b) : a.nextDue = b.nextDue := by
  have htask := h.task
  unfold Agent.nextDue
  generalize a.task = s at htask ⊢
  generalize b.task = t at htask ⊢
  cases htask with
  | same => rfl
  | calling loop due => exact congrArg some due

theorem status (h : a.Alike view R b) : a.task.status = b.task.status := by
  have htask := h.task
  generalize a.task = s at htask ⊢
  generalize b.task = t at htask ⊢
  cases htask <;> rfl

theorem report (h : a.Alike view R b) {a' : Agent σ} {b' : Agent τ} (later : a'.Alike view R b')
    (ha : a.history <:+ a'.history) (hb : b.history <:+ b'.history) (outcome outcome' : Outcome) :
    (a.report outcome a').outline view = (b.report outcome' b').outline view := by
  have hcalls : (a.report outcome a').calls.map (Call.seen view) =
      (b.report outcome' b').calls.map (Call.seen view) := by
    obtain ⟨events, he⟩ := ha
    obtain ⟨events', he'⟩ := hb
    have hlater := later.calls
    rw [← he, ← he', List.filterMap_append, List.filterMap_append, List.map_append,
      List.map_append, h.calls] at hlater
    have hnew := List.append_cancel_right hlater
    simp only [Agent.report, eventsSince_of_append he.symm, eventsSince_of_append he'.symm,
      List.filterMap_reverse, List.map_reverse, hnew]
  simp only [Report.outline, hcalls]
  simp only [Agent.report, standing, later.now, later.state, later.endpoint, later.counters,
    later.status]

end Alike
end Agent

/-! ## Like calls, like answers -/

variable [ControlPlane σ] [ControlPlane τ]

/-- Two control planes that answer like calls after the same time and to the same effect. -/
structure ControlPlane.Mirrors (view : Request → κ) (R : σ → τ → Prop) : Prop where
  unread : ∀ {p : σ} {q : τ}, R p q → ControlPlane.unread p = ControlPlane.unread q
  handle : ∀ {p : σ} {q : τ} {c d : Call}, R p q → c.seen view = d.seen view →
    let x := ControlPlane.handle c p
    let y := ControlPlane.handle d q
    R x.2 y.2 ∧ (x.1.result c).1 = (y.1.result d).1 ∧
      (x.1.result c).2.effect c.request.isRegister = (y.1.result d).2.effect c.request.isRegister

/-- Control planes that give the same result for the same call. -/
theorem ControlPlane.mirrors_of_result {R : σ → τ → Prop}
    (unread : ∀ {p : σ} {q : τ}, R p q → ControlPlane.unread p = ControlPlane.unread q)
    (handle : ∀ {p : σ} {q : τ} (call : Call), R p q →
      (ControlPlane.handle call p).1.result call = (ControlPlane.handle call q).1.result call ∧
        R (ControlPlane.handle call p).2 (ControlPlane.handle call q).2) :
    ControlPlane.Mirrors id R where
  unread := unread
  handle := fun {p q call call'} h seen => by
    cases Call.seen_id_injective seen
    obtain ⟨hresult, hafter⟩ := handle call h
    have hspan := congrArg Prod.fst hresult
    have heffect := congrArg (fun result => result.2.effect call.request.isRegister) hresult
    exact ⟨hafter, hspan, heffect⟩

namespace Agent.Alike
variable {view : Request → κ} {R : σ → τ → Prop} {a : Agent σ} {b : Agent τ}

theorem called (h : a.Alike view R b) (m : ControlPlane.Mirrors view R) (loop : Loop) :
    (a.called loop).Alike view R (b.called loop) := by
  have hcall := h.nextCall loop
  obtain ⟨hplane, hspan, heffect⟩ := m.handle h.plane hcall
  rw [nextCall_isRegister] at heffect
  refine { h with plane := hplane, counters := ?_, task := ?_, calls := ?_ }
  · simp only [h.counters]
  · refine .calling loop ?_ heffect
    simp only [placed, h.now, hspan]
  · rw [Event.filterMap_call?_noticed, Event.filterMap_call?_noticed]
    simpa [Event.call?, hcall] using h.calls

/-- Two agents in lockstep: if one of them takes a step, so does the other, and both are again at the
same point. -/
theorem step? (h : a.Alike view R b) (m : ControlPlane.Mirrors view R) :
    Option.Rel (Alike view R) a.step? b.step? := by
  have htask := h.task
  unfold Agent.step?
  generalize hta : a.task = s at htask ⊢
  generalize htb : b.task = t at htask ⊢
  cases htask with
  | calling loop due effect =>
    simp only [due, h.now]
    split
    · exact .some (h.complete effect)
    · exact .none
  | same =>
    cases s with
    | absent => exact .none
    | finished => exact .none
    | crashed => exact .none
    | ready => exact .some h.begin
    | turn loop =>
      simp only [h.state]
      split
      · exact .some (h.leave loop)
      · rw [placeCall_eq, placeCall_eq]
        exact .some (h.called m loop)
    | calling loop pending =>
      simp only [h.now]
      split
      · exact .some (h.complete rfl)
      · exact .none
    | waiting loop wake =>
      simp only [h.state, h.now]
      split
      · exact .some (h.leave loop)
      · split
        · exact .some { h with now := rfl, state := rfl, task := .same _ }
        · exact .none

/-! ## Runs -/

theorem steps (h : a.Alike view R b) (m : ControlPlane.Mirrors view R) (n : Nat) :
    (a.steps n).Alike view R (b.steps n) := by
  induction n generalizing a b with
  | zero => exact h
  | succ n ih =>
    have hstep := h.step? m
    simp only [Agent.steps]
    generalize a.step? = s at hstep ⊢
    generalize b.step? = t at hstep ⊢
    cases hstep with
    | none => exact h
    | some later => exact ih later

theorem settle (h : a.Alike view R b) (m : ControlPlane.Mirrors view R) :
    a.settle.Alike view R b.settle := by
  -- Both may take as many steps, for both have as many answers left that were laid down.
  have hstamina : a.stamina = b.stamina := by
    unfold stamina
    rw [m.unread h.plane]
  unfold Agent.settle
  rw [hstamina]
  exact h.steps m _

theorem isSome_step? (h : a.Alike view R b) (m : ControlPlane.Mirrors view R) :
    a.step?.isSome = b.step?.isSome := by
  have hstep := h.step? m
  generalize a.step? = s at hstep ⊢
  generalize b.step? = t at hstep ⊢
  cases hstep <;> rfl

theorem advanceTo (h : a.Alike view R b) (m : ControlPlane.Mirrors view R) (target : Nat) :
    (a.advanceTo target).Alike view R (b.advanceTo target) := by
  -- The run of `b` takes the branch that the run of `a` takes.
  fun_induction Agent.advanceTo target a generalizing b with
  | case1 a awake =>
    have hb := h.settle m
    rw [hb.isSome_step? m] at awake
    rw [Agent.advanceTo, if_pos awake]
    exact hb
  | case2 a awake due =>
    have hb := h.settle m
    rw [hb.isSome_step? m] at awake
    rw [hb.nextDue] at due
    rw [Agent.advanceTo, if_neg awake, due]
    exact hb.pass target
  | case3 a awake time due later ih =>
    have hb := h.settle m
    rw [hb.isSome_step? m] at awake
    rw [hb.nextDue] at due
    rw [h.now] at later
    rw [Agent.advanceTo.eq_def target b, if_neg awake, due]
    simp only [later, and_self, dite_true]
    exact ih (hb.pass time)
  | case4 a awake time due later =>
    have hb := h.settle m
    rw [hb.isSome_step? m] at awake
    rw [hb.nextDue] at due
    rw [h.now] at later
    rw [Agent.advanceTo, if_neg awake, due]
    simp only [later, dite_false]
    exact hb.pass target

theorem runUntil (h : a.Alike view R b) (m : ControlPlane.Mirrors view R) {p : Agent σ → Bool}
    {q : Agent τ → Bool} (same : ∀ {a : Agent σ} {b : Agent τ}, a.Alike view R b → p a = q b)
    (moments : Nat) : (a.runUntil p moments).Alike view R (b.runUntil q moments) := by
  induction moments generalizing a b with
  | zero => exact h.settle m
  | succ moments ih =>
    have hb := h.settle m
    simp only [Agent.runUntil, same hb, hb.nextDue, h.now]
    split
    · exact hb
    · split
      · exact hb
      · exact ih (hb.pass _)

/-! ## Sessions -/

theorem act (h : a.Alike view R b) (m : ControlPlane.Mirrors view R) (action : Action) :
    (a.act action).2.Alike view R (b.act action).2 := by
  cases action with
  | start =>
    have htask := h.task
    by_cases absent : a.task = .absent
    · have absent' : b.task = .absent := by
        rw [absent] at htask
        generalize b.task = t at htask ⊢
        cases htask
        rfl
      simp only [Agent.act, start?_of_absent absent, start?_of_absent absent']
      exact { h with task := .same _ }
    · have started' : b.task ≠ .absent := by
        intro absent'
        rw [absent'] at htask
        generalize a.task = s at htask absent
        cases htask
        exact absent rfl
      simp only [Agent.act, start?_of_started absent, start?_of_started started']
      exact h
  | stop =>
    simp only [Agent.act, Agent.stop, h.state]
    split
    · exact h
    · exact { h with state := rfl, calls := h.calls }
  | advance millis =>
    simp only [Agent.act, Agent.advance, h.now]
    exact h.advanceTo m _
  | http => exact h
  | snapshot => exact h

theorem perform (h : a.Alike view R b) (m : ControlPlane.Mirrors view R) (command : Command) :
    (a.perform command).2.Alike view R (b.perform command).2 := by
  simp only [Agent.perform]
  split
  · exact (h.act m command.action).settle m
  · exact h.act m command.action

theorem after (h : a.Alike view R b) (m : ControlPlane.Mirrors view R) (commands : List Command) :
    (a.after commands).Alike view R (b.after commands) := by
  induction commands generalizing a b with
  | nil => exact h
  | cons command rest ih => exact ih (h.perform m command)

theorem session (h : a.Alike view R b) (m : ControlPlane.Mirrors view R)
    (commands : List Command) :
    (a.session commands).map (Report.outline view) =
      (b.session commands).map (Report.outline view) := by
  induction commands generalizing a b with
  | nil => rfl
  | cons command rest ih =>
    have hnext := h.perform m command
    have ha := (reaches_perform command a).history_suffix
    have hb := (reaches_perform command b).history_suffix
    rw [session_cons, session_cons, List.map_cons, List.map_cons, ih hnext,
      h.report hnext ha hb]

end Agent.Alike
end Views
end ClusterMember
