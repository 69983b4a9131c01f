import ClusterMember.Proofs.Agent.Move

/-! # The history of a run

The history of an agent tells which calls it made, and how and when each of them ended.

* `Event.time`: when something happened.
* `Event.outstanding`: the call that a history leaves unanswered.
* `Event.calls`, `Event.callCount`: the calls of a kind, and how many they are.
* `Event.Accounted`: every call but one that may be outstanding came to its end.
* `Agent.InFlight`, `Agent.Coherent`: the task, the clock and the history tell the same story.
* `Agent.Reaches.coherent`, `Agent.Reaches.accounted`: they do so along every run.
* `Agent.Reaches.moment`: the moment at which a call was made or answered, found again from the
  history.
-/

namespace ClusterMember
set_option autoImplicit false

namespace Event

def time : Event → Nat
  | called call => call.time
  | completed time _ _ => time
  | noticed time _ => time

/-- The call that was made last, unless it was answered since, and what happened before it. -/
def outstanding : List Event → Option (Call × List Event)
  | [] => none
  | called call :: earlier => some (call, earlier)
  | completed .. :: _ => none
  | noticed .. :: earlier => outstanding earlier

@[simp] theorem outstanding_noticed (time : Nat) (notices : List Notice) (earlier : List Event) :
    outstanding (notices.map (noticed time) ++ earlier) = outstanding earlier := by
  induction notices with
  | nil => rfl
  | cons notice rest ih => exact ih

def isCall (register : Bool) : Event → Bool
  | called call => call.request.isRegister == register
  | completed .. | noticed .. => false

def callCount (register : Bool) (history : List Event) : Nat := history.countP (isCall register)

@[simp] theorem callCount_noticed (register : Bool) (time : Nat) (notices : List Notice)
    (earlier : List Event) :
    callCount register (notices.map (noticed time) ++ earlier) = callCount register earlier := by
  induction notices with
  | nil => rfl
  | cons notice rest ih => exact ih

theorem callCount_called (register : Bool) (call : Call) (earlier : List Event) :
    callCount register (called call :: earlier) =
      callCount register earlier + if call.request.isRegister = register then 1 else 0 := by
  simp [callCount, List.countP_cons, isCall]

theorem filterMap_call?_noticed (time : Nat) (notices : List Notice) (earlier : List Event) :
    (notices.map (noticed time) ++ earlier).filterMap call? = earlier.filterMap call? := by
  induction notices with
  | nil => rfl
  | cons notice rest ih => exact ih

/-- The calls of a kind, the earliest first. -/
def calls (register : Bool) (history : List Event) : List Call :=
  (history.filterMap call?).reverse.filter (·.request.isRegister == register)

@[simp] theorem calls_noticed (register : Bool) (time : Nat) (notices : List Notice)
    (earlier : List Event) :
    calls register (notices.map (noticed time) ++ earlier) = calls register earlier := by
  rw [calls, filterMap_call?_noticed, calls]

@[simp] theorem calls_completed (register : Bool) (time : Nat) (call : Call) (answer : Answer)
    (earlier : List Event) :
    calls register (completed time call answer :: earlier) = calls register earlier := rfl

theorem calls_called (register : Bool) (call : Call) (earlier : List Event) :
    calls register (called call :: earlier) =
      calls register earlier ++ if call.request.isRegister = register then [call] else [] := by
  simp [calls, call?, List.filter_cons]

theorem length_calls (register : Bool) (history : List Event) :
    (calls register history).length = callCount register history := by
  induction history with
  | nil => rfl
  | cons e earlier ih =>
    cases e with
    | called call =>
      rw [calls_called, callCount_called, List.length_append, ih]
      split <;> rfl
    | completed => exact ih
    | noticed => exact ih

theorem mem_calls {register : Bool} {call : Call} {history : List Event}
    (h : call ∈ calls register history) : called call ∈ history := by
  have hm := (List.mem_filter.1 h).1
  obtain ⟨e, he, hcall⟩ := List.mem_filterMap.1 (List.mem_reverse.1 hm)
  cases e with
  | called => cases hcall; exact he
  | completed => cases hcall
  | noticed => cases hcall

/-- What was noted down last hides no call and no answer. -/
theorem suffix_of_suffix_noticed {e : Event} {time : Nat} (notices : List Notice)
    {earlier rest : List Event} (he : e.notice? = none)
    (h : e :: earlier <:+ notices.map (noticed time) ++ rest) : e :: earlier <:+ rest := by
  induction notices with
  | nil => exact h
  | cons notice notices ih =>
    rcases List.suffix_cons_iff.1 h with heq | h
    · rw [(List.cons.inj heq).1] at he
      cases he
    · exact ih h

/-! ## Calls and their ends -/

/-- A history in which every call came to its end, but for one that may be outstanding. The end of a
call stands where the call was outstanding. -/
def Accounted (history : List Event) : Prop :=
  ∀ call earlier, called call :: earlier <:+ history →
    outstanding history = some (call, earlier) ∨
      ∃ time answer past, completed time call answer :: past <:+ history ∧
        outstanding past = some (call, earlier)

theorem accounted_nil : Accounted [] := fun _ _ hs => absurd (List.suffix_nil.1 hs) (by simp)

theorem Accounted.noticed {history : List Event} (h : Accounted history) (time : Nat)
    (notices : List Notice) : Accounted (notices.map (noticed time) ++ history) := by
  intro call earlier hs
  rw [outstanding_noticed]
  rcases h call earlier (suffix_of_suffix_noticed notices rfl hs) with now | ended
  · exact .inl now
  · obtain ⟨at', answer, past, hend, hpast⟩ := ended
    exact .inr ⟨at', answer, past, hend.trans (List.suffix_append _ _), hpast⟩

/-- A call is made only when none is outstanding, so that all before it came to their ends. -/
theorem Accounted.called {history : List Event} (h : Accounted history)
    (idle : outstanding history = none) (call : Call) : Accounted (called call :: history) := by
  intro call' earlier hs
  rcases List.suffix_cons_iff.1 hs with heq | hs
  · cases heq
    exact .inl rfl
  · rcases h call' earlier hs with now | ended
    · rw [idle] at now
      cases now
    · obtain ⟨time, answer, past, hend, hpast⟩ := ended
      exact .inr ⟨time, answer, past, hend.trans (List.suffix_cons _ _), hpast⟩

theorem Accounted.completed {history before : List Event} {call : Call} (h : Accounted history)
    (current : outstanding history = some (call, before)) (time : Nat) (answer : Answer) :
    Accounted (completed time call answer :: history) := by
  intro call' earlier hs
  rcases List.suffix_cons_iff.1 hs with heq | hs
  · cases heq
  · rcases h call' earlier hs with now | ended
    · cases current.symm.trans now
      exact .inr ⟨time, answer, history, List.suffix_refl _, current⟩
    · obtain ⟨at', answer', past, hend, hpast⟩ := ended
      exact .inr ⟨at', answer', past, hend.trans (List.suffix_cons _ _), hpast⟩

end Event

namespace Agent
variable {σ : Type} [ControlPlane σ]

/-! ## The task, the clock and the history -/

structure InFlight (loop : Loop) (pending : Pending) (a : Agent σ) : Prop where
  outstanding : ∃ earlier, Event.outstanding a.history = some (pending.call, earlier)
  made : pending.call.time ≤ a.now
  now_le_due : a.now ≤ pending.due
  due_le : pending.due ≤ pending.call.time + pending.call.limit.millis
  limit : pending.call.limit = a.timings.limit loop
  request : pending.call.request.isRegister = loop.isRegistering

/-- The task, the clock and the history tell the same story. -/
structure Coherent (a : Agent σ) : Prop where
  past : ∀ e ∈ a.history, e.time ≤ a.now
  inFlight : ∀ loop pending, a.task = .calling loop pending → a.InFlight loop pending
  idle : (∀ loop pending, a.task ≠ .calling loop pending) → Event.outstanding a.history = none

omit [ControlPlane σ] in
theorem nextCall_limit (loop : Loop) (a : Agent σ) :
    (a.nextCall loop).limit = a.timings.limit loop := by
  cases loop <;> rfl

omit [ControlPlane σ] in
theorem nextCall_isRegister (loop : Loop) (a : Agent σ) :
    (a.nextCall loop).request.isRegister = loop.isRegistering := by
  cases loop <;> rfl

omit [ControlPlane σ] in
theorem nextCall_time (loop : Loop) (a : Agent σ) : (a.nextCall loop).time = a.now := by
  cases loop <;> rfl

omit [ControlPlane σ] in
theorem nextCall_endpoint (loop : Loop) (a : Agent σ) :
    (a.nextCall loop).endpoint = a.endpoint := by
  cases loop <;> rfl

theorem placed_due_le (loop : Loop) (a : Agent σ) :
    (a.placed loop).due ≤ a.now + (a.nextCall loop).limit.millis :=
  Nat.add_le_add_left (Handling.result_fst_le _ _) _

omit [ControlPlane σ] in
theorem taskAfter_ne_calling (loop : Loop) (answer : Answer) (a : Agent σ) (loop' : Loop)
    (pending : Pending) : a.taskAfter loop answer ≠ .calling loop' pending := by
  unfold taskAfter
  split
  · split
    · split <;> exact Task.noConfusion
    · split
      · exact Task.noConfusion
      · split <;> exact Task.noConfusion
  · exact Task.noConfusion

omit [ControlPlane σ] in
theorem past_noticed {now : Nat} (notices : List Notice) {history : List Event}
    (h : ∀ e ∈ history, e.time ≤ now) :
    ∀ e ∈ notices.map (Event.noticed now) ++ history, e.time ≤ now := by
  intro e he
  rcases List.mem_append.1 he with he | he
  · obtain ⟨notice, _, rfl⟩ := List.mem_map.1 he
    exact Nat.le_refl _
  · exact h e he

omit [ControlPlane σ] in
theorem coherent_new (identity : Identity) (timings : Timings) (epoch : Int) (plane : σ)
    (endpoint : String) : (new identity timings epoch plane endpoint).Coherent where
  past := by simp [new]
  inFlight := by simp [new]
  idle := fun _ => rfl

theorem Coherent.stride {a b : Agent σ} (h : a.Coherent) (hs : Stride a b) : b.Coherent := by
  cases hs with
  | enter ready =>
    exact ⟨past_noticed [_] h.past, by simp, fun _ => h.idle (by simp [ready])⟩
  | @call loop turn =>
    refine ⟨?_, ?_, ?_⟩
    · refine past_noticed _ fun e he => ?_
      rcases List.mem_cons.1 he with rfl | he
      · exact Nat.le_of_eq (nextCall_time loop a)
      · exact h.past e he
    · intro loop' pending calling
      cases calling
      refine ⟨⟨a.history, ?_⟩, Nat.le_of_eq (nextCall_time loop a), Nat.le_add_right _ _, ?_, ?_, ?_⟩
      · rw [Event.outstanding_noticed]
        rfl
      · show (a.placed loop).due ≤ (a.nextCall loop).time + (a.nextCall loop).limit.millis
        rw [nextCall_time]
        exact placed_due_le loop a
      · exact nextCall_limit loop a
      · exact nextCall_isRegister loop a
    · intro calling
      exact absurd rfl (calling loop (a.placed loop))
  | answer =>
    refine ⟨?_, ?_, ?_⟩
    · refine past_noticed _ fun e he => ?_
      rcases List.mem_cons.1 he with rfl | he
      · exact Nat.le_refl _
      · exact h.past e he
    · intro loop' pending' calling
      exact absurd calling (taskAfter_ne_calling _ _ _ _ _)
    · intro _
      rw [Event.outstanding_noticed]
      rfl
  | wake waiting =>
    exact ⟨h.past, by simp, fun _ => h.idle (by simp [waiting])⟩
  | leave notices between =>
    refine ⟨past_noticed _ h.past, by simp, fun _ => ?_⟩
    rw [Event.outstanding_noticed]
    refine h.idle fun loop pending calling => ?_
    rw [calling] at between
    cases between

theorem Coherent.change {a b : Agent σ} (h : a.Coherent) (hc : Change a b) : b.Coherent := by
  cases hc with
  | start absent =>
    exact ⟨h.past, by simp, fun _ => h.idle (by simp [absent])⟩
  | stop =>
    refine ⟨past_noticed [_] h.past, ?_, h.idle⟩
    intro loop pending calling
    obtain ⟨outstanding, made, now_le_due, due_le, limit, request⟩ := h.inFlight _ _ calling
    exact ⟨outstanding, made, now_le_due, due_le, limit, request⟩
  | again => exact h
  | step taken => exact h.stride taken
  | pass blocked later inTime =>
    refine ⟨fun e he => Nat.le_trans (h.past e he) later, ?_, h.idle⟩
    intro loop pending calling
    obtain ⟨outstanding, made, now_le_due, due_le, limit, request⟩ := h.inFlight _ _ calling
    refine ⟨outstanding, Nat.le_trans made later, inTime _ ?_, due_le, limit, request⟩
    have hc : a.task = .calling loop pending := calling
    simp [nextDue, hc]

theorem Reaches.coherent {a b : Agent σ} (h : Reaches a b) (ha : a.Coherent) : b.Coherent := by
  refine h.keeps ha fun _ hc hb => hb.change hc.change

theorem Reaches.accounted {a b : Agent σ} (h : Reaches a b) (ha : a.Coherent)
    (first : Event.Accounted a.history) : Event.Accounted b.history := by
  refine h.keeps first fun hab hc hb => ?_
  have coherent := hab.coherent ha
  cases hc.change with
  | stop => exact hb.noticed _ [_]
  | step taken =>
    cases taken with
    | enter => exact hb.noticed _ [_]
    | call turn => exact (hb.called (coherent.idle (by simp [turn])) _).noticed _ _
    | answer notices calling =>
      obtain ⟨before, outstanding⟩ := (coherent.inFlight _ _ calling).outstanding
      exact (hb.completed outstanding _ _).noticed _ _
    | wake => exact hb
    | leave notices => exact hb.noticed _ notices
  | _ => exact hb

/-! ## Moments -/

/-- What an agent is about to do when a call is made or answered. -/
def Happens (a : Agent σ) : Event → Prop
  | .called call => ∃ loop, a.task = .turn loop ∧ a.state ≠ .stopped ∧ call = a.nextCall loop
  | .completed time call answer =>
    ∃ loop due, a.task = .calling loop ⟨call, due, answer⟩ ∧ due ≤ a.now ∧ time = a.now
  | .noticed .. => False

/-- The moment at which a call was made or answered. -/
theorem Reaches.moment {a b : Agent σ} (h : Reaches a b) (ha : a.history = []) {e : Event}
    {earlier : List Event} (he : e.notice? = none) (hs : e :: earlier <:+ b.history) :
    ∃ m, Reaches a m ∧ Reaches m b ∧ m.history = earlier ∧ m.Happens e := by
  induction h with
  | refl =>
    rw [ha] at hs
    exact absurd (List.suffix_nil.1 hs) (by simp)
  | @tail b c hab hbc ih =>
    -- Only one move adds the event; any other leaves the moment where it was.
    have old : e :: earlier <:+ b.history →
        ∃ m, Reaches a m ∧ Reaches m c ∧ m.history = earlier ∧ m.Happens e := by
      intro hb
      obtain ⟨m, ham, hmb, rest⟩ := ih hb
      exact ⟨m, ham, hmb.tail hbc, rest⟩
    cases hbc.change with
    | stop => exact old (Event.suffix_of_suffix_noticed [_] he hs)
    | step taken =>
      cases taken with
      | enter => exact old (Event.suffix_of_suffix_noticed [_] he hs)
      | @call loop turn live =>
        rcases List.suffix_cons_iff.1 (Event.suffix_of_suffix_noticed _ he hs) with heq | hb
        · obtain ⟨rfl, rfl⟩ := List.cons.inj heq
          exact ⟨b, hab, Reaches.single hbc, rfl, loop, turn, live, rfl⟩
        · exact old hb
      | @answer loop pending notices calling due =>
        rcases List.suffix_cons_iff.1 (Event.suffix_of_suffix_noticed _ he hs) with heq | hb
        · obtain ⟨rfl, rfl⟩ := List.cons.inj heq
          exact ⟨b, hab, Reaches.single hbc, rfl, loop, pending.due, calling, due, rfl⟩
        · exact old hb
      | wake => exact old hs
      | leave => exact old (Event.suffix_of_suffix_noticed _ he hs)
    | _ => exact old hs

end Agent
end ClusterMember
