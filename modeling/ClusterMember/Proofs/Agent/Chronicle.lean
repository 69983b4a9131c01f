import ClusterMember.Agent.Script
import ClusterMember.Proofs.Agent.History

/-! # What a history looks like

Log lines are written in more than ten places of two loops. Which lines a history can hold, and in
which order, is described here once: right after the end of a call stands what is noted down of its
answer, and all other lines tell of no answer.

* `Event.missed`: how many heartbeats in a row were missed, read off a history.
* `Notice.isAside`, `Event.Chronicle`: lines that tell of no answer, and histories so described.
* `Event.Line`, `Event.Chronicle.block`, `Event.Chronicle.line`: what stands after the end of a call,
  and what stands before a line.
* `Agent.Writes`: what a step of the task adds to a history.
* `Agent.OnRecord`: what a task remembers of missed heartbeats can be read off its history.
* `Agent.Reaches.chronicle`: every run has such a history.
-/

namespace ClusterMember
set_option autoImplicit false

/-- Whether a line tells of no answer. -/
def Notice.isAside : Notice → Bool
  | starting .. | beatsStarted .. | beatsEnded | stopped .. | connected .. => true
  | registered .. | registrationRedirected .. | retrying .. | beatAccepted .. | recovered ..
  | beatRedirected .. | nextBeat .. | beatRejected .. | beatFailed .. | beatCrashed ..
  | stillMissing .. => false

def Loop.missed : Loop → Nat
  | registering => 0
  | beating missed => missed

/-- How many heartbeats in a row a task has missed, as long as it is not over. -/
def Task.missed? : Task → Option Nat
  | absent | ready => some 0
  | turn loop | calling loop _ | waiting loop _ => some loop.missed
  | finished | crashed _ => none

namespace Event

/-! ## Missed heartbeats -/

/-- How many heartbeats in a row were missed, redirects apart. -/
def missed : List Event → Nat
  | [] => 0
  | completed _ call answer :: earlier =>
    if call.request.isRegister then missed earlier else answer.missed (missed earlier)
  | called _ :: earlier => missed earlier
  | noticed .. :: earlier => missed earlier

@[simp] theorem missed_noticed (time : Nat) (notices : List Notice) (earlier : List Event) :
    missed (notices.map (noticed time) ++ earlier) = missed earlier := by
  induction notices with
  | nil => rfl
  | cons notice rest ih => exact ih

/-- The loop that a call was made in. -/
def loopOf (call : Call) (earlier : List Event) : Loop :=
  if call.request.isRegister then .registering else .beating (missed earlier)

@[simp] theorem isRegistering_loopOf (call : Call) (earlier : List Event) :
    (loopOf call earlier).isRegistering = call.request.isRegister := by
  unfold loopOf
  cases call.request.isRegister <;> rfl

theorem loopOf_beat {call : Call} (h : call.request.isRegister = false) (earlier : List Event) :
    loopOf call earlier = .beating (missed earlier) := by
  simp [loopOf, h]

theorem loopOf_registration {call : Call} (h : call.request.isRegister = true)
    (earlier : List Event) : loopOf call earlier = .registering := by
  simp [loopOf, h]

/-! ## Chronicles -/

/-- What stands in a history from the end of a call up to what is noted down of its answer. -/
def ending (time : Nat) (call : Call) (answer : Answer) (wait : Duration)
    (earlier : List Event) : List Event :=
  (answer.notices (loopOf call earlier) call.endpoint wait).map (noticed time) ++
    completed time call answer :: earlier

/-- A history, the latest first, in which each end of a call is followed at once by what is noted
down of its answer, and in which nothing else is noted down of answers. -/
inductive Chronicle : List Event → Prop
  | empty : Chronicle []
  | aside {earlier : List Event} (time : Nat) {notice : Notice} (aside : notice.isAside = true)
      (before : Chronicle earlier) : Chronicle (noticed time notice :: earlier)
  | call {earlier : List Event} (call : Call) (before : Chronicle earlier) :
      Chronicle (called call :: earlier)
  | ended {earlier : List Event} (time : Nat) (call : Call) (answer : Answer) (wait : Duration)
      (before : Chronicle earlier) : Chronicle (ending time call answer wait earlier)

theorem Chronicle.asides {earlier : List Event} (h : Chronicle earlier) (time : Nat)
    {notices : List Notice} (all : ∀ notice ∈ notices, notice.isAside = true) :
    Chronicle (notices.map (noticed time) ++ earlier) := by
  induction notices with
  | nil => exact h
  | cons notice rest ih =>
    obtain ⟨first, others⟩ := List.forall_mem_cons.1 all
    exact .aside time first (ih others)

/-- A line among those of one moment, or before them. -/
theorem split_of_suffix_noticed {time at' : Nat} {notice : Notice} {notices : List Notice}
    {earlier rest : List Event}
    (h : noticed at' notice :: earlier <:+ notices.map (noticed time) ++ rest) :
    (∃ after before, notices = after ++ notice :: before ∧ at' = time ∧
      earlier = before.map (noticed time) ++ rest) ∨
    noticed at' notice :: earlier <:+ rest := by
  induction notices with
  | nil => exact .inr h
  | cons first others ih =>
    rcases List.suffix_cons_iff.1 h with heq | h
    · obtain ⟨hfirst, hrest⟩ := List.cons.inj heq
      cases hfirst
      exact .inl ⟨[], others, rfl, rfl, hrest⟩
    · rcases ih h with ⟨after, before, rfl, htime, hearlier⟩ | h
      · exact .inl ⟨first :: after, before, rfl, htime, hearlier⟩
      · exact .inr h

/-- Where a line that tells of an answer stands: right after the end of the call or, at the end of a
heartbeat, right after the line that puts it on record. -/
inductive Line (time : Nat) : Notice → List Event → Prop
  | registration {notice : Notice} {call : Call} {answer : Answer} {wait : Duration}
      {past : List Event} (request : call.request.isRegister = true)
      (told : answer.registrationNotice? call.endpoint wait = some notice) :
      Line time notice (completed time call answer :: past)
  | beat {call : Call} {answer : Answer} {past : List Event}
      (request : call.request.isRegister = false) :
      Line time (answer.beatNotice call.endpoint) (completed time call answer :: past)
  | sequel {notice : Notice} {call : Call} {answer : Answer} {past : List Event}
      (request : call.request.isRegister = false)
      (told : answer.sequel? (missed past) = some notice) :
      Line time notice
        (noticed time (answer.beatNotice call.endpoint) :: completed time call answer :: past)

theorem line_of_notices {time : Nat} {call : Call} {answer : Answer} {wait : Duration}
    {past : List Event} {after before : List Notice} {notice : Notice}
    (h : answer.notices (loopOf call past) call.endpoint wait = after ++ notice :: before) :
    Line time notice (before.map (noticed time) ++ completed time call answer :: past) := by
  cases hr : call.request.isRegister with
  | true =>
    rw [loopOf_registration hr, Answer.notices] at h
    cases hn : answer.registrationNotice? call.endpoint wait with
    | none => simp [hn] at h
    | some first =>
      obtain ⟨rfl, hrest⟩ : after = [] ∧ [first] = notice :: before := by
        cases after with
        | nil => exact ⟨rfl, by simpa [hn] using h⟩
        | cons => simp [hn] at h
      cases hrest
      exact .registration hr hn
  | false =>
    rw [loopOf_beat hr, Answer.notices] at h
    cases hn : answer.sequel? (missed past) with
    | none =>
      obtain ⟨rfl, hrest⟩ : after = [] ∧ [answer.beatNotice call.endpoint] = notice :: before := by
        cases after with
        | nil => exact ⟨rfl, by simpa [hn] using h⟩
        | cons => simp [hn] at h
      cases hrest
      exact .beat hr
    | some second =>
      rw [hn] at h
      cases after with
      | nil =>
        cases h
        exact .sequel hr hn
      | cons _ after =>
        cases after with
        | nil =>
          cases h
          exact .beat hr
        | cons => simp at h

namespace Chronicle
variable {history : List Event}

/-- What happened before a call, or before the end of one, is a chronicle of its own. -/
theorem before (h : Chronicle history) {e : Event} {earlier : List Event} (he : e.notice? = none)
    (hs : e :: earlier <:+ history) : Chronicle earlier := by
  induction h with
  | empty => exact absurd (List.suffix_nil.1 hs) (by simp)
  | aside time aside before ih => exact ih (suffix_of_suffix_noticed [_] he hs)
  | call call before ih =>
    rcases List.suffix_cons_iff.1 hs with heq | hs
    · rw [(List.cons.inj heq).2]
      exact before
    · exact ih hs
  | ended time call answer wait before ih =>
    rcases List.suffix_cons_iff.1 (suffix_of_suffix_noticed _ he hs) with heq | hs
    · rw [(List.cons.inj heq).2]
      exact before
    · exact ih hs

/-- After the end of a call stands what is noted down of its answer. -/
theorem block (h : Chronicle history) {time : Nat} {call : Call} {answer : Answer}
    {earlier : List Event} (hs : completed time call answer :: earlier <:+ history) :
    ∃ wait, ending time call answer wait earlier <:+ history := by
  induction h with
  | empty => exact absurd (List.suffix_nil.1 hs) (by simp)
  | aside time' aside before ih =>
    obtain ⟨wait, hw⟩ := ih (suffix_of_suffix_noticed [_] rfl hs)
    exact ⟨wait, hw.trans (List.suffix_cons _ _)⟩
  | call call' before ih =>
    rcases List.suffix_cons_iff.1 hs with heq | hs
    · cases (List.cons.inj heq).1
    · obtain ⟨wait, hw⟩ := ih hs
      exact ⟨wait, hw.trans (List.suffix_cons _ _)⟩
  | ended time' call' answer' wait before ih =>
    rcases List.suffix_cons_iff.1 (suffix_of_suffix_noticed _ rfl hs) with heq | hs
    · obtain ⟨hevent, rfl⟩ := List.cons.inj heq
      cases hevent
      exact ⟨wait, List.suffix_refl _⟩
    · obtain ⟨wait', hw⟩ := ih hs
      exact ⟨wait', hw.trans ((List.suffix_cons _ _).trans (List.suffix_append _ _))⟩

/-- A line that tells of an answer stands where its kind of line does. -/
theorem line (h : Chronicle history) {time : Nat} {notice : Notice} {earlier : List Event}
    (telling : notice.isAside = false) (hs : noticed time notice :: earlier <:+ history) :
    Line time notice earlier := by
  induction h with
  | empty => exact absurd (List.suffix_nil.1 hs) (by simp)
  | aside time' aside before ih =>
    rcases List.suffix_cons_iff.1 hs with heq | hs
    · cases (List.cons.inj heq).1
      exact absurd aside (by simp [telling])
    · exact ih hs
  | call call before ih =>
    rcases List.suffix_cons_iff.1 hs with heq | hs
    · cases (List.cons.inj heq).1
    · exact ih hs
  | ended time' call answer wait before ih =>
    rcases split_of_suffix_noticed hs with ⟨after, first, hnotices, rfl, rfl⟩ | hs
    · exact line_of_notices hnotices
    · rcases List.suffix_cons_iff.1 hs with heq | hs
      · cases (List.cons.inj heq).1
      · exact ih hs

end Chronicle
end Event

namespace Agent
variable {σ : Type} [ControlPlane σ]

/-! ## What a step writes -/

/-- What a step of the task adds to the history, the latest first. -/
inductive Writes (a : Agent σ) : List Event → Prop
  | nothing : Writes a []
  | starting (ready : a.task = .ready) : Writes a [.noticed a.now (.starting a.endpoint)]
  | call {loop : Loop} (turn : a.task = .turn loop) :
      Writes a ((a.remarks loop).map (Event.noticed a.now) ++ [.called (a.nextCall loop)])
  | answer {loop : Loop} {pending : Pending} (calling : a.task = .calling loop pending) :
      Writes a ((a.notices loop pending.call.endpoint pending.answer).map (Event.noticed a.now) ++
        [.completed a.now pending.call pending.answer])
  | ended : Writes a [.noticed a.now .beatsEnded]

theorem writes_leave (loop : Loop) (a : Agent σ) :
    ∃ events, a.Writes events ∧ (a.leave loop).history = events ++ a.history := by
  cases loop with
  | registering => exact ⟨[], .nothing, rfl⟩
  | beating => exact ⟨_, .ended, rfl⟩

theorem writes_of_step? {a b : Agent σ} (taken : a.step? = some b) :
    ∃ events, a.Writes events ∧ b.history = events ++ a.history := by
  unfold step? at taken
  split at taken
  · cases taken
  · cases taken
  · cases taken
  · next ready =>
    cases taken
    unfold begin
    split
    · exact ⟨[], .nothing, rfl⟩
    · exact ⟨_, .starting ready, rfl⟩
  · next loop turn =>
    cases taken
    split
    · exact writes_leave loop a
    · refine ⟨_, .call turn, ?_⟩
      rw [placeCall_eq, List.append_assoc]
      rfl
  · next loop pending calling =>
    split at taken
    · cases taken
      refine ⟨_, .answer calling, ?_⟩
      rw [complete_eq_answered, List.append_assoc]
      rfl
    · cases taken
  · next loop time waiting =>
    split at taken
    · cases taken
      exact writes_leave loop a
    · split at taken
      · cases taken
        exact ⟨[], .nothing, rfl⟩
      · cases taken

/-! ## Runs -/

omit [ControlPlane σ] in
theorem missed?_taskAfter_registering (answer : Answer) (a : Agent σ) {missed : Nat}
    (h : (a.taskAfter .registering answer).missed? = some missed) : missed = 0 := by
  revert h
  unfold taskAfter
  cases answer.accepts with
  | true =>
    simp only [if_true]
    split <;> simp [Task.missed?, Loop.missed, eq_comm]
  | false =>
    simp only [Bool.false_eq_true, if_false]
    split
    · simp [Task.missed?, Loop.missed, eq_comm]
    · split <;> simp [Task.missed?, Loop.missed, eq_comm]

/-- The heartbeats that a task takes for missed are those that its history tells of. -/
def OnRecord (a : Agent σ) : Prop :=
  ∀ missed, a.task.missed? = some missed → Event.missed a.history = missed

theorem OnRecord.stride {a b : Agent σ} (h : a.OnRecord) (hc : a.Coherent) (hs : Stride a b) :
    b.OnRecord := by
  intro missed hm
  cases hs with
  | enter ready =>
    rw [← Option.some.inj hm]
    exact h 0 (by rw [ready]; rfl)
  | call turn =>
    rw [Event.missed_noticed]
    exact h missed (by rw [turn]; exact hm)
  | @answer loop pending notices calling =>
    have hreq := (hc.inFlight _ _ calling).request
    have hbefore := h loop.missed (by rw [calling]; rfl)
    rw [Event.missed_noticed, Event.missed, hreq, hbefore]
    cases loop with
    | registering => exact (missed?_taskAfter_registering pending.answer a hm).symm
    | beating before => exact Option.some.inj hm
  | wake waiting => exact h missed (by rw [waiting]; exact hm)
  | leave => cases hm

theorem OnRecord.change {a b : Agent σ} (h : a.OnRecord) (hc : a.Coherent) (hs : Change a b) :
    b.OnRecord := by
  cases hs with
  | start absent =>
    intro missed hm
    exact h missed (by rw [absent]; exact hm)
  | step taken => exact h.stride hc taken
  | _ => exact h

theorem Reaches.onRecord {a b : Agent σ} (h : Reaches a b) (ha : a.OnRecord) (hc : a.Coherent) :
    b.OnRecord := by
  refine h.keeps ha fun hab hm hb => ?_
  exact hb.change (hab.coherent hc) hm.change

omit [ControlPlane σ] in
theorem loopOf_eq {a : Agent σ} {loop : Loop} {call : Call}
    (request : call.request.isRegister = loop.isRegistering)
    (missed : Event.missed a.history = loop.missed) : Event.loopOf call a.history = loop := by
  cases loop with
  | registering => exact Event.loopOf_registration request _
  | beating before => exact (Event.loopOf_beat request _).trans (congrArg Loop.beating missed)

end Agent

/-- A client that notes down nothing but its connections. -/
def ControlPlane.Discreet (σ : Type) [ControlPlane σ] : Prop :=
  ∀ (call : Call) (plane : σ), ∀ notice ∈ (ControlPlane.handle call plane).1.notices,
    ∃ endpoint, notice = .connected endpoint

theorem Script.discreet : ControlPlane.Discreet Script := by
  intro call plane notice h
  cases h

namespace Agent
variable {σ : Type} [ControlPlane σ]

theorem Writes.chronicle {a : Agent σ} {events : List Event} (h : a.Writes events)
    (discreet : ControlPlane.Discreet σ) (hc : a.Coherent) (record : a.OnRecord)
    (hist : Event.Chronicle a.history) : Event.Chronicle (events ++ a.history) := by
  cases h with
  | nothing => exact hist
  | starting => exact .aside _ rfl hist
  | ended => exact .aside _ rfl hist
  | @call loop =>
    rw [List.append_assoc]
    refine Event.Chronicle.asides (.call _ hist) _ fun notice hn => ?_
    obtain ⟨endpoint, rfl⟩ := discreet _ _ notice (List.mem_reverse.1 hn)
    rfl
  | @answer loop pending calling =>
    have hloop : Event.loopOf pending.call a.history = loop :=
      loopOf_eq (hc.inFlight _ _ calling).request (record _ (by rw [calling]; rfl))
    have hended := hist.ended a.now pending.call pending.answer a.timings.retryDelay
    rw [Event.ending, hloop] at hended
    rw [notices, List.map_append, List.append_assoc, List.append_assoc]
    refine hended.asides _ fun notice hn => ?_
    split at hn
    · cases List.mem_singleton.1 hn
      rfl
    · cases hn

theorem Reaches.chronicle {a b : Agent σ} (h : Reaches a b) (discreet : ControlPlane.Discreet σ)
    (hc : a.Coherent) (record : a.OnRecord) (ha : Event.Chronicle a.history) :
    Event.Chronicle b.history := by
  refine h.keeps ha fun {b c} hab hm hb => ?_
  cases hm with
  | start started =>
    obtain ⟨_, rfl⟩ := start?_eq_ok started
    exact hb
  | stop =>
    unfold Agent.stop
    split
    · exact hb
    · exact .aside _ rfl hb
  | step taken =>
    obtain ⟨events, hwrites, hevents⟩ := writes_of_step? taken
    rw [hevents]
    exact hwrites.chronicle discreet (hab.coherent hc) (hab.onRecord record hc) hb
  | pass => exact hb

/-- A session over a script has a chronicle for its history. -/
theorem chronicle_after (identity : Identity) (timings : Timings) (epoch : Int) (script : Script)
    (home : String) (commands : List Command) :
    Event.Chronicle ((new identity timings epoch script home).after commands).history := by
  refine (reaches_after commands _).chronicle Script.discreet (coherent_new _ _ _ _ _) ?_ .empty
  intro missed hm
  exact Option.some.inj hm

end Agent
end ClusterMember
