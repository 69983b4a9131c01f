import ClusterMember.Proofs.Agent.Chronicle
import ClusterMember.Proofs.Agent.Conservation
import ClusterMember.Proofs.Agent.Settle

/-! # The log and the counters

A log line and the counter that belongs to it are written apart from each other, now the one first
and now the other. Both are held against the history of a run here: a counter and a headline each
tell how many calls of one kind ended in one way.

* `Answer.refuses`, `Answer.unreachable`, `Answer.declines`: more ways in which a call can end.
* `Event.logCount`: how many lines of a log bear a headline.
* `Event.Chronicle.logCount_eq`: a headline stands for one way of ending.
* `Agent.Reaches.counter_eq`: so does a counter.
* `Agent.Signed`: the lines that tell when an agent started and when it was stopped.
* `Agent.log_agrees_with_counters`: what follows for every session over a script.
-/

namespace ClusterMember
set_option autoImplicit false

namespace Answer

/-! ## Ways of ending -/

/-- A reply that neither agrees nor names a leader. -/
def refuses : Answer → Bool
  | reply r => !r.ok && r.leaderAddr == ""
  | fault _ | crash _ => false

def faults : Answer → Bool
  | fault _ => true
  | reply _ | crash _ => false

/-- The endpoint was not one, was not reached, or did not answer in time. -/
def unreachable : Answer → Bool
  | fault (.transport ..) | fault (.timeout ..) | fault (.invalidEndpoint ..) => true
  | fault (.rejected _) | fault .alreadyStarted | reply _ | crash _ => false

/-- A refusal, or any other fault. -/
def declines (answer : Answer) : Bool := answer.fails && !answer.unreachable

/-- The answers by kind: an agreement, a redirect, a refusal, a fault, a break-down. -/
@[elab_as_elim]
theorem byKind {motive : Answer → Prop}
    (agreement : ∀ leader error, motive (.reply ⟨true, leader, error⟩))
    (redirect : ∀ leader error, leader ≠ "" → motive (.reply ⟨false, leader, error⟩))
    (refusal : ∀ error, motive (.reply ⟨false, "", error⟩))
    (fault : ∀ cause, motive (.fault cause)) (crash : ∀ cause, motive (.crash cause))
    (answer : Answer) : motive answer := by
  cases answer with
  | fault cause => exact fault cause
  | crash cause => exact crash cause
  | reply r =>
    obtain ⟨ok, leader, error⟩ := r
    cases ok with
    | true => exact agreement leader error
    | false =>
      by_cases h : leader = ""
      · rw [h]
        exact refusal error
      · exact redirect leader error h

end Answer

namespace Notice

/-! ## Headlines -/

/-- The headlines under which the end of a registration is put on record. -/
def registrationHeadlines : List String := [
  "registered with control plane", "registration redirected to leader",
  "control plane unreachable, retrying", "registration rejected, retrying"]

/-- The headlines under which the end of a heartbeat is put on record. -/
def beatHeadlines : List String := [
  "heartbeat ok", "heartbeat redirected to leader", "heartbeat rejected", "heartbeat failed",
  "heartbeat faulted"]

/-- The headlines of what else is noted down at the end of a heartbeat. -/
def sequelHeadlines : List String := [
  "heartbeat recovered", "next heartbeat goes to new leader", "heartbeats still not landing"]

/-- The headlines of lines that tell of no answer. -/
def asideHeadlines : List String := [
  "membership agent starting", "heartbeat loop started", "heartbeat loop shutting down",
  "membership agent stopped", "connected to control plane"]

theorem message_of_aside {notice : Notice} (h : notice.isAside = true) :
    notice.message ∈ asideHeadlines := by
  cases notice <;> simp [isAside] at h <;> simp [message, asideHeadlines]

theorem message_of_sequel {missed : Nat} {answer : Answer} {notice : Notice}
    (h : answer.sequel? missed = some notice) : notice.message ∈ sequelHeadlines := by
  unfold Answer.sequel? at h
  split at h
  · split at h
    · cases h
      simp [message, sequelHeadlines]
    · cases h
  · split at h
    · cases h
      simp [message, sequelHeadlines]
    · split at h
      · cases h
        simp [message, sequelHeadlines]
      · cases h

theorem message_of_registration {called : String} {wait : Duration} {answer : Answer}
    {notice : Notice} (h : answer.registrationNotice? called wait = some notice) :
    notice.message ∈ registrationHeadlines := by
  have hretry (cause : Fault) : (retrying called cause wait).message ∈ registrationHeadlines := by
    cases cause <;> simp [message, Fault.isTransport, registrationHeadlines]
  unfold Answer.registrationNotice? at h
  split at h
  · split at h
    · cases h
      simp [message, registrationHeadlines]
    · cases h
      simp [message, registrationHeadlines]
    · cases h
      exact hretry _
  · cases h
    exact hretry _
  · cases h

theorem message_of_beat (called : String) (answer : Answer) :
    (answer.beatNotice called).message ∈ beatHeadlines := by
  unfold Answer.beatNotice
  split
  · split <;> simp [message, beatHeadlines]
  · simp [message, beatHeadlines]
  · simp [message, beatHeadlines]

/-- No line that tells of an answer bears the headline of one that does not. -/
theorem message_of_mem_notices {loop : Loop} {called : String} {wait : Duration} {answer : Answer}
    {notice : Notice} (h : notice ∈ answer.notices loop called wait) :
    notice.message ∈ sequelHeadlines ++ registrationHeadlines ++ beatHeadlines := by
  cases loop with
  | registering =>
    have hn := message_of_registration (Option.mem_toList.1 h)
    exact List.mem_append_left _ (List.mem_append_right _ hn)
  | beating missed =>
    rcases List.mem_append.1 h with h | h
    · have hn := message_of_sequel (Option.mem_toList.1 h)
      exact List.mem_append_left _ (List.mem_append_left _ hn)
    · rw [List.mem_singleton.1 h]
      exact List.mem_append_right _ (message_of_beat called answer)

end Notice

namespace Event

/-! ## Lines of a log -/

def isLog (headline : String) : Event → Bool
  | noticed _ notice => notice.message == headline
  | called _ | completed .. => false

/-- How many lines of the log bear a headline. -/
def logCount (headline : String) (history : List Event) : Nat := history.countP (isLog headline)

theorem logCount_append (headline : String) (late early : List Event) :
    logCount headline (late ++ early) = logCount headline late + logCount headline early :=
  List.countP_append

theorem logCount_map_noticed (headline : String) (time : Nat) (notices : List Notice) :
    logCount headline (notices.map (noticed time)) =
      notices.countP fun notice => notice.message == headline := by
  rw [logCount, List.countP_map]
  rfl

theorem logCount_noticed (headline : String) (time : Nat) (notice : Notice)
    (earlier : List Event) :
    logCount headline (noticed time notice :: earlier) =
      logCount headline earlier + if notice.message = headline then 1 else 0 := by
  simp [logCount, List.countP_cons, isLog]

theorem logCount_called (headline : String) (call : Call) (earlier : List Event) :
    logCount headline (called call :: earlier) = logCount headline earlier := by
  simp [logCount, isLog]

theorem logCount_completed (headline : String) (time : Nat) (call : Call) (answer : Answer)
    (earlier : List Event) :
    logCount headline (completed time call answer :: earlier) = logCount headline earlier := by
  simp [logCount, isLog]

end Event

/-- A headline under which the ends of calls of one kind are put on record, if they ended in one way. -/
structure Answer.Heads (headline : String) (register : Bool) (way : Answer → Bool) : Prop where
  main : headline ∉ Notice.asideHeadlines ++ Notice.sequelHeadlines
  registration : ∀ called wait answer,
    (Answer.registrationNotice? called wait answer).map Notice.message = some headline ↔
      register = true ∧ way answer = true
  beat : ∀ called answer,
    (Answer.beatNotice called answer).message = headline ↔ register = false ∧ way answer = true

theorem Answer.Heads.countP_notices {headline : String} {register : Bool} {way : Answer → Bool}
    (heads : Heads headline register way) (loop : Loop) (called : String) (wait : Duration)
    (answer : Answer) :
    (answer.notices loop called wait).countP (·.message == headline) =
      if loop.isRegistering = register ∧ way answer = true then 1 else 0 := by
  cases loop with
  | registering =>
    have h : true = register ∧ way answer = true ↔ _ :=
      (and_congr_left fun _ => eq_comm).trans (heads.registration called wait answer).symm
    simp only [Answer.notices, Loop.isRegistering, h]
    cases answer.registrationNotice? called wait <;> simp
  | beating missed =>
    have h : false = register ∧ way answer = true ↔ _ :=
      (and_congr_left fun _ => eq_comm).trans (heads.beat called answer).symm
    have hsequel : (answer.sequel? missed).toList.countP (·.message == headline) = 0 := by
      rw [List.countP_eq_zero]
      intro notice hn he
      have hside := Notice.message_of_sequel (Option.mem_toList.1 hn)
      rw [beq_iff_eq.1 he] at hside
      exact heads.main (List.mem_append_right _ hside)
    simp only [Answer.notices, Loop.isRegistering, List.countP_append, hsequel, h]
    simp

/-- A headline counts the calls of one kind that ended in one way. -/
theorem Event.Chronicle.logCount_eq {history : List Event} (h : Event.Chronicle history)
    {headline : String} {register : Bool} {way : Answer → Bool}
    (heads : Answer.Heads headline register way) :
    Event.logCount headline history = Event.endCount register way history := by
  induction h with
  | empty => rfl
  | @aside earlier time notice aside before ih =>
    have hne : notice.message ≠ headline := fun he =>
      heads.main (List.mem_append_left _ (he ▸ Notice.message_of_aside aside))
    rw [Event.logCount_noticed, if_neg hne, ih]
    exact (Event.endCount_noticed register way time [notice] earlier).symm
  | call call before ih => rw [Event.logCount_called, Event.endCount_called, ih]
  | ended time call answer wait before ih =>
    rw [Event.ending, Event.logCount_append, Event.logCount_map_noticed, heads.countP_notices,
      Event.isRegistering_loopOf, Event.logCount_completed, Event.endCount_noticed,
      Event.endCount_completed, ih, Nat.add_comm]

namespace Answer

/-! ## What each headline stands for -/

theorem heads_of_registration {headline : String} {way : Answer → Bool}
    (main : headline ∉ Notice.asideHeadlines ++ Notice.sequelHeadlines ++ Notice.beatHeadlines)
    (told : ∀ called wait answer,
      (registrationNotice? called wait answer).map Notice.message = some headline ↔
        way answer = true) : Heads headline true way where
  main h := main (List.mem_append_left _ h)
  registration called wait answer := by simpa using told called wait answer
  beat called answer := by
    have hne : (answer.beatNotice called).message ≠ headline := fun he =>
      main (List.mem_append_right _ (he ▸ Notice.message_of_beat called answer))
    simpa using hne

theorem heads_of_beat {headline : String} {way : Answer → Bool}
    (main : headline ∉
      Notice.asideHeadlines ++ Notice.sequelHeadlines ++ Notice.registrationHeadlines)
    (told : ∀ called answer, (beatNotice called answer).message = headline ↔ way answer = true) :
    Heads headline false way where
  main h := main (List.mem_append_left _ h)
  registration called wait answer := by
    have hne : (registrationNotice? called wait answer).map Notice.message ≠ some headline := by
      intro he
      obtain ⟨notice, hn, rfl⟩ := Option.map_eq_some_iff.1 he
      exact main (List.mem_append_right _ (Notice.message_of_registration hn))
    simpa using hne
  beat called answer := by simpa using told called answer

theorem heads_accepted : Heads "heartbeat ok" false accepts := by
  refine heads_of_beat (by decide) fun called answer => ?_
  induction answer using byKind <;> simp [beatNotice, Notice.message, Reply.verdict, accepts, *]

theorem heads_redirected : Heads "heartbeat redirected to leader" false (·.leader?.isSome) := by
  refine heads_of_beat (by decide) fun called answer => ?_
  induction answer using byKind <;> simp [beatNotice, Notice.message, Reply.verdict, leader?, *]

theorem heads_rejected : Heads "heartbeat rejected" false refuses := by
  refine heads_of_beat (by decide) fun called answer => ?_
  induction answer using byKind <;> simp [beatNotice, Notice.message, Reply.verdict, refuses, *]

theorem heads_failed : Heads "heartbeat failed" false faults := by
  refine heads_of_beat (by decide) fun called answer => ?_
  induction answer using byKind <;> simp [beatNotice, Notice.message, Reply.verdict, faults, *]

theorem heads_faulted : Heads "heartbeat faulted" false crashes := by
  refine heads_of_beat (by decide) fun called answer => ?_
  induction answer using byKind <;> simp [beatNotice, Notice.message, Reply.verdict, crashes, *]

theorem heads_registered : Heads "registered with control plane" true accepts := by
  refine heads_of_registration (by decide) fun called wait answer => ?_
  induction answer using byKind with
  | fault cause =>
    cases cause <;> simp [registrationNotice?, Notice.message, Fault.isTransport, accepts]
  | _ =>
    simp [registrationNotice?, Notice.message, Reply.verdict, Fault.isTransport, accepts, *]

theorem heads_registration_redirected :
    Heads "registration redirected to leader" true (·.leader?.isSome) := by
  refine heads_of_registration (by decide) fun called wait answer => ?_
  induction answer using byKind with
  | fault cause =>
    cases cause <;> simp [registrationNotice?, Notice.message, Fault.isTransport, leader?]
  | _ =>
    simp [registrationNotice?, Notice.message, Reply.verdict, Fault.isTransport, leader?, *]

theorem heads_unreachable : Heads "control plane unreachable, retrying" true unreachable := by
  refine heads_of_registration (by decide) fun called wait answer => ?_
  induction answer using byKind with
  | fault cause =>
    cases cause <;> simp [registrationNotice?, Notice.message, Fault.isTransport, unreachable]
  | _ =>
    simp [registrationNotice?, Notice.message, Reply.verdict, Fault.isTransport, unreachable, *]

theorem heads_declined : Heads "registration rejected, retrying" true declines := by
  refine heads_of_registration (by decide) fun called wait answer => ?_
  induction answer using byKind with
  | fault cause =>
    cases cause <;>
      simp [registrationNotice?, Notice.message, Fault.isTransport, declines, fails, unreachable]
  | _ =>
    simp [registrationNotice?, Notice.message, Reply.verdict, Fault.isTransport, declines, fails,
      unreachable, *]

end Answer

namespace Event

/-- Calls that ended in one of two ways. -/
theorem endCount_either {way first second : Answer → Bool}
    (h : ∀ answer, (if way answer then 1 else 0) =
      (if first answer then 1 else 0) + if second answer then 1 else 0)
    (register : Bool) (history : List Event) :
    endCount register way history =
      endCount register first history + endCount register second history := by
  induction history with
  | nil => rfl
  | cons e earlier ih =>
    cases e with
    | called call => exact ih
    | noticed time notice =>
      have hn (w : Answer → Bool) := endCount_noticed register w time [notice] earlier
      exact (hn way).trans (ih.trans (congrArg₂ _ (hn first).symm (hn second).symm))
    | completed time call answer =>
      have ha := h answer
      rw [endCount_completed, endCount_completed, endCount_completed, ih]
      by_cases hr : call.request.isRegister = register
      · simp only [hr, true_and]
        omega
      · simp [hr]

end Event

namespace Agent
variable {σ : Type} [ControlPlane σ]

/-! ## What each counter stands for -/

/-- A counter counts the calls of one kind that ended in one way. -/
theorem Reaches.counter_eq {f : Counters → Nat} {register : Bool} {way : Answer → Bool}
    (attempt : ∀ c, f c.countAttempt = f c)
    (counted : ∀ loop wallClock answer c, f (Answer.count loop wallClock answer c) =
      f c + if loop.isRegistering = register ∧ way answer = true then 1 else 0)
    {a b : Agent σ} (h : Reaches a b) (hc : a.Coherent)
    (ha : f a.counters = Event.endCount register way a.history) :
    f b.counters = Event.endCount register way b.history := by
  refine h.keeps ha fun {b c} hab hm hb => ?_
  cases hm.change with
  | step taken =>
    cases taken with
    | enter => exact hb
    | wake => exact hb
    | leave =>
      rw [Event.endCount_noticed]
      exact hb
    | @call loop =>
      rw [Event.endCount_noticed, Event.endCount_called, ← hb]
      show f (if _ then _ else _) = _
      split
      · exact attempt _
      · rfl
    | @answer loop pending notices calling =>
      have hreq := ((hab.coherent hc).inFlight _ _ calling).request
      rw [Event.endCount_noticed, Event.endCount_completed, counted, hb, hreq]
  | stop => exact hb
  | _ => exact hb

end Agent

/-- What an answer adds to the counters of calls that ended. -/
theorem Answer.count_fields (loop : Loop) (wallClock : Nat) (answer : Answer) (c : Counters) :
    let d := answer.count loop wallClock c
    d.registrations = c.registrations +
      (if loop.isRegistering = true ∧ answer.accepts = true then 1 else 0) ∧
    d.heartbeatsOk = c.heartbeatsOk +
      (if loop.isRegistering = false ∧ answer.accepts = true then 1 else 0) ∧
    d.heartbeatsRejected = c.heartbeatsRejected +
      (if loop.isRegistering = false ∧ answer.refuses = true then 1 else 0) ∧
    d.heartbeatsFailed = c.heartbeatsFailed +
      (if loop.isRegistering = false ∧ answer.isReply = false then 1 else 0) := by
  cases loop <;> induction answer using Answer.byKind <;>
    simp [Answer.count, Answer.accepts, Answer.leader?, Answer.refuses, Answer.isReply,
      Loop.isRegistering, Counters.countRegistration, Counters.countBeat, Counters.countRedirect,
      Counters.countRejectedBeat, Counters.countFailedBeat, *]

namespace Agent
variable {σ : Type} [ControlPlane σ]

/-- The counters of calls that ended, all but the redirects, read off the history. -/
theorem Reaches.counters_eq {a b : Agent σ} (h : Reaches a b) (hc : a.Coherent)
    (hcounters : a.counters = {}) (hhistory : a.history = []) :
    b.counters.registrations = Event.endCount true Answer.accepts b.history ∧
    b.counters.heartbeatsOk = Event.endCount false Answer.accepts b.history ∧
    b.counters.heartbeatsRejected = Event.endCount false Answer.refuses b.history ∧
    b.counters.heartbeatsFailed = Event.endCount false (!·.isReply) b.history := by
  have start {f : Counters → Nat} (zero : f {} = 0) (register : Bool) (way : Answer → Bool) :
      f a.counters = Event.endCount register way a.history := by
    rw [hcounters, hhistory, zero]
    rfl
  refine ⟨?_, ?_, ?_, ?_⟩
  · exact h.counter_eq (f := Counters.registrations) (fun _ => rfl)
      (fun loop w answer c => (answer.count_fields loop w c).1) hc (start rfl _ _)
  · exact h.counter_eq (f := Counters.heartbeatsOk) (fun _ => rfl)
      (fun loop w answer c => (answer.count_fields loop w c).2.1) hc (start rfl _ _)
  · exact h.counter_eq (f := Counters.heartbeatsRejected) (fun _ => rfl)
      (fun loop w answer c => (answer.count_fields loop w c).2.2.1) hc (start rfl _ _)
  · refine h.counter_eq (f := Counters.heartbeatsFailed) (fun _ => rfl)
      (fun loop w answer c => ?_) hc (start rfl _ _)
    simpa using (answer.count_fields loop w c).2.2.2

/-! ## Start and stop -/

/-- The lines that tell when an agent started and when it was stopped. -/
structure Signed (a : Agent σ) : Prop where
  unstarted : a.task = .absent ∨ a.task = .ready →
    Event.logCount "membership agent starting" a.history = 0
  started : Event.logCount "membership agent starting" a.history ≤ 1
  stopped : Event.logCount "membership agent stopped" a.history =
    if a.state = .stopped then 1 else 0

omit [ControlPlane σ] in
theorem signed_new (identity : Identity) (timings : Timings) (epoch : Int) (plane : σ)
    (endpoint : String) : (new identity timings epoch plane endpoint).Signed where
  unstarted := fun _ => rfl
  started := Nat.zero_le _
  stopped := rfl

/-- A step writes no line that tells of a stop, and one that tells of a start only at first. -/
theorem Writes.logCounts {a : Agent σ} {events : List Event} (h : a.Writes events)
    (discreet : ControlPlane.Discreet σ) :
    Event.logCount "membership agent stopped" events = 0 ∧
    (Event.logCount "membership agent starting" events = 0 ∨
      a.task = .ready ∧ Event.logCount "membership agent starting" events = 1) := by
  cases h with
  | nothing => exact ⟨rfl, .inl rfl⟩
  | starting ready => exact ⟨rfl, .inr ⟨ready, rfl⟩⟩
  | ended => exact ⟨rfl, .inl rfl⟩
  | @call loop =>
    have hnone {headline : String} (hne : "connected to control plane" ≠ headline) :
        Event.logCount headline ((a.remarks loop).map (Event.noticed a.now) ++
          [.called (a.nextCall loop)]) = 0 := by
      rw [Event.logCount_append, Event.logCount_map_noticed, List.countP_eq_zero.2]
      · rfl
      · intro notice hn
        obtain ⟨endpoint, rfl⟩ := discreet _ _ notice (List.mem_reverse.1 hn)
        simpa [Notice.message] using hne
    exact ⟨hnone (by decide), .inl (hnone (by decide))⟩
  | @answer loop pending =>
    have hnone {headline : String} (hne : "heartbeat loop started" ≠ headline)
        (hanswer : headline ∉ Notice.sequelHeadlines ++ Notice.registrationHeadlines ++
          Notice.beatHeadlines) :
        Event.logCount headline ((a.notices loop pending.call.endpoint pending.answer).map
          (Event.noticed a.now) ++ [.completed a.now pending.call pending.answer]) = 0 := by
      rw [Event.logCount_append, Event.logCount_map_noticed, List.countP_eq_zero.2]
      · rfl
      · intro notice hn he
        rw [beq_iff_eq] at he
        rcases List.mem_append.1 hn with hn | hn
        · split at hn
          · rw [List.mem_singleton.1 hn] at he
            exact hne he
          · cases hn
        · exact hanswer (he ▸ Notice.message_of_mem_notices hn)
    exact ⟨hnone (by decide) (by decide), .inl (hnone (by decide) (by decide))⟩

omit [ControlPlane σ] in
theorem taskAfter_ne_ready (loop : Loop) (answer : Answer) (a : Agent σ) :
    a.taskAfter loop answer ≠ .ready := by
  unfold taskAfter
  split
  · split
    · split <;> exact Task.noConfusion
    · split
      · exact Task.noConfusion
      · split <;> exact Task.noConfusion
  · exact Task.noConfusion

/-- Once it has taken a step, a task is neither yet to come nor yet to run. -/
theorem Stride.begun {a b : Agent σ} (h : Stride a b) : ¬ (b.task = .absent ∨ b.task = .ready) := by
  cases h with
  | answer => exact not_or.2 ⟨taskAfter_ne_absent _ _ _, taskAfter_ne_ready _ _ _⟩
  | _ => exact not_or.2 ⟨Task.noConfusion, Task.noConfusion⟩

theorem Signed.step {a b : Agent σ} (h : a.Signed) (discreet : ControlPlane.Discreet σ)
    (taken : a.step? = some b) : b.Signed := by
  obtain ⟨events, hwrites, hevents⟩ := writes_of_step? taken
  obtain ⟨hstopped, hstarting⟩ := hwrites.logCounts discreet
  refine ⟨fun hb => absurd hb (stride_of_step? taken).begun, ?_, ?_⟩
  · rw [hevents, Event.logCount_append]
    have before := h.started
    rcases hstarting with none | ⟨ready, one⟩
    · omega
    · have unstarted := h.unstarted (.inr ready)
      omega
  · rw [hevents, Event.logCount_append, hstopped, Nat.zero_add, h.stopped]
    by_cases hs : a.state = .stopped
    · rw [if_pos hs, if_pos ((Reaches.single (.step taken)).state_stopped hs)]
    · rw [if_neg hs, if_neg (state_step_ne_stopped taken hs)]

omit [ControlPlane σ] in
theorem Signed.stop {a : Agent σ} (h : a.Signed) : a.stop.Signed := by
  unfold Agent.stop
  split
  · exact h
  · next live =>
    have hstopped : Event.logCount "membership agent stopped" a.history = 0 := by
      rw [h.stopped, if_neg live]
    refine ⟨fun hb => ?_, ?_, ?_⟩
    · rw [note, Event.logCount_noticed, if_neg (by simp [Notice.message])]
      exact h.unstarted hb
    · rw [note, Event.logCount_noticed, if_neg (by simp [Notice.message])]
      exact h.started
    · rw [note, Event.logCount_noticed, hstopped]
      rfl

theorem Reaches.signed {a b : Agent σ} (h : Reaches a b) (discreet : ControlPlane.Discreet σ)
    (ha : a.Signed) : b.Signed := by
  refine h.keeps ha fun {b c} _ hm hb => ?_
  cases hm with
  | start started =>
    obtain ⟨absent, rfl⟩ := start?_eq_ok started
    exact ⟨fun _ => hb.unstarted (.inl absent), hb.started, hb.stopped⟩
  | stop => exact hb.stop
  | step taken => exact hb.step discreet taken
  | pass => exact ⟨hb.unstarted, hb.started, hb.stopped⟩

theorem stop_on_record {a : Agent σ} (live : a.state ≠ .stopped) {command : Command}
    (hc : command.action = .stop) (rest : List Command) :
    .noticed a.now (.stopped a.state) :: a.history <:+ (a.after (command :: rest)).history := by
  have hact : (a.act command.action).2 = a.stop := by rw [hc, act]
  have hstop : a.stop.history = .noticed a.now (.stopped a.state) :: a.history := by
    rw [Agent.stop, if_neg live]
    rfl
  have hperform : Reaches a.stop (a.perform command).2 := by
    rw [← hact]
    simp only [perform]
    split
    · exact reaches_settle _
    · exact Reaches.refl _
  rw [← hstop, after_cons]
  exact (hperform.trans (reaches_after rest _)).history_suffix

end Agent

/-! ## Line by line -/

/-- A line stands right after the end of a call of a kind, at the same moment, and something holds of
the call and its answer. -/
def Event.FollowsEnd (register : Bool) (time : Nat) (earlier : List Event)
    (told : Call → Answer → Prop) : Prop :=
  ∃ call answer past, earlier = completed time call answer :: past ∧
    call.request.isRegister = register ∧ told call answer

/-- A line names the leader that an answer names, and the endpoint that was called. -/
def Notice.NamesLeader (notice : Notice) (call : Call) (answer : Answer) : Prop :=
  ∃ leader, answer.leader? = some leader ∧
    notice.details = [("leader", .text leader), ("was", .text call.endpoint)]

theorem Notice.namesLeader_of_registration {notice : Notice} {call : Call} {answer : Answer}
    {wait : Duration} (told : answer.registrationNotice? call.endpoint wait = some notice)
    (h : answer.leader?.isSome = true) : notice.NamesLeader call answer := by
  induction answer using Answer.byKind with
  | redirect leader error hl =>
    have hn : Notice.registrationRedirected leader call.endpoint = notice := by
      simpa [Answer.registrationNotice?, Reply.verdict, hl] using told
    exact ⟨leader, by simp [Answer.leader?, hl], by rw [← hn]; rfl⟩
  | _ => cases h

theorem Notice.namesLeader_of_beat {call : Call} {answer : Answer}
    (h : answer.leader?.isSome = true) : (answer.beatNotice call.endpoint).NamesLeader call answer := by
  induction answer using Answer.byKind with
  | redirect leader error hl =>
    have hn : (Answer.reply ⟨false, leader, error⟩).beatNotice call.endpoint =
        .beatRedirected leader call.endpoint := by
      simp [Answer.beatNotice, Reply.verdict, hl]
    exact ⟨leader, by simp [Answer.leader?, hl], by rw [hn]; rfl⟩
  | _ => cases h

/-- A line under a headline stands right after the end of a call that ended in the way that the
headline stands for. -/
theorem Event.Chronicle.followsEnd {history : List Event} (h : Event.Chronicle history)
    {headline : String} {register : Bool} {way : Answer → Bool}
    (heads : Answer.Heads headline register way) {time : Nat} {notice : Notice}
    {earlier : List Event} (hs : .noticed time notice :: earlier <:+ history)
    (bears : notice.message = headline) :
    Event.FollowsEnd register time earlier fun call answer => way answer = true ∧
      ((∃ wait, answer.registrationNotice? call.endpoint wait = some notice) ∨
        answer.beatNotice call.endpoint = notice) := by
  have telling : notice.isAside = false := by
    cases ha : notice.isAside with
    | false => rfl
    | true =>
      have hside := Notice.message_of_aside ha
      rw [bears] at hside
      exact absurd (List.mem_append_left _ hside) heads.main
  cases h.line telling hs with
  | @registration _ call answer wait past request told =>
    obtain ⟨rfl, hway⟩ := (heads.registration call.endpoint wait answer).1 (by rw [told, ← bears]; rfl)
    exact ⟨call, answer, past, rfl, request, hway, .inl ⟨wait, told⟩⟩
  | @beat call answer past request =>
    obtain ⟨rfl, hway⟩ := (heads.beat call.endpoint answer).1 bears
    exact ⟨call, answer, past, rfl, request, hway, .inr rfl⟩
  | sequel request told =>
    have hside := Notice.message_of_sequel told
    rw [bears] at hside
    exact absurd (List.mem_append_right _ hside) heads.main

theorem Event.Chronicle.namesLeader {history : List Event} (h : Event.Chronicle history)
    {headline : String} {register : Bool}
    (heads : Answer.Heads headline register (·.leader?.isSome)) {time : Nat} {notice : Notice}
    {earlier : List Event} (hs : .noticed time notice :: earlier <:+ history)
    (bears : notice.message = headline) :
    Event.FollowsEnd register time earlier notice.NamesLeader := by
  obtain ⟨call, answer, past, hpast, request, hway, ⟨wait, told⟩ | rfl⟩ := h.followsEnd heads hs bears
  · exact ⟨call, answer, past, hpast, request, Notice.namesLeader_of_registration told hway⟩
  · exact ⟨call, answer, past, hpast, request, Notice.namesLeader_of_beat hway⟩

namespace Agent

/-- What the log of any session over a script says, held against the counters, the calls and the
commands. A line for each answer that is counted, and one for each registration that is tried again,
told apart by whether the control plane was reached. A redirect is on record with the leader and with
the endpoint that was called. A start is on record once at most; a stop is where the first one was
asked for, with the state that was left. -/
theorem log_agrees_with_counters (identity : Identity) (timings : Timings) (epoch : Int)
    (script : Script) (home : String) (commands : List Command) :
    let a := new identity timings epoch script home
    let b := a.after commands
    let lines (headline : String) := Event.logCount headline b.history
    lines "heartbeat ok" = b.counters.heartbeatsOk ∧
    lines "heartbeat rejected" = b.counters.heartbeatsRejected ∧
    lines "heartbeat failed" + lines "heartbeat faulted" = b.counters.heartbeatsFailed ∧
    lines "heartbeat faulted" = Event.endCount false Answer.crashes b.history ∧
    lines "registration redirected to leader" + lines "heartbeat redirected to leader" =
      b.counters.redirects ∧
    lines "registered with control plane" = b.counters.registrations ∧
    lines "control plane unreachable, retrying" =
      Event.endCount true Answer.unreachable b.history ∧
    lines "registration rejected, retrying" = Event.endCount true Answer.declines b.history ∧
    (∀ time notice earlier, .noticed time notice :: earlier <:+ b.history →
      (notice.message = "registration redirected to leader" →
        Event.FollowsEnd true time earlier notice.NamesLeader) ∧
      (notice.message = "heartbeat redirected to leader" →
        Event.FollowsEnd false time earlier notice.NamesLeader) ∧
      (notice.message = "control plane unreachable, retrying" →
        Event.FollowsEnd true time earlier fun _ answer => answer.unreachable = true) ∧
      (notice.message = "registration rejected, retrying" →
        Event.FollowsEnd true time earlier fun _ answer => answer.declines = true)) ∧
    lines "membership agent starting" ≤ 1 ∧
    lines "membership agent stopped" = (if ∃ c ∈ commands, c.action = .stop then 1 else 0) ∧
    (∀ before command rest, commands = before ++ command :: rest → command.action = .stop →
      (∀ c ∈ before, c.action ≠ .stop) →
      let m := a.after before
      ∃ notice, .noticed m.now notice :: m.history <:+ b.history ∧
        notice.message = "membership agent stopped" ∧
        notice.details = [("from", .text m.state.label)]) := by
  intro a b lines
  have hab : Reaches a b := reaches_after commands a
  have hc : a.Coherent := coherent_new identity timings epoch script home
  have hist : Event.Chronicle b.history := chronicle_after identity timings epoch script home commands
  have signed : b.Signed := hab.signed Script.discreet (signed_new identity timings epoch script home)
  have balanced : b.Balanced := hab.balanced (balanced_new identity timings epoch script home) hc
  obtain ⟨registrations, ok, rejected, failed⟩ := hab.counters_eq hc rfl rfl
  have hfailed : Event.endCount false (!·.isReply) b.history =
      Event.endCount false Answer.faults b.history + Event.endCount false Answer.crashes b.history :=
    Event.endCount_either (fun answer => by cases answer <;> rfl) false b.history
  have live : a.state ≠ .stopped := Lifecycle.noConfusion
  refine ⟨?_, ?_, ?_, ?_, ?_, ?_, ?_, ?_, ?_, signed.started, ?_, ?_⟩
  · rw [ok]
    exact hist.logCount_eq Answer.heads_accepted
  · rw [rejected]
    exact hist.logCount_eq Answer.heads_rejected
  · rw [failed, hfailed]
    exact congrArg₂ _ (hist.logCount_eq Answer.heads_failed) (hist.logCount_eq Answer.heads_faulted)
  · exact hist.logCount_eq Answer.heads_faulted
  · rw [balanced.redirects]
    exact congrArg₂ _ (hist.logCount_eq Answer.heads_registration_redirected)
      (hist.logCount_eq Answer.heads_redirected)
  · rw [registrations]
    exact hist.logCount_eq Answer.heads_registered
  · exact hist.logCount_eq Answer.heads_unreachable
  · exact hist.logCount_eq Answer.heads_declined
  · intro time notice earlier hs
    refine ⟨hist.namesLeader Answer.heads_registration_redirected hs,
      hist.namesLeader Answer.heads_redirected hs, fun bears => ?_, fun bears => ?_⟩
    · obtain ⟨call, answer, past, hpast, request, hway, _⟩ :=
        hist.followsEnd Answer.heads_unreachable hs bears
      exact ⟨call, answer, past, hpast, request, hway⟩
    · obtain ⟨call, answer, past, hpast, request, hway, _⟩ :=
        hist.followsEnd Answer.heads_declined hs bears
      exact ⟨call, answer, past, hpast, request, hway⟩
  · simp only [lines, signed.stopped, b, state_after_eq_stopped live commands]
  · intro before command rest hsplit hstop hbefore m
    have hm : m.state ≠ .stopped := by
      intro hs
      obtain ⟨c, hcb, hcs⟩ := (state_after_eq_stopped live before).1 hs
      exact hbefore c hcb hcs
    have hb : b = m.after (command :: rest) := by
      rw [← after_append, ← hsplit]
    rw [hb]
    exact ⟨.stopped m.state, stop_on_record hm hstop rest, rfl, rfl⟩

/-- A redirected registration, and a stop once the worker is a member. -/
theorem stop_of_a_member_is_on_record :
    let script : Script := { register := [{ act := .reply (.redirect "B") }] }
    let a := new ⟨"w", "c", ""⟩ {} 0 script "A"
    let m := a.after [{ action := .start }]
    let b := a.after [{ action := .start }, { action := .stop }]
    Event.logCount "registration redirected to leader" b.history = 1 ∧
    ∃ notice, .noticed 0 notice :: m.history <:+ b.history ∧
      notice.message = "membership agent stopped" ∧
      notice.details = [("from", .text "heartbeating")] := by
  intro script a m b
  obtain ⟨_, _, _, _, _, _, _, _, _, _, _, stopped⟩ := log_agrees_with_counters ⟨"w", "c", ""⟩ {} 0
    script "A" [{ action := .start }, { action := .stop }]
  have left : m.state = .heartbeating := by decide
  have now : m.now = 0 := by decide
  have line := stopped [{ action := .start }] { action := .stop } [] rfl rfl (by simp)
  refine ⟨by decide, ?_⟩
  rw [← now]
  have label : "heartbeating" = m.state.label := by rw [left]; rfl
  rw [label]
  exact line

end Agent
end ClusterMember
