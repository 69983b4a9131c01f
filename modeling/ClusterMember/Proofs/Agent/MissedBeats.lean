import ClusterMember.Proofs.Agent.Logbook

/-! # Heartbeats missed in a row

The task counts the heartbeats that it missed in a row, warns at every tenth and reports that it
recovered. The number is nowhere to be seen but in these lines; here it is read off the history, and
the lines are shown to stand exactly where it asks for them.

* `Answer.misses`: the answers that make a heartbeat a missed one.
* `Answer.sequel?_eq_stillMissing`, `Answer.sequel?_eq_recovered`: when a heartbeat is followed by a
  report.
* `Event.Chronicle.sequel_iff`: a report stands right after the heartbeat that asks for it.
* `Event.Chronicle.warning_iff`, `Event.Chronicle.recovery_iff`: the two reports in words.
* `Event.sinceAccepted`, `Event.Chronicle.warnings_eq`: the warnings since the last accepted heartbeat.
* `Agent.missed_beats_are_reported`: what follows for every session over a script.
-/

namespace ClusterMember
set_option autoImplicit false

namespace Answer

/-! ## One heartbeat -/

/-- The heartbeat was rejected or it failed. -/
def misses (answer : Answer) : Bool := answer.fails || answer.crashes

theorem misses_iff (answer : Answer) :
    answer.misses = true ↔ answer.accepts = false ∧ answer.leader? = none := by
  induction answer using byKind <;> simp [misses, fails, crashes, accepts, leader?, *]

theorem sequel?_eq_stillMissing {before missed : Nat} {answer : Answer} {reason : String} :
    answer.sequel? before = some (.stillMissing missed reason) ↔
      answer.misses = true ∧ 10 ∣ answer.missed before ∧ missed = answer.missed before ∧
        reason = answer.reason := by
  rw [misses_iff]
  unfold sequel? Answer.missed
  cases answer.accepts with
  | true =>
    by_cases hm : 0 < before <;> simp [hm]
  | false =>
    cases answer.leader? with
    | some leader => simp
    | none =>
      by_cases hm : (before + 1) % 10 = 0
      · simp [hm, Nat.dvd_of_mod_eq_zero hm, eq_comm]
      · simp [hm, Nat.dvd_iff_mod_eq_zero]

theorem sequel?_eq_recovered {before missed : Nat} {answer : Answer} :
    answer.sequel? before = some (.recovered missed) ↔
      answer.accepts = true ∧ 0 < before ∧ missed = before := by
  unfold sequel?
  cases answer.accepts with
  | true => by_cases hm : 0 < before <;> simp [hm, eq_comm]
  | false =>
    cases answer.leader? with
    | some leader => simp
    | none => by_cases hm : (before + 1) % 10 = 0 <;> simp [hm]

end Answer

namespace Notice

theorem eq_stillMissing {notice : Notice} (h : notice.message = "heartbeats still not landing") :
    ∃ missed reason, notice = .stillMissing missed reason := by
  cases notice with
  | stillMissing missed reason => exact ⟨missed, reason, rfl⟩
  | retrying endpoint fault wait =>
    by_cases transport : fault.isTransport <;> simp [message, transport] at h
  | _ => simp [message] at h

theorem eq_recovered {notice : Notice} (h : notice.message = "heartbeat recovered") :
    ∃ missed, notice = .recovered missed := by
  cases notice with
  | recovered missed => exact ⟨missed, rfl⟩
  | retrying endpoint fault wait =>
    by_cases transport : fault.isTransport <;> simp [message, transport] at h
  | _ => simp [message] at h

end Notice

namespace Event

/-! ## Where the reports stand -/

/-- A line of the log at some time, right after `earlier`. -/
def Logs (history earlier : List Event) (time : Nat) (level : Level) (headline : String)
    (details : List (String × FieldValue)) : Prop :=
  ∃ notice, noticed time notice :: earlier <:+ history ∧ notice.level = level ∧
    notice.message = headline ∧ notice.details = details

/-- The end of a heartbeat with the line that puts it on record. -/
def recorded (time : Nat) (call : Call) (answer : Answer) (earlier : List Event) : List Event :=
  noticed time (answer.beatNotice call.endpoint) :: completed time call answer :: earlier

theorem recorded_inj {time time' : Nat} {call call' : Call} {answer answer' : Answer}
    {earlier earlier' : List Event}
    (h : recorded time call answer earlier = recorded time' call' answer' earlier') :
    call = call' ∧ answer = answer' ∧ earlier = earlier' := by
  obtain ⟨hevent, hearlier⟩ := List.cons.inj (List.cons.inj h).2
  cases hevent
  exact ⟨rfl, rfl, hearlier⟩

theorem ending_of_beat {call : Call} (request : call.request.isRegister = false) (time : Nat)
    (answer : Answer) (wait : Duration) (earlier : List Event) :
    ending time call answer wait earlier =
      (answer.sequel? (missed earlier)).toList.map (noticed time) ++
        recorded time call answer earlier := by
  rw [ending, loopOf_beat request, Answer.notices, List.map_append, List.append_assoc]
  rfl

namespace Chronicle
variable {history : List Event}

theorem recorded_suffix (h : Chronicle history) {time : Nat} {call : Call} {answer : Answer}
    {earlier : List Event} (request : call.request.isRegister = false)
    (hs : completed time call answer :: earlier <:+ history) :
    (answer.sequel? (missed earlier)).toList.map (noticed time) ++
      recorded time call answer earlier <:+ history := by
  obtain ⟨wait, hended⟩ := h.block hs
  rwa [ending_of_beat request] at hended

/-- A line follows the record of a heartbeat exactly where the heartbeat asks for it. -/
theorem sequel_iff (h : Chronicle history) {time : Nat} {call : Call} {answer : Answer}
    {earlier : List Event} (request : call.request.isRegister = false)
    (hs : completed time call answer :: earlier <:+ history) {notice : Notice}
    (telling : notice.isAside = false) :
    noticed time notice :: recorded time call answer earlier <:+ history ↔
      answer.sequel? (missed earlier) = some notice := by
  constructor
  · intro hn
    have hline := h.line telling hn
    generalize hrec : recorded time call answer earlier = before at hline
    cases hline with
    | registration => cases (List.cons.inj hrec).1
    | beat => cases (List.cons.inj hrec).1
    | sequel _ told =>
      obtain ⟨rfl, rfl, rfl⟩ := recorded_inj hrec
      exact told
  · intro hn
    have hend := h.recorded_suffix request hs
    rwa [hn] at hend

/-- Where the warning stands, and what it says. -/
theorem warning_iff (h : Chronicle history) {time : Nat} {call : Call} {answer : Answer}
    {earlier : List Event} (request : call.request.isRegister = false)
    (hs : completed time call answer :: earlier <:+ history) {level : Level}
    {details : List (String × FieldValue)} :
    Logs history (recorded time call answer earlier) time level "heartbeats still not landing"
        details ↔
      (answer.misses = true ∧ 10 ∣ answer.missed (missed earlier)) ∧ level = .warn ∧
        details = [("missed", .number (answer.missed (missed earlier))),
          ("last_error", .text answer.reason)] := by
  constructor
  · rintro ⟨notice, hn, rfl, bears, rfl⟩
    obtain ⟨missed, reason, rfl⟩ := Notice.eq_stillMissing bears
    obtain ⟨hmisses, hten, rfl, rfl⟩ :=
      Answer.sequel?_eq_stillMissing.1 ((h.sequel_iff request hs rfl).1 hn)
    exact ⟨⟨hmisses, hten⟩, rfl, rfl⟩
  · rintro ⟨⟨hmisses, hten⟩, rfl, rfl⟩
    have told := Answer.sequel?_eq_stillMissing.2 ⟨hmisses, hten, rfl, rfl⟩
    exact ⟨_, (h.sequel_iff request hs rfl).2 told, rfl, rfl, rfl⟩

/-- Where the report of a recovery stands, and what it says. -/
theorem recovery_iff (h : Chronicle history) {time : Nat} {call : Call} {answer : Answer}
    {earlier : List Event} (request : call.request.isRegister = false)
    (hs : completed time call answer :: earlier <:+ history) {level : Level}
    {details : List (String × FieldValue)} :
    Logs history (recorded time call answer earlier) time level "heartbeat recovered" details ↔
      (answer.accepts = true ∧ 0 < missed earlier) ∧ level = .info ∧
        details = [("missed", .number (missed earlier))] := by
  constructor
  · rintro ⟨notice, hn, rfl, bears, rfl⟩
    obtain ⟨missed, rfl⟩ := Notice.eq_recovered bears
    obtain ⟨accepted, hpos, rfl⟩ :=
      Answer.sequel?_eq_recovered.1 ((h.sequel_iff request hs rfl).1 hn)
    exact ⟨⟨accepted, hpos⟩, rfl, rfl⟩
  · rintro ⟨⟨accepted, hpos⟩, rfl, rfl⟩
    have told := Answer.sequel?_eq_recovered.2 ⟨accepted, hpos, rfl⟩
    exact ⟨_, (h.sequel_iff request hs rfl).2 told, rfl, rfl, rfl⟩

/-- The reports stand nowhere else. -/
theorem report_follows (h : Chronicle history) {time : Nat} {notice : Notice} {earlier : List Event}
    (report : notice.message ∈ ["heartbeats still not landing", "heartbeat recovered"])
    (hs : noticed time notice :: earlier <:+ history) :
    ∃ call answer past, call.request.isRegister = false ∧ earlier = recorded time call answer past := by
  have hdisjoint (headlines : List String)
      (h : ∀ m ∈ headlines, m ∉ ["heartbeats still not landing", "heartbeat recovered"]) :
      notice.message ∉ headlines := fun hm => h _ hm report
  have telling : notice.isAside = false := by
    cases ha : notice.isAside with
    | false => rfl
    | true => exact absurd (Notice.message_of_aside ha) (hdisjoint _ (by decide))
  cases h.line telling hs with
  | registration _ told =>
    exact absurd (Notice.message_of_registration told) (hdisjoint _ (by decide))
  | @beat call answer past _ =>
    exact absurd (Notice.message_of_beat call.endpoint answer) (hdisjoint _ (by decide))
  | @sequel _ call answer past request _ => exact ⟨call, answer, past, request, rfl⟩

end Chronicle

/-! ## Between two accepted heartbeats -/

/-- What happened since the last accepted heartbeat ended. -/
def sinceAccepted : List Event → List Event
  | [] => []
  | e :: earlier => if isEnd false Answer.accepts e then [] else e :: sinceAccepted earlier

theorem sinceAccepted_noticed (time : Nat) (notices : List Notice) (earlier : List Event) :
    sinceAccepted (notices.map (noticed time) ++ earlier) =
      notices.map (noticed time) ++ sinceAccepted earlier := by
  induction notices with
  | nil => rfl
  | cons notice rest ih => exact congrArg _ ih

theorem sinceAccepted_append {stretch earlier : List Event} {time : Nat} {call : Call}
    {answer : Answer} (request : call.request.isRegister = false) (accepted : answer.accepts = true)
    (between : endCount false Answer.accepts stretch = 0) :
    sinceAccepted (stretch ++ completed time call answer :: earlier) = stretch := by
  induction stretch with
  | nil => simp [sinceAccepted, isEnd, request, accepted]
  | cons e stretch ih =>
    have hnone := List.countP_eq_zero.1 between
    have he : isEnd false Answer.accepts e = false := by simpa using hnone e List.mem_cons_self
    have hrest : endCount false Answer.accepts stretch = 0 :=
      List.countP_eq_zero.2 fun e he => hnone e (List.mem_cons_of_mem _ he)
    rw [List.cons_append, sinceAccepted, he, ih hrest]
    rfl

end Event

/-- Of the lines that an answer asks for, one at most is a warning. -/
theorem Answer.countP_warnings (loop : Loop) (called : String) (wait : Duration) (answer : Answer) :
    (answer.notices loop called wait).countP (·.message == "heartbeats still not landing") =
      if loop.isRegistering = false ∧ answer.misses = true ∧ 10 ∣ loop.missed + 1 then 1 else 0 := by
  have hnone {notice : Notice} {headlines : List String} (hn : notice.message ∈ headlines)
      (h : "heartbeats still not landing" ∉ headlines) :
      notice.message ≠ "heartbeats still not landing" := fun he => h (he ▸ hn)
  cases loop with
  | registering =>
    rw [List.countP_eq_zero.2]
    · rfl
    · intro notice hn
      have hm := Notice.message_of_registration (Option.mem_toList.1 hn)
      simpa using hnone hm (by decide)
  | beating before =>
    have hbeat := hnone (Notice.message_of_beat called answer) (by decide)
    rw [notices, List.countP_append, List.countP_singleton, if_neg (by simpa using hbeat)]
    simp only [Loop.isRegistering, Loop.missed, misses_iff, sequel?]
    cases answer.accepts with
    | true => by_cases hm : 0 < before <;> simp [hm, Notice.message]
    | false =>
      cases answer.leader? with
      | some leader => simp [Notice.message]
      | none =>
        by_cases hm : (before + 1) % 10 = 0 <;>
          simp [hm, Notice.message, Nat.dvd_iff_mod_eq_zero]

namespace Event

theorem missed_loopOf (call : Call) (earlier : List Event) (h : call.request.isRegister = false) :
    (loopOf call earlier).missed = missed earlier := by
  rw [loopOf_beat h, Loop.missed]

/-- Since the last accepted heartbeat as many were missed as the task counts, and there was one
warning for every ten of them. -/
theorem Chronicle.warnings_eq {history : List Event} (h : Chronicle history) :
    endCount false Answer.misses (sinceAccepted history) = missed history ∧
    logCount "heartbeats still not landing" (sinceAccepted history) = missed history / 10 := by
  induction h with
  | empty => exact ⟨rfl, rfl⟩
  | @aside earlier time notice aside before ih =>
    have hmessage : notice.message ≠ "heartbeats still not landing" := fun he =>
      absurd (he ▸ Notice.message_of_aside aside) (by decide)
    have hsince : sinceAccepted (noticed time notice :: earlier) =
        noticed time notice :: sinceAccepted earlier := rfl
    refine ⟨?_, ?_⟩
    · rw [hsince]
      exact (endCount_noticed false Answer.misses time [notice] _).trans ih.1
    · rw [hsince, logCount_noticed, if_neg hmessage]
      exact ih.2
  | @call earlier call before ih =>
    have hsince : sinceAccepted (called call :: earlier) = called call :: sinceAccepted earlier := rfl
    refine ⟨?_, ?_⟩
    · rw [hsince, endCount_called]
      exact ih.1
    · rw [hsince, logCount_called]
      exact ih.2
  | @ended earlier time call answer wait before ih =>
    obtain ⟨hmissed, hwarned⟩ := ih
    rw [ending, sinceAccepted_noticed, endCount_noticed, missed_noticed, logCount_append,
      logCount_map_noticed, Answer.countP_warnings, isRegistering_loopOf]
    cases hr : call.request.isRegister with
    | true =>
      have hsince : sinceAccepted (completed time call answer :: earlier) =
          completed time call answer :: sinceAccepted earlier := by
        simp [sinceAccepted, isEnd, hr]
      simp only [hsince, endCount_completed, logCount_completed, missed, hr, hmissed, hwarned,
        Bool.true_eq_false, false_and, if_true, if_false, Nat.add_zero, Nat.zero_add, and_self]
    | false =>
      rw [missed_loopOf call earlier hr]
      have hmisses := answer.misses_iff
      cases ha : answer.accepts with
      | true =>
        have hsince : sinceAccepted (completed time call answer :: earlier) = [] := by
          simp [sinceAccepted, isEnd, hr, ha]
        rw [hsince]
        simp [missed, hr, Answer.missed, ha, hmisses, endCount, logCount]
      | false =>
        have hsince : sinceAccepted (completed time call answer :: earlier) =
            completed time call answer :: sinceAccepted earlier := by
          simp [sinceAccepted, isEnd, hr, ha]
        rw [hsince, endCount_completed, logCount_completed, hmissed, hwarned]
        cases hl : answer.leader? with
        | some leader => simp [missed, hr, Answer.missed, ha, hl, hmisses]
        | none =>
          simp only [missed, hr, Answer.missed, ha, hl, hmisses, Option.isSome_none,
            Bool.false_eq_true, if_false, true_and, and_self, if_true]
          by_cases hten : 10 ∣ missed earlier + 1
          · rw [if_pos hten]
            omega
          · rw [if_neg hten]
            omega

end Event

namespace Agent

/-- What the log of any session over a script says of missed heartbeats, where `Event.missed` counts
those missed in a row. A heartbeat that was missed is followed at once by a warning if the number is
then a multiple of ten, with the number and the reason of this very heartbeat, and an accepted one by
a report if the number was not zero before it, with that number; nowhere else is either of them. Since
an accepted heartbeat, as long as no other one is accepted, there is one warning for every ten missed,
whatever redirects come between. -/
theorem missed_beats_are_reported (identity : Identity) (timings : Timings) (epoch : Int)
    (script : Script) (home : String) (commands : List Command) :
    let b := (new identity timings epoch script home).after commands
    (∀ time call answer earlier, .completed time call answer :: earlier <:+ b.history →
      call.request.isRegister = false →
      let before := Event.missed earlier
      let after := answer.missed before
      let record := Event.recorded time call answer earlier
      record <:+ b.history ∧
      (∀ level details,
        Event.Logs b.history record time level "heartbeats still not landing" details ↔
          (answer.misses = true ∧ 10 ∣ after) ∧ level = .warn ∧
            details = [("missed", .number after), ("last_error", .text answer.reason)]) ∧
      (∀ level details,
        Event.Logs b.history record time level "heartbeat recovered" details ↔
          (answer.accepts = true ∧ 0 < before) ∧ level = .info ∧
            details = [("missed", .number before)])) ∧
    (∀ time notice earlier, .noticed time notice :: earlier <:+ b.history →
      notice.message ∈ ["heartbeats still not landing", "heartbeat recovered"] →
      ∃ call answer past, call.request.isRegister = false ∧
        earlier = Event.recorded time call answer past) ∧
    (∀ later stretch time call answer earlier,
      later :: (stretch ++ .completed time call answer :: earlier) <:+ b.history →
      later.notice? = none → call.request.isRegister = false → answer.accepts = true →
      Event.endCount false Answer.accepts stretch = 0 →
      Event.logCount "heartbeats still not landing" stretch =
        Event.endCount false Answer.misses stretch / 10) := by
  intro b
  have hist : Event.Chronicle b.history := chronicle_after identity timings epoch script home commands
  refine ⟨?_, ?_, ?_⟩
  · intro time call answer earlier hs request before after record
    have hend := hist.recorded_suffix request hs
    exact ⟨(List.suffix_append _ _).trans hend, fun level details => hist.warning_iff request hs,
      fun level details => hist.recovery_iff request hs⟩
  · intro time notice earlier hs report
    exact hist.report_follows report hs
  · intro later stretch time call answer earlier hs hlater request accepted between
    obtain ⟨hmissed, hwarned⟩ := (hist.before hlater hs).warnings_eq
    rw [Event.sinceAccepted_append request accepted between] at hmissed hwarned
    rw [hwarned, hmissed]

/-- The tenth of ten heartbeats that are refused. -/
theorem tenth_missed_beat_is_reported :
    let script : Script := { heartbeatDefault := { act := .reply (.reject "busy") } }
    let b := (new ⟨"w", "c", ""⟩ {} 0 script "A").after
      [{ action := .start }, { action := .advance 45000 }]
    Event.endCount false Answer.misses b.history = 10 ∧
    Event.Logs b.history (b.history.drop 1) 45000 .warn "heartbeats still not landing"
      [("missed", .number 10), ("last_error", .text "busy")] := by
  intro script b
  let call : Call := ⟨45000, "A", .heartbeat "w", .ofSecs 3⟩
  let answer : Answer := .reply (.reject "busy")
  have ended : b.history = b.history.take 2 ++ .completed 45000 call answer :: b.history.drop 3 := by
    decide +kernel
  have record : b.history.drop 1 = Event.recorded 45000 call answer (b.history.drop 3) := by
    decide +kernel
  have before : Event.missed (b.history.drop 3) = 9 := by decide +kernel
  obtain ⟨_, warned, _⟩ := (missed_beats_are_reported ⟨"w", "c", ""⟩ {} 0 script "A"
    [{ action := .start }, { action := .advance 45000 }]).1 45000 call answer _ ⟨_, ended.symm⟩ rfl
  refine ⟨by decide +kernel, ?_⟩
  rw [record]
  refine (warned _ _).2 ⟨⟨rfl, ?_⟩, rfl, ?_⟩
  · rw [before]
    decide
  · rw [before]
    rfl

end Agent
end ClusterMember
