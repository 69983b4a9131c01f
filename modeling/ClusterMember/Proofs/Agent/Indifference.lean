import ClusterMember.Agent.Script
import ClusterMember.Proofs.Agent.Lockstep
import Mathlib.Data.List.Forall2

/-! # What an agent is indifferent to

Who the worker is, the texts of refusals and faults, the kinds of faults, and for a heartbeat also
what became of a client that broke down: all of this is noted down and none of it steers the agent.

* `Act.effect?`, `Script.Alike`: scripts that act to the same effect, step by step.
* `Script.mirrors`: such scripts answer like calls alike.
* `Notice.verdict?`, `Agent.verdictsSince`: what an agent noted down of the replies it got.
* `Agent.verdicts_complete_registering`, `Agent.verdicts_complete_beating`: both loops read a reply
  alike.
* `Agent.only_effects_steer`: two workers over such scripts.
-/

namespace ClusterMember
set_option autoImplicit false

/-! ## Scripts to the same effect -/

/-- What an agent makes of an act, if it is an answer at all. -/
def Act.effect? (register : Bool) : Act → Option Effect
  | .reply r => some ((Answer.reply r).effect register)
  | .fail fault | .failHere fault => some ((Answer.fault fault).effect register)
  | .crash cause => some ((Answer.crash cause).effect register)
  | .hang => none

structure Step.Alike (register : Bool) (s t : Step) : Prop where
  delay : s.delay = t.delay
  effect : s.act.effect? register = t.act.effect? register

/-- Two scripts whose steps agree, one by one, in delay and effect. -/
structure Script.Alike (s t : Script) : Prop where
  register : List.Forall₂ (Step.Alike true) s.register t.register
  heartbeat : List.Forall₂ (Step.Alike false) s.heartbeat t.heartbeat
  registerDefault : Step.Alike true s.registerDefault t.registerDefault
  heartbeatDefault : Step.Alike false s.heartbeatDefault t.heartbeatDefault

theorem Step.effect_handling (register : Bool) (endpoint : String) (step : Step) :
    (step.handling endpoint).answer.map (Answer.effect register) = step.act.effect? register := by
  obtain ⟨delay, act⟩ := step
  cases act <;> rfl

/-- How a call ends depends on no more of an answer than its effect; a late one is a failure. -/
theorem Handling.result_effect (register : Bool) (handling : Handling) (call : Call) :
    ((handling.result call).1, (handling.result call).2.effect register) =
      match handling.answer.map (Answer.effect register) with
      | some effect =>
        if handling.delay ≤ call.limit.millis then (handling.delay, effect)
        else (call.limit.millis, .failed)
      | none => (call.limit.millis, .failed) := by
  obtain ⟨delay, answer, notices⟩ := handling
  cases answer with
  | none => rfl
  | some answer =>
    simp only [result, Option.map_some]
    split <;> rfl

theorem Step.Alike.result {register : Bool} {s t : Step} (h : s.Alike register t) {c d : Call}
    (limit : c.limit = d.limit) :
    let x := (s.handling c.endpoint).result c
    let y := (t.handling d.endpoint).result d
    x.1 = y.1 ∧ x.2.effect register = y.2.effect register := by
  have hdelay : (s.handling c.endpoint).delay = (t.handling d.endpoint).delay :=
    congrArg (min · Duration.longestWait) h.delay
  have hresult := Handling.result_effect register (s.handling c.endpoint) c
  rw [Step.effect_handling, h.effect, ← Step.effect_handling register d.endpoint t, hdelay, limit,
    ← Handling.result_effect register (t.handling d.endpoint) d] at hresult
  exact Prod.ext_iff.1 hresult

theorem Script.Alike.next {s t : Script} (h : s.Alike t) {r r' : Request}
    (same : r.isRegister = r'.isRegister) :
    (s.next r).1.Alike r.isRegister (t.next r').1 ∧ (s.next r).2.Alike (t.next r').2 := by
  obtain ⟨register, heartbeat, registerDefault, heartbeatDefault⟩ := s
  obtain ⟨register', heartbeat', registerDefault', heartbeatDefault'⟩ := t
  cases r with
  | register =>
    cases r' with
    | heartbeat => cases same
    | register =>
      obtain ⟨steps, beats, last, lastBeat⟩ := h
      cases steps with
      | nil => exact ⟨last, .nil, beats, last, lastBeat⟩
      | cons first rest => exact ⟨first, rest, beats, last, lastBeat⟩
  | heartbeat =>
    cases r' with
    | register => cases same
    | heartbeat =>
      obtain ⟨steps, beats, last, lastBeat⟩ := h
      cases beats with
      | nil => exact ⟨lastBeat, steps, .nil, last, lastBeat⟩
      | cons first rest => exact ⟨first, steps, rest, last, lastBeat⟩

theorem Script.mirrors : ControlPlane.Mirrors Request.isRegister Script.Alike where
  unread := fun {s t} h => by
    show s.register.length + s.heartbeat.length = t.register.length + t.heartbeat.length
    rw [h.register.length_eq, h.heartbeat.length_eq]
  handle := fun {s t c d} h seen => by
    obtain ⟨-, -, limit, same⟩ : c.time = d.time ∧ c.endpoint = d.endpoint ∧ c.limit = d.limit ∧
        c.request.isRegister = d.request.isRegister := by simpa [Call.seen] using seen
    obtain ⟨hstep, hrest⟩ := h.next same
    obtain ⟨hspan, heffect⟩ := hstep.result limit
    exact ⟨hrest, hspan, heffect⟩

/-! ## Replies -/

/-- What a notice says about a reply. -/
def Notice.verdict? : Notice → Option Verdict
  | registered _ | beatAccepted _ => some .accepted
  | registrationRedirected leader _ | beatRedirected leader _ => some (.redirected leader)
  | retrying _ (.rejected reason) _ | beatRejected _ reason => some (.rejected reason)
  | _ => none

/-- What an event tells about a reply. -/
def Event.verdict? : Event → Option Verdict
  | noticed _ notice => notice.verdict?
  | called _ | completed .. => none

namespace Agent

/-- What was noted down about replies after the first `seen` events. -/
def verdictsSince {σ : Type} (seen : Nat) (a : Agent σ) : List Verdict :=
  (a.eventsSince seen).filterMap Event.verdict?

section Verdicts
variable {σ : Type} {a : Agent σ}

theorem verdictsSince_of_append (events : List Event) {b : Agent σ}
    (h : b.history = events ++ a.history) :
    b.verdictsSince a.history.length = events.reverse.filterMap Event.verdict? := by
  rw [verdictsSince, eventsSince_of_append h]

variable (reply : Reply) (call : Call) (due : Nat)

/-- A registration tells of a reply by its verdict. -/
theorem verdicts_complete_registering :
    (a.complete .registering ⟨call, due, .reply reply⟩).verdictsSince a.history.length =
      [reply.verdict] := by
  cases hok : reply.ok with
  | true =>
    have hv := Reply.verdict_of_ok hok
    by_cases hs : a.state = .stopped
    · rw [verdictsSince_of_append
        [.noticed a.now (.registered call.endpoint), .completed a.now call (.reply reply)]
        (by simp [complete, completeRegistration, hv, enterHeartbeats, note, hs]), hv]
      rfl
    · rw [verdictsSince_of_append
        [.noticed a.now (.beatsStarted a.endpoint a.timings.heartbeatInterval),
          .noticed a.now (.registered call.endpoint), .completed a.now call (.reply reply)]
        (by simp [complete, completeRegistration, hv, enterHeartbeats, note, hs]), hv]
      rfl
  | false =>
    by_cases hl : reply.leaderAddr = ""
    · have hv := Reply.verdict_of_refusal hok hl
      rw [verdictsSince_of_append
        [.noticed a.now (.retrying call.endpoint (.rejected reply.error) a.timings.retryDelay),
          .completed a.now call (.reply reply)]
        (by simp [complete, completeRegistration, hv, retry, wait, note]), hv]
      rfl
    · have hv := Reply.verdict_of_leader hok hl
      rw [verdictsSince_of_append
        [.noticed a.now (.registrationRedirected reply.leaderAddr call.endpoint),
          .completed a.now call (.reply reply)]
        (by simp [complete, completeRegistration, hv, follow, note]), hv]
      rfl

/-- What a missed heartbeat has noted down about it tells nothing more about the reply. -/
theorem verdicts_miss (missed : Nat) (reason : String) (seen : Nat)
    (old : seen ≤ a.history.length) :
    (a.miss missed reason).verdictsSince seen = a.verdictsSince seen := by
  by_cases tenth : (missed + 1) % 10 = 0
  · have hnew : (a.miss missed reason).history =
        .noticed a.now (.stillMissing (missed + 1) reason) :: a.history := by
      simp [miss, tenth, wait, note]
    have hafter : (a.miss missed reason).eventsSince seen =
        a.eventsSince seen ++ [.noticed a.now (.stillMissing (missed + 1) reason)] := by
      rw [eventsSince, eventsSince, hnew, List.length_cons, Nat.succ_sub old, List.take_succ_cons,
        List.reverse_cons]
    rw [verdictsSince, hafter, List.filterMap_append]
    exact List.append_nil _
  · have hsame : (a.miss missed reason).history = a.history := by simp [miss, tenth, wait]
    rw [verdictsSince, verdictsSince, eventsSince, eventsSince, hsame]

/-- A heartbeat tells of the fields of a reply what a registration would. -/
theorem verdicts_complete_beating (missed : Nat) :
    (a.complete (.beating missed) ⟨call, due, .reply reply⟩).verdictsSince a.history.length =
      [reply.verdict] := by
  cases hok : reply.ok with
  | true =>
    have hv := Reply.verdict_of_ok hok
    by_cases hm : 0 < missed
    · rw [verdictsSince_of_append
        [.noticed a.now (.recovered missed), .noticed a.now (.beatAccepted call.endpoint),
          .completed a.now call (.reply reply)]
        (by simp [complete, completeBeat, hok, hm, wait, note]), hv]
      rfl
    · rw [verdictsSince_of_append
        [.noticed a.now (.beatAccepted call.endpoint), .completed a.now call (.reply reply)]
        (by simp [complete, completeBeat, hok, hm, wait, note]), hv]
      rfl
  | false =>
    by_cases hl : reply.leaderAddr = ""
    · have hv := Reply.verdict_of_refusal hok hl
      simp only [complete, completeBeat, hok, hl, Bool.false_eq_true, if_false, ne_eq,
        not_true_eq_false]
      rw [verdicts_miss _ _ _ (by simp [note]; omega), verdictsSince_of_append
        [.noticed a.now (.beatRejected call.endpoint reply.error), .completed a.now call (.reply reply)]
        (by simp [note]), hv]
      rfl
    · have hv := Reply.verdict_of_leader hok hl
      rw [verdictsSince_of_append
        [.noticed a.now (.nextBeat reply.leaderAddr),
          .noticed a.now (.beatRedirected reply.leaderAddr call.endpoint),
          .completed a.now call (.reply reply)]
        (by simp [complete, completeBeat, hok, hl, follow, wait, note]), hv]
      rfl

/-- Either loop calls the leader that a reply names from then on, and else stays where it is. -/
theorem endpoint_complete (loop : Loop) :
    (a.complete loop ⟨call, due, .reply reply⟩).endpoint =
      match reply.verdict with
      | .redirected leader => leader
      | .accepted | .rejected _ => a.endpoint := by
  obtain ⟨notices, h⟩ := complete_eq loop ⟨call, due, .reply reply⟩ a
  rw [h]
  show (Answer.reply reply).leader?.getD a.endpoint = _
  cases hok : reply.ok with
  | true => simp [Answer.leader?, hok, Reply.verdict_of_ok hok]
  | false =>
    by_cases hl : reply.leaderAddr = ""
    · simp [Answer.leader?, hl, Reply.verdict_of_refusal hok hl]
    · simp [Answer.leader?, hok, hl, Reply.verdict_of_leader hok hl]

end Verdicts

/-! ## Two workers -/

/-- Two workers that have nothing in common but their timings, their first endpoint and the time of
day, each with a script of its own. If the scripts act to the same effect, then after each command of
any session both workers are in the same state at the same endpoint with the same counters, and in
between they made the same kinds of calls, at the same times, to the same endpoints and with the same
limits. The two loops read a reply in two places, and both read the same out of it. -/
theorem only_effects_steer (identity identity' : Identity) (timings : Timings) (epoch : Int)
    (home : String) {script script' : Script} (alike : script.Alike script')
    (commands : List Command) :
    ((new identity timings epoch script home).session commands).map
        (Report.outline Request.isRegister) =
      ((new identity' timings epoch script' home).session commands).map
        (Report.outline Request.isRegister) ∧
    ∀ (reply : Reply) (a b : Agent Script) (call call' : Call) (due due' missed : Nat),
      let registered := a.complete .registering ⟨call, due, .reply reply⟩
      let beaten := b.complete (.beating missed) ⟨call', due', .reply reply⟩
      registered.verdictsSince a.history.length = [reply.verdict] ∧
      beaten.verdictsSince b.history.length = [reply.verdict] ∧
      (a.endpoint = b.endpoint → registered.endpoint = beaten.endpoint) := by
  constructor
  · have start : (new identity timings epoch script home).Alike Request.isRegister Script.Alike
        (new identity' timings epoch script' home) :=
      { timings := rfl, epoch := rfl, now := rfl, endpoint := rfl, state := rfl, counters := rfl
        asks := fun loop => by cases loop <;> rfl
        task := .same _, plane := alike, calls := rfl }
    exact start.session Script.mirrors commands
  · intro reply a b call call' due due' missed registered beaten
    refine ⟨verdicts_complete_registering reply call due,
      verdicts_complete_beating reply call' due' missed, fun h => ?_⟩
    rw [endpoint_complete, endpoint_complete, h]

/-- A refusal and a broken connection, then two redirects to one leader that say different things, and
a client that breaks down where the other one's call fails. -/
theorem words_steer_no_one :
    let mine : Script :=
      { register := [{ act := .reply (.reject "full") }, { act := .reply ⟨false, "B", ""⟩ }]
        heartbeat := [{ act := .crash (.withText "boom") }] }
    let yours : Script :=
      { register := [{ act := .failHere (.transport "" "gone") },
          { act := .reply ⟨false, "B", "moved"⟩ }]
        heartbeat := [{ act := .fail (.timeout "C" (.ofSecs 9)) }] }
    let commands : List Command := [⟨.start, true⟩, ⟨.advance 5000, true⟩]
    ((new ⟨"w", "c", ""⟩ {} 0 mine "A").session commands).map
        (Report.outline Request.isRegister) =
      ((new ⟨"v", "d", "v:1"⟩ {} 0 yours "A").session commands).map
        (Report.outline Request.isRegister) ∧
    ((new ⟨"w", "c", ""⟩ {} 0 mine "A").after commands).endpoint = "B" := by
  intro mine yours commands
  have alike : mine.Alike yours :=
    { register := .cons ⟨rfl, rfl⟩ (.cons ⟨rfl, rfl⟩ .nil)
      heartbeat := .cons ⟨rfl, rfl⟩ .nil
      registerDefault := ⟨rfl, rfl⟩, heartbeatDefault := ⟨rfl, rfl⟩ }
  exact ⟨(only_effects_steer _ _ {} 0 "A" alike commands).1, by decide +kernel⟩

end Agent
end ClusterMember
