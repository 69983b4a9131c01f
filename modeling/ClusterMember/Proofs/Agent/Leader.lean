import ClusterMember.Proofs.Agent.History
import ClusterMember.Proofs.Agent.Schedule

/-! # Where the leader is believed to be

An agent calls the endpoint that it believes to be the leader's. Both loops follow redirects, each in
its own place; that they agree is read off the history of a run.

* `Event.lastLeader`: the leader named by the last redirect of a history.
* `Script.ending`: when and how a call ends, as the script lays down.
* `Agent.Reaches.endpoint_eq`: the endpoint is the leader named last.
* `Agent.Reaches.scripted`, `Agent.Reaches.ended_of_due`: calls end as the script lays down, and
  none that is due is left unanswered.
* `Agent.endpoint_is_last_leader`: all this, for every session over a script.
-/

namespace ClusterMember
set_option autoImplicit false

namespace Event

/-- The leader that was named last, or `home` if none ever was. -/
def lastLeader (home : String) : List Event → String
  | [] => home
  | completed _ _ answer :: earlier => answer.leader?.getD (lastLeader home earlier)
  | called _ :: earlier => lastLeader home earlier
  | noticed .. :: earlier => lastLeader home earlier

@[simp] theorem lastLeader_noticed (home : String) (time : Nat) (notices : List Notice)
    (earlier : List Event) :
    lastLeader home (notices.map (noticed time) ++ earlier) = lastLeader home earlier := by
  induction notices with
  | nil => rfl
  | cons notice rest ih => exact ih

end Event

namespace Script

/-- The step for a call that `made` calls of its kind went before. -/
def stepFor (register : Bool) (made : Nat) (script : Script) : Step :=
  if register then script.register.getD made script.registerDefault
  else script.heartbeat.getD made script.heartbeatDefault

/-- When a call ends that was made after `earlier`, and with which answer. -/
def ending (script : Script) (earlier : List Event) (call : Call) : Nat × Answer :=
  let register := call.request.isRegister
  let step := script.stepFor register (Event.callCount register earlier)
  let result := (step.handling call.endpoint).result call
  (call.time + result.1, result.2)

/-- What is left of a script after so many calls of each kind. -/
def rest (registers beats : Nat) (script : Script) : Script :=
  { script with
    register := script.register.drop registers
    heartbeat := script.heartbeat.drop beats }

theorem next_rest_register {request : Request} (h : request.isRegister = true)
    (registers beats : Nat) (script : Script) :
    (script.rest registers beats).next request =
      (script.stepFor true registers, script.rest (registers + 1) beats) := by
  cases request with
  | heartbeat => cases h
  | register =>
    simp only [next, rest, stepFor, ← List.drop_drop, List.getD_eq_getElem?_getD, ← List.head?_drop]
    cases script.register.drop registers <;> rfl

theorem next_rest_heartbeat {request : Request} (h : request.isRegister = false)
    (registers beats : Nat) (script : Script) :
    (script.rest registers beats).next request =
      (script.stepFor false beats, script.rest registers (beats + 1)) := by
  cases request with
  | register => cases h
  | heartbeat =>
    simp only [next, rest, stepFor, ← List.drop_drop, List.getD_eq_getElem?_getD, ← List.head?_drop]
    cases script.heartbeat.drop beats <;> rfl

end Script

namespace Agent

/-! ## The endpoint -/

section Endpoint
variable {σ : Type} [ControlPlane σ]

theorem Reaches.endpoint_eq {a b : Agent σ} (h : Reaches a b) {home : String}
    (ha : a.endpoint = Event.lastLeader home a.history) :
    b.endpoint = Event.lastLeader home b.history := by
  refine h.keeps ha fun _ hc hb => ?_
  cases hc.change with
  | step taken =>
    cases taken with
    | call =>
      rw [Event.lastLeader_noticed]
      exact hb
    | @answer loop pending notices =>
      rw [Event.lastLeader_noticed]
      exact congrArg (pending.answer.leader?.getD ·) hb
    | leave =>
      rw [Event.lastLeader_noticed]
      exact hb
    | _ => exact hb
  | _ => exact hb

end Endpoint

/-! ## Calls over a script -/

/-- An agent whose calls so far were handled by a script. -/
structure Scripted (script : Script) (a : Agent Script) : Prop where
  plane : a.plane = script.rest (Event.callCount true a.history) (Event.callCount false a.history)
  ending : ∀ loop pending earlier, a.task = .calling loop pending →
    Event.outstanding a.history = some (pending.call, earlier) →
    (pending.due, pending.answer) = script.ending earlier pending.call

/-- A script handles each call by the step for it, and notes nothing down. -/
theorem Scripted.handle {script : Script} {a : Agent Script} (h : a.Scripted script) (call : Call) :
    ControlPlane.handle call a.plane =
      ((script.stepFor call.request.isRegister
          (Event.callCount call.request.isRegister a.history)).handling call.endpoint,
        script.rest (Event.callCount true (.called call :: a.history))
          (Event.callCount false (.called call :: a.history))) := by
  have e (p : Script) : ControlPlane.handle call p =
      ((p.next call.request).1.handling call.endpoint, (p.next call.request).2) := rfl
  rw [e, h.plane, Event.callCount_called, Event.callCount_called]
  cases hr : call.request.isRegister with
  | true => rw [Script.next_rest_register hr]; rfl
  | false => rw [Script.next_rest_heartbeat hr]; rfl

theorem Scripted.stride {script : Script} {a b : Agent Script} (h : a.Scripted script)
    (hs : Stride a b) : b.Scripted script := by
  cases hs with
  | enter => exact ⟨h.plane, by simp⟩
  | @call loop =>
    refine ⟨?_, ?_⟩
    · rw [Event.callCount_noticed, Event.callCount_noticed, called, h.handle]
    · intro loop' pending earlier calling outstanding
      cases calling
      rw [Event.outstanding_noticed] at outstanding
      cases outstanding
      show (_, _) = script.ending a.history (a.nextCall loop)
      simp only [placed, h.handle, Script.ending, nextCall_time]
  | answer =>
    refine ⟨?_, fun loop' pending' earlier calling => ?_⟩
    · rw [Event.callCount_noticed, Event.callCount_noticed]
      exact h.plane
    · exact absurd calling (taskAfter_ne_calling _ _ _ _ _)
  | wake => exact ⟨h.plane, by simp⟩
  | leave =>
    refine ⟨?_, by simp⟩
    rw [Event.callCount_noticed, Event.callCount_noticed]
    exact h.plane

theorem Scripted.change {script : Script} {a b : Agent Script} (h : a.Scripted script)
    (hc : Change a b) : b.Scripted script := by
  cases hc with
  | start => exact ⟨h.plane, by simp⟩
  | stop => exact ⟨h.plane, h.ending⟩
  | again => exact h
  | step taken => exact h.stride taken
  | pass => exact ⟨h.plane, h.ending⟩

theorem Reaches.scripted {script : Script} {a b : Agent Script} (h : Reaches a b)
    (ha : a.Scripted script) : b.Scripted script := by
  refine h.keeps ha fun _ hc hb => hb.change hc.change

theorem scripted_new (identity : Identity) (timings : Timings) (epoch : Int) (script : Script)
    (home : String) : (new identity timings epoch script home).Scripted script where
  plane := rfl
  ending := by simp [new]

/-- The end of a call, read off the moment at which it stands in the history. -/
theorem Reaches.ending_eq {script : Script} {a b : Agent Script} (h : Reaches a b)
    (coherent : a.Coherent) (scripted : a.Scripted script) (unwritten : a.history = [])
    {time : Nat} {call : Call} {answer : Answer} {earlier : List Event}
    (hs : .completed time call answer :: earlier <:+ b.history) :
    ∃ before loop, Event.outstanding earlier = some (call, before) ∧
      (time, answer) = script.ending before call ∧ call.limit = a.timings.limit loop ∧
      call.request.isRegister = loop.isRegistering := by
  obtain ⟨m, ham, _, rfl, loop, due, calling, hdue, rfl⟩ := h.moment unwritten rfl hs
  have hm := (ham.coherent coherent).inFlight loop _ calling
  obtain ⟨before, hbefore⟩ := hm.outstanding
  have hlimit : call.limit = a.timings.limit loop :=
    hm.limit.trans (congrArg (Timings.limit · loop) ham.timings_eq)
  refine ⟨before, loop, hbefore, ?_, hlimit, hm.request⟩
  rw [Nat.le_antisymm hm.now_le_due hdue]
  exact (ham.scripted scripted).ending loop _ before calling hbefore

/-- A call that is still outstanding once the task has done all it can is not due. -/
theorem lt_ending_of_blocked {script : Script} {b : Agent Script} (coherent : b.Coherent)
    (scripted : b.Scripted script) (blocked : b.step? = none) {call : Call} {earlier : List Event}
    (outstanding : Event.outstanding b.history = some (call, earlier)) :
    b.now < (script.ending earlier call).1 := by
  have inFlight : ∃ loop pending, b.task = .calling loop pending := by
    by_contra idle
    have none := coherent.idle fun loop pending calling => idle ⟨loop, pending, calling⟩
    cases none.symm.trans outstanding
  obtain ⟨loop, pending, calling⟩ := inFlight
  obtain ⟨before, current⟩ := (coherent.inFlight loop pending calling).outstanding
  cases current.symm.trans outstanding
  rw [← scripted.ending loop pending earlier calling outstanding]
  exact lt_of_nextDue blocked (by rw [nextDue, calling])

/-- A call that is due came to its end, once the task has done all it can. -/
theorem Reaches.ended_of_due {script : Script} {a b : Agent Script} (h : Reaches a b)
    (coherent : a.Coherent) (scripted : a.Scripted script) (unwritten : a.history = [])
    (blocked : b.step? = none) {call : Call} {earlier : List Event}
    (made : .called call :: earlier <:+ b.history)
    (due : (script.ending earlier call).1 ≤ b.now) :
    ∃ past, Event.outstanding past = some (call, earlier) ∧
      .completed (script.ending earlier call).1 call (script.ending earlier call).2 :: past <:+
        b.history := by
  have accounted : Event.Accounted b.history :=
    h.accounted coherent (unwritten ▸ Event.accounted_nil)
  rcases accounted call earlier made with now | ended
  · have early := lt_ending_of_blocked (h.coherent coherent) (h.scripted scripted) blocked now
    exact absurd due (Nat.not_le_of_lt early)
  · obtain ⟨time, answer, past, hend, hpast⟩ := ended
    obtain ⟨before, _, hbefore, hending, _⟩ := h.ending_eq coherent scripted unwritten hend
    cases hpast.symm.trans hbefore
    rw [← hending]
    exact ⟨past, hpast, hend⟩

/-- At every moment of every session the endpoint is the leader named by the last answer that named
one in time, and the first endpoint before that. Each call went to the endpoint of its moment. It
ended when and how its step lays down: the leader that its answer names, if any, is the one that the
step names within the time limit of the call. And where the task has done all it can, no call is
left whose end is due. -/
theorem endpoint_is_last_leader (identity : Identity) (timings : Timings) (epoch : Int)
    (script : Script) (home : String) (commands : List Command) :
    let a := new identity timings epoch script home
    let b := a.after commands
    b.endpoint = Event.lastLeader home b.history ∧
    (∀ call earlier, .called call :: earlier <:+ b.history →
      ∃ m, Reaches a m ∧ Reaches m b ∧ m.history = earlier ∧ m.now = call.time ∧
        call.endpoint = m.endpoint ∧ m.endpoint = Event.lastLeader home earlier) ∧
    (∀ time call answer earlier, .completed time call answer :: earlier <:+ b.history →
      ∃ before, Event.outstanding earlier = some (call, before) ∧
        (time, answer) = script.ending before call ∧
        let register := call.request.isRegister
        let step := script.stepFor register (Event.callCount register before)
        call.limit = (if register then timings.registerTimeout else timings.heartbeatTimeout) ∧
        time = call.time + step.span call.limit.millis ∧
        answer.leader? = step.leader? call.limit.millis) ∧
    (b.step? = none → ∀ call earlier, .called call :: earlier <:+ b.history →
      let ending := script.ending earlier call
      ending.1 ≤ b.now →
        ∃ past, Event.outstanding past = some (call, earlier) ∧
          .completed ending.1 call ending.2 :: past <:+ b.history) := by
  intro a b
  have hab : Reaches a b := reaches_after commands a
  have coherent : a.Coherent := coherent_new _ _ _ _ _
  have scripted : a.Scripted script := scripted_new _ _ _ _ _
  refine ⟨hab.endpoint_eq rfl, ?_, ?_, ?_⟩
  · intro call earlier hs
    obtain ⟨m, ham, hmb, rfl, loop, turn, live, rfl⟩ := hab.moment rfl rfl hs
    exact ⟨m, ham, hmb, rfl, (nextCall_time loop m).symm, nextCall_endpoint loop m,
      ham.endpoint_eq rfl⟩
  · intro time call answer earlier hs
    obtain ⟨before, loop, hbefore, hend, hlimit, hrequest⟩ :=
      hab.ending_eq coherent scripted rfl hs
    obtain ⟨hspan, hleader, _⟩ := Step.result_handling call.endpoint call
      (script.stepFor call.request.isRegister (Event.callCount call.request.isRegister before))
    refine ⟨before, hbefore, hend, ?_, ?_, ?_⟩
    · rw [hlimit, hrequest]
      cases loop <;> rfl
    · exact (congrArg Prod.fst hend).trans (congrArg _ hspan)
    · exact (congrArg (fun e => e.2.leader?) hend).trans hleader
  · intro blocked call earlier made ending due
    exact hab.ended_of_due coherent scripted rfl blocked made due

end Agent
end ClusterMember
