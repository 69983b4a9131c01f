import ClusterMember.Proofs.Agent.Lockstep
import ClusterMember.Proofs.Network.Oracle

/-! # An agent over the network

An agent that makes its calls over a channel does the same as one that makes them to the sites of the
network, and the same as one that opens a connection for every call.

* `Agent.Served`: a control plane that has handled the calls of an agent, and no others.
* `Channel.mirrors`, `Network.mirrors`: with or without a channel, calls are answered as by the sites.
* `Agent.SameCourse`: two agents that have done the same.
* `Agent.channel_refines_oracle`: the three agents do.
-/

namespace ClusterMember
set_option autoImplicit false

/-! ## What a control plane has handled -/

namespace Agent
section Served
variable {σ : Type} [ControlPlane σ] {plane : σ} {a b : Agent σ}

/-- The control plane of an agent was `plane` before it handled the agent's calls, one by one. -/
def Served (plane : σ) (a : Agent σ) : Prop :=
  a.plane = (a.history.filterMap Event.call?).foldr
    (fun call plane => (ControlPlane.handle call plane).2) plane

theorem Served.stride (h : a.Served plane) (hs : Stride a b) : b.Served plane := by
  cases hs with
  | enter => exact h
  | wake => exact h
  | call =>
    unfold Served at h ⊢
    rw [Event.filterMap_call?_noticed, List.filterMap_cons]
    simp only [Event.call?, List.foldr_cons]
    rw [← h]
  | answer =>
    unfold Served at h ⊢
    rw [answered, Event.filterMap_call?_noticed]
    exact h
  | leave =>
    unfold Served at h ⊢
    rw [Event.filterMap_call?_noticed]
    exact h

theorem Reaches.served (hr : Reaches a b) (h : a.Served plane) : b.Served plane := by
  refine hr.keeps h fun _ hc hb => ?_
  cases hc.change with
  | step taken => exact hb.stride taken
  | _ => exact hb

theorem Served.runUntil (h : a.Served plane) (done : Agent σ → Bool) (moments : Nat) :
    (a.runUntil done moments).Served plane := by
  -- Time alone changes neither the plane nor the history, whether or not the task is blocked.
  induction moments generalizing a with
  | zero => exact (reaches_settle a).served h
  | succ moments ih =>
    have hb := (reaches_settle a).served h
    unfold Agent.runUntil
    split
    · exact hb
    · split
      · exact hb
      · next due _ => exact ih (a := { a.settle with now := max a.now due }) hb

end Served
end Agent

/-! ## Calls with and without a channel -/

/-- A channel that is where some log says, next to the sites of its network. -/
def Channel.Shadows (network : Network) (channel : Channel) (oracle : Oracle) : Prop :=
  (∃ log, channel.Agrees network log) ∧ channel.network.oracle = oracle

theorem Channel.mirrors (network : Network) :
    ControlPlane.Mirrors id (Channel.Shadows network) := by
  refine ControlPlane.mirrors_of_result ?_ ?_
  · rintro channel oracle ⟨_, rfl⟩
    exact channel.network.unread_oracle.symm
  · rintro channel oracle call ⟨⟨log, agrees⟩, rfl⟩
    obtain ⟨hresult, horacle⟩ := exchange_eq agrees.sound call
    exact ⟨hresult, ⟨_, agrees.next call⟩, horacle⟩

theorem Network.mirrors :
    ControlPlane.Mirrors id fun (network : Network) oracle => network.oracle = oracle := by
  refine ControlPlane.mirrors_of_result ?_ ?_
  · rintro network oracle rfl
    exact network.unread_oracle.symm
  · rintro network oracle call rfl
    exact callOnce_eq call network

/-! ## Calls of an agent, and requests at the nodes -/

theorem Channel.foldr_handle (network : Network) (calls : List Call) :
    calls.foldr (fun call channel => (ControlPlane.handle call channel).2)
        (⟨network, none⟩ : Channel) =
      after calls.reverse ⟨network, none⟩ := by
  rw [after, List.foldl_reverse]
  rfl

theorem Channel.map_fst_log (calls : List Call) (channel : Channel) :
    (channel.log calls).map Prod.fst = calls.reverse := by
  have hlength : calls.length = ((channel.session calls).map CallReport.answer).length := by
    rw [List.length_map, length_session]
  rw [log, List.map_reverse, List.map_fst_zip (Nat.le_of_eq hlength)]

/-- What the nodes received over the channel of an agent. -/
theorem Agent.Served.receivedSince {network : Network} {a : Agent Channel}
    (h : a.Served ⟨network, none⟩) :
    a.plane.receivedSince network.received.length =
      ((a.eventsSince 0).filterMap Event.call?).filterMap network.oracle.receipt? := by
  let calls := a.history.filterMap Event.call?
  have hplane : a.plane = Channel.after calls.reverse ⟨network, none⟩ :=
    h.trans (Channel.foldr_handle network calls)
  have hreceived : a.plane.network.received =
      calls.filterMap network.oracle.receipt? ++ network.received := by
    rw [hplane, (Channel.agrees_after network calls.reverse).received, Network.delivered_eq,
      Channel.map_fst_log, List.reverse_reverse]
  have hcalls : (a.eventsSince 0).filterMap Event.call? = calls.reverse := by
    rw [eventsSince, Nat.sub_zero, List.take_length, List.filterMap_reverse]
  rw [hcalls, Channel.receivedSince, hreceived, List.length_append, Nat.add_sub_cancel,
    List.take_left, List.filterMap_reverse]

/-! ## Three agents -/

/-- As many heartbeats as asked for are through, whatever came of them, and as many attempts to
register were made. A redirected heartbeat is not through. -/
def Counters.meets (beats attempts : Nat) (c : Counters) : Bool :=
  beats ≤ c.heartbeatsOk + c.heartbeatsRejected + c.heartbeatsFailed &&
    attempts ≤ c.registrationAttempts

namespace Agent

/-- A session, then a run until enough is done or for as many waits as `moments`, then another
session. -/
def pursue {σ : Type} [ControlPlane σ] (before : List Command) (beats attempts moments : Nat)
    (rest : List Command) (a : Agent σ) : Agent σ :=
  ((a.after before).runUntil (fun a => a.counters.meets beats attempts) moments).after rest

/-- Two agents that have made the same calls and are where these calls led them. -/
structure SameCourse {σ τ : Type} (a : Agent σ) (b : Agent τ) : Prop where
  now : a.now = b.now
  endpoint : a.endpoint = b.endpoint
  state : a.state = b.state
  counters : a.counters = b.counters
  task : a.task.status = b.task.status
  calls : (a.eventsSince 0).filterMap Event.call? = (b.eventsSince 0).filterMap Event.call?

section Course
variable {σ τ : Type} {R : σ → τ → Prop} {a : Agent σ} {b : Agent τ}

theorem Alike.sameCourse (h : a.Alike id R b) : a.SameCourse b where
  now := h.now
  endpoint := h.endpoint
  state := h.state
  counters := h.counters
  task := h.status
  calls := by
    have hcalls := List.map_injective_iff.2 Call.seen_id_injective h.calls
    simp only [eventsSince, Nat.sub_zero, List.take_length, List.filterMap_reverse, hcalls]

theorem Alike.pursue [ControlPlane σ] [ControlPlane τ] (h : a.Alike id R b) (m : ControlPlane.Mirrors id R)
    (before : List Command) (beats attempts moments : Nat) (rest : List Command) :
    (a.pursue before beats attempts moments rest).Alike id R
      (b.pursue before beats attempts moments rest) := by
  have hrun := (h.after m before).runUntil m
    (p := fun a => a.counters.meets beats attempts)
    (q := fun b => b.counters.meets beats attempts) (fun later => by rw [later.counters]) moments
  exact hrun.after m rest

end Course

/-- Three workers of one name, over one network: the first one uses a channel, the second one opens a
connection for every call, and the calls of the third one are answered by the sites, each by a script
of its own. Until enough heartbeats and attempts are made, and before and after that, the three make
the same calls at the same times and count the same; and the nodes of the first receive what those of
the second do, which is the request of every call that leads to one of them, once each and in their
order. What a call is answered is the same on the channel as from the sites. -/
theorem channel_refines_oracle (identity : Identity) (timings : Timings) (epoch : Int)
    (network : Network) (home : String) (before rest : List Command)
    (beats attempts moments : Nat) :
    let cached := (new identity timings epoch (⟨network, none⟩ : Channel) home).pursue before beats
      attempts moments rest
    let direct := (new identity timings epoch network home).pursue before beats attempts moments rest
    let scripted := (new identity timings epoch network.oracle home).pursue before beats attempts
      moments rest
    cached.SameCourse scripted ∧ direct.SameCourse scripted ∧
    (cached.plane.network.oracle = scripted.plane ∧ direct.plane.oracle = scripted.plane) ∧
    cached.plane.receivedSince network.received.length =
      ((scripted.eventsSince 0).filterMap Event.call?).filterMap network.oracle.receipt? ∧
    ∀ calls : List Call,
      ((⟨network, none⟩ : Channel).session calls).map Channel.CallReport.answer =
        network.oracle.answers calls := by
  intro cached direct scripted
  have hcached : cached.Alike id (Channel.Shadows network) scripted := by
    refine Alike.pursue ?_ (Channel.mirrors network) before beats attempts moments rest
    exact { timings := rfl, epoch := rfl, now := rfl, endpoint := rfl, state := rfl
            counters := rfl, asks := fun _ => rfl, task := .same _
            plane := ⟨⟨[], Channel.agrees_nil network⟩, rfl⟩, calls := rfl }
  have hdirect : direct.Alike id (fun network oracle => network.oracle = oracle) scripted := by
    refine Alike.pursue ?_ Network.mirrors before beats attempts moments rest
    exact { timings := rfl, epoch := rfl, now := rfl, endpoint := rfl, state := rfl
            counters := rfl, asks := fun _ => rfl, task := .same _, plane := rfl, calls := rfl }
  have served : cached.Served ⟨network, none⟩ := by
    have hbefore := (reaches_after before (new identity timings epoch _ home)).served
      (show Served (⟨network, none⟩ : Channel) _ from rfl)
    exact (reaches_after rest _).served
      (hbefore.runUntil (fun a => a.counters.meets beats attempts) moments)
  refine ⟨hcached.sameCourse, hdirect.sameCourse, ⟨hcached.plane.2, hdirect.plane⟩, ?_,
    (Channel.agrees_nil network).answers_eq⟩
  rw [← hcached.sameCourse.calls]
  exact served.receivedSince

example :
    let network : Network :=
      { nodes :=
          [{ name := "f", address := "f:1", register := [.reply (.redirect "http://l:2")] },
            { name := "l", address := "l:2" }] }
    let agent : Agent Channel := new ⟨"w", "c", ""⟩ {} 0 ⟨network, none⟩ "f:1"
    (agent.pursue [⟨.start, false⟩] 2 2 4 []).plane.receivedSince 0 =
      [("f", .register "w" "w" "c"), ("l", .register "w" "w" "c"), ("l", .heartbeat "w"),
        ("l", .heartbeat "w")] := by
  decide +kernel

end Agent
end ClusterMember
