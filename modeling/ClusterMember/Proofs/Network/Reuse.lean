import ClusterMember.Network.Channel
import ClusterMember.Proofs.Network.Dial
import Mathlib.Data.List.Induction

/-! # Which connections are used again

A channel keeps a connection after a call that was answered by a message, and drops it after any
other. Whether a call opens a connection can so be told from the call before it.

* `Channel.answer`, `Channel.next`, `Channel.after`: one call, and calls made one after another.
* `Channel.log`: the calls that were made, with their answers.
* `Network.kept?`, `Network.opened`, `Network.delivered`: what a log says about connections and
  requests.
* `Channel.Agrees`, `Channel.agrees_after`: a channel is where its log says.
* `Channel.connections_follow_log`: what this means for every sequence of calls.
-/

namespace ClusterMember
set_option autoImplicit false

namespace Network

/-- The endpoint that a connection is kept for: that of the last call, if a message answered it. -/
def kept? : List (Call × Answer) → Option String
  | [] => none
  | (call, answer) :: _ => if answer.isReply then some call.endpoint else none

/-- How many connections to a node some calls open. A call opens one if it gets to the node, unless
the call before it was answered by a message and went to the very same endpoint. -/
def opened (network : Network) (name : String) : List (Call × Answer) → Nat
  | [] => 0
  | (call, _) :: earlier =>
    network.opened name earlier +
      if network.reached? call.endpoint = some name ∧ kept? earlier ≠ some call.endpoint then 1
      else 0

/-- What the nodes receive, the latest first: one request for each call that gets to one of them. -/
def delivered (network : Network) (log : List (Call × Answer)) : List (String × Request) :=
  log.filterMap fun entry =>
    (network.reached? entry.1.endpoint).map fun name => (name, entry.1.request)

end Network

open Network

namespace Channel

/-! ## Calls -/

def answer (call : Call) (channel : Channel) : Answer := ((channel.exchange call).1.result call).2

def next (call : Call) (channel : Channel) : Channel := (channel.exchange call).2

/-- The channel after calls made one after another. -/
def after (calls : List Call) (channel : Channel) : Channel :=
  calls.foldl (fun channel call => channel.next call) channel

/-- The calls of a session with their answers, the latest first. -/
def log (calls : List Call) (channel : Channel) : List (Call × Answer) :=
  (calls.zip ((channel.session calls).map CallReport.answer)).reverse

theorem after_concat (calls : List Call) (call : Call) (channel : Channel) :
    channel.after (calls ++ [call]) = (channel.after calls).next call := List.foldl_concat ..

theorem answers_concat (calls : List Call) (call : Call) (channel : Channel) :
    (channel.session (calls ++ [call])).map CallReport.answer =
      (channel.session calls).map CallReport.answer ++ [(channel.after calls).answer call] := by
  induction calls generalizing channel with
  | nil => rfl
  | cons first rest ih => exact congrArg (_ :: ·) (ih (channel.next first))

theorem length_session (calls : List Call) (channel : Channel) :
    (channel.session calls).length = calls.length := by
  induction calls generalizing channel with
  | nil => rfl
  | cons first rest ih => exact congrArg (· + 1) (ih (channel.next first))

theorem log_concat (calls : List Call) (call : Call) (channel : Channel) :
    channel.log (calls ++ [call]) =
      (call, (channel.after calls).answer call) :: channel.log calls := by
  have hlength : calls.length = ((channel.session calls).map CallReport.answer).length := by
    rw [List.length_map, length_session]
  rw [log, answers_concat, List.zip_append hlength, List.reverse_append]
  rfl

/-! ## One call -/

variable {channel : Channel} {call : Call}

/-- The endpoint that a connection is open for leads to the node at its other end. -/
def Sound (channel : Channel) : Prop :=
  ∀ link, channel.link = some link → channel.network.reached? link.endpoint = some link.node

/-- The network as it is when a call to an endpoint that can be dialled has its connection. -/
def connected (endpoint name : String) (channel : Channel) : Network :=
  if channel.link.map Link.endpoint = some endpoint then channel.network
  else channel.network.greeted name

theorem layout_connected (endpoint name : String) (channel : Channel) :
    (channel.connected endpoint name).layout = channel.network.layout := by
  unfold connected
  split
  · rfl
  · exact layout_greeted name channel.network

theorem received_connected (endpoint name : String) (channel : Channel) :
    (channel.connected endpoint name).received = channel.network.received := by
  unfold connected
  split <;> rfl

theorem connection_of_reached? (sound : channel.Sound) {endpoint name : String}
    (h : channel.network.reached? endpoint = some name) :
    ∃ notices, channel.connection endpoint =
      .ok (⟨endpoint, name⟩, channel.connected endpoint name, notices) := by
  have fresh : channel.network.dial endpoint = .ok (name, channel.network.greeted name) :=
    (dial_of_reached? h).1
  unfold connection connected
  cases hlink : channel.link with
  | none =>
    refine ⟨[.connected endpoint], ?_⟩
    simp [fresh]
  | some link =>
    by_cases he : link.endpoint = endpoint
    · -- The connection is used again; it leads where dialling would.
      have hnode : link.node = name := by
        have hl := sound link hlink
        rw [he, h] at hl
        exact (Option.some.inj hl).symm
      refine ⟨[], ?_⟩
      simp [Option.filter_some, ← he, ← hnode]
    · refine ⟨[.connected endpoint], ?_⟩
      simp [Option.filter_some, he, fresh]

theorem connection_of_fault (sound : channel.Sound) {endpoint : String} {fault : Fault}
    (h : channel.network.dial endpoint = .error fault) :
    channel.connection endpoint = .error fault := by
  have unreached : channel.network.reached? endpoint = none := by
    unfold reached?
    rw [h]
  have unkept : channel.link.filter (·.endpoint = endpoint) = none := by
    refine Option.filter_eq_none_iff.2 fun link hlink he => ?_
    have hl := sound link hlink
    rw [of_decide_eq_true he, unreached] at hl
    cases hl
  unfold connection
  rw [unkept, h]

theorem connection_of_unreached (sound : channel.Sound) {endpoint : String}
    (h : channel.network.reached? endpoint = none) :
    ∃ fault, channel.connection endpoint = .error fault := by
  obtain ⟨fault, hdial⟩ := dial_of_unreached h
  exact ⟨fault, connection_of_fault sound hdial⟩

theorem isReply_result (call : Call) (answer : Option Answer) (notices : List Notice) :
    (({ answer, notices } : Handling).result call).2.isReply = answer.any Answer.isReply := by
  cases answer with
  | none => rfl
  | some answer =>
    have inTime : 0 ≤ call.limit.millis := Nat.zero_le _
    simp only [Handling.result, if_pos inTime, Option.any_some]

theorem next_of_connection {link : Link} {network : Network} {notices : List Notice}
    (h : channel.connection call.endpoint = .ok (link, network, notices)) :
    channel.next call =
      ⟨(network.deliver link.node call.request).2,
        if (channel.answer call).isReply then some link else none⟩ := by
  have hanswer : (channel.answer call).isReply =
      (network.converse call link.node).1.any Answer.isReply := by
    unfold answer exchange
    rw [h]
    exact isReply_result call _ notices
  rw [hanswer, ← converse_snd]
  unfold next exchange
  rw [h]

theorem next_of_fault {fault : Fault} (h : channel.connection call.endpoint = .error fault) :
    channel.next call = ⟨channel.network, none⟩ ∧ (channel.answer call).isReply = false := by
  unfold next answer exchange
  rw [h]
  exact ⟨rfl, isReply_result call _ []⟩

/-! ## Every sequence of calls -/

/-- A channel that began with a network is where its log says. -/
structure Agrees (network : Network) (log : List (Call × Answer)) (channel : Channel) : Prop where
  layout : channel.network.layout = network.layout
  kept : channel.link.map Link.endpoint = kept? log
  sound : channel.Sound
  tally : ∀ name, channel.network.tally.lookup name =
    (network.tally.lookup name).map (· + network.opened name log)
  received : channel.network.received = network.delivered log ++ network.received

theorem agrees_nil (network : Network) : Agrees network [] ⟨network, none⟩ where
  layout := rfl
  kept := rfl
  sound := nofun
  tally := fun name => by
    show _ = (network.tally.lookup name).map (· + 0)
    cases network.tally.lookup name <;> rfl
  received := rfl

theorem Agrees.tally_connected {network : Network} {log : List (Call × Answer)}
    (h : channel.Agrees network log) (endpoint name other : String) :
    (channel.connected endpoint name).tally.lookup other =
      (network.tally.lookup other).map
        (· + (network.opened other log +
          if name = other ∧ kept? log ≠ some endpoint then 1 else 0)) := by
  rw [connected, h.kept]
  by_cases hk : kept? log = some endpoint
  · rw [if_pos hk, h.tally]
    simp [hk]
  · rw [if_neg hk, lookup_tally_greeted, h.tally]
    simp [hk, Function.comp_def, Nat.add_assoc]

theorem Agrees.next {network : Network} {log : List (Call × Answer)}
    (h : channel.Agrees network log) (call : Call) :
    (channel.next call).Agrees network ((call, channel.answer call) :: log) := by
  have hreached := reached?_congr h.layout call.endpoint
  cases hr : network.reached? call.endpoint with
  | none =>
    obtain ⟨fault, hc⟩ := connection_of_unreached h.sound (hreached.trans hr)
    obtain ⟨hnext, hans⟩ := next_of_fault hc
    rw [hnext]
    refine ⟨h.layout, ?_, nofun, fun name => ?_, ?_⟩
    · simp [kept?, hans]
    · rw [h.tally, opened, hr]
      simp
    · rw [h.received]
      simp [delivered, hr]
  | some name =>
    obtain ⟨notices, hc⟩ := connection_of_reached? h.sound (hreached.trans hr)
    -- Neither the connection nor the request moves a node.
    have hconnected : (channel.connected call.endpoint name).layout = network.layout :=
      (layout_connected _ _ _).trans h.layout
    have known := (dial_of_reached? ((reached?_congr hconnected call.endpoint).trans hr)).2
    obtain ⟨hlayout, htally, hreceived⟩ := deliver_of_mem call.request known
    rw [next_of_connection hc]
    refine ⟨hlayout.trans hconnected, ?_, ?_, fun other => ?_, ?_⟩
    · simp only [kept?]
      cases (channel.answer call).isReply <;> rfl
    · intro link hlink
      have hl : ⟨call.endpoint, name⟩ = link := by
        simp only at hlink
        split at hlink
        · exact Option.some.inj hlink
        · cases hlink
      rw [← hl]
      exact (reached?_congr (hlayout.trans hconnected) call.endpoint).trans hr
    · refine (congrArg (List.lookup other) htally).trans ?_
      rw [h.tally_connected, opened, hr]
      simp
    · refine hreceived.trans ?_
      rw [received_connected, h.received]
      simp [delivered, hr]

theorem agrees_after (network : Network) (calls : List Call) :
    Agrees network (log calls ⟨network, none⟩) (after calls ⟨network, none⟩) := by
  induction calls using List.reverseRecOn with
  | nil => exact agrees_nil network
  | append_singleton calls call ih =>
    rw [after_concat, log_concat]
    exact ih.next call

/-- A channel that made some calls, and then one more. It keeps a connection for the endpoint of that
call if a message answered it, and none otherwise; where the endpoint leads nowhere, none did. The
call opened a connection to a node exactly if its endpoint leads there and the call before it was not
an answered one to the very same text; and it delivered one request, unless its endpoint leads
nowhere. So each node accepted as many connections, and received as many requests, as the calls tell.
A scheme that is left out leads to the same node as one that is written, and yet is not the same
text. -/
theorem connections_follow_log (network : Network) (calls : List Call) (call : Call) :
    let start : Channel := ⟨network, none⟩
    let before := start.after calls
    let later := start.after (calls ++ [call])
    let log := start.log (calls ++ [call])
    later.link.map Link.endpoint =
      (if (before.answer call).isReply then some call.endpoint else none) ∧
    (network.reached? call.endpoint = none → (before.answer call).isReply = false) ∧
    (∀ name, later.accepted.lookup name =
      (before.accepted.lookup name).map (· +
        if network.reached? call.endpoint = some name ∧
          kept? (start.log calls) ≠ some call.endpoint then 1 else 0)) ∧
    later.network.received =
      ((network.reached? call.endpoint).map fun name => (name, call.request)).toList ++
        before.network.received ∧
    (∀ name, later.accepted.lookup name =
      (start.accepted.lookup name).map (· + network.opened name log)) ∧
    later.network.received = network.delivered log ++ network.received ∧
    (∀ endpoint, Endpoint.hasSchemeMark endpoint.toList = false →
      network.reached? ("http://" ++ endpoint) = network.reached? endpoint) := by
  intro start before later log
  have hbefore : before.Agrees network (start.log calls) := agrees_after network calls
  have hlater : later.Agrees network log := agrees_after network (calls ++ [call])
  have hlog : log = (call, before.answer call) :: start.log calls := log_concat calls call start
  have hopened (name : String) := hlater.tally name
  have hdelivered := hlater.received
  refine ⟨?_, fun unreached => ?_, fun name => ?_, ?_, hopened, hdelivered,
    fun endpoint h => reached?_http h network⟩
  · rw [hlater.kept, hlog]
    rfl
  · have hreached := (reached?_congr hbefore.layout call.endpoint).trans unreached
    obtain ⟨fault, hfault⟩ := connection_of_unreached hbefore.sound hreached
    exact (next_of_fault hfault).2
  · refine (hopened name).trans ?_
    show _ = (before.network.tally.lookup name).map _
    rw [hbefore.tally name, hlog, opened, Option.map_map]
    simp [Function.comp_def, Nat.add_assoc]
  · rw [hdelivered, hbefore.received, hlog]
    cases hr : network.reached? call.endpoint <;> simp [delivered, hr]

example :
    let network : Network := { nodes := [{ name := "n", address := "h:7" }] }
    let call (endpoint : String) : Call := ⟨0, endpoint, .heartbeat "w", .ofSecs 3⟩
    (after [call "h:7", call "http://h:7", call "http://h:7"] ⟨network, none⟩).accepted =
      [("n", 2)] := by
  decide

end Channel
end ClusterMember
