import ClusterMember.Agent.Script
import ClusterMember.Proofs.Network.Reuse

/-! # The network as a set of scripts

Seen from far enough away, a network has no connections. It is a set of sites, each of them at an
address and with a script of its own, and a call is answered by the next step of the site that its
endpoint names.

* `Oracle`: such a set of sites. It is a control plane.
* `Oracle.lead`, `Oracle.receipt?`: the site that an endpoint names, and what it receives.
* `Network.oracle`: what remains of a network when its connections are forgotten.
* `Network.dial_eq_lead`, `Network.deliver_eq_ask`: dialling and sending, seen from there.
* `Network.callOnce_eq`, `Channel.exchange_eq`: one call without a channel, and one over it.
* `Channel.Agrees.answers_eq`: the answers to calls made one after another.
-/

namespace ClusterMember
set_option autoImplicit false

open Network

/-! ## Scripts at addresses -/

/-- A place where calls are answered after a script. -/
structure Site where
  name : String
  address : String
  down : Bool
  script : Script
deriving DecidableEq

/-- The sites, and what they have received, the latest first. -/
structure Oracle where
  sites : List Site
  received : List (String × Request)
deriving DecidableEq

namespace Oracle

/-- The site that an endpoint names. An endpoint that is no address, and one that names no site or
one that is down, is at fault itself. -/
def lead (endpoint : String) (oracle : Oracle) : Except Fault String :=
  match Uri.parse? (Endpoint.uri endpoint) with
  | none => .error (.invalidEndpoint endpoint "invalid URI")
  | some uri =>
    let site? := (target? uri).bind fun target =>
      oracle.sites.find? fun site => site.address = target && !site.down
    match site? with
    | none => .error (.transport endpoint "connect: transport error")
    | some site => .ok site.name

/-- What is received of a call: its request, at the site that its endpoint names. -/
def receipt? (oracle : Oracle) (call : Call) : Option (String × Request) :=
  (oracle.lead call.endpoint).toOption.map fun name => (name, call.request)

/-- The next step of the site with a name; a call to no site at all is never answered. -/
def ask (name : String) (request : Request) (oracle : Oracle) : Step × Oracle :=
  match oracle.sites.find? (·.name = name) with
  | none => ({ act := .hang }, oracle)
  | some site =>
    let (step, script) := site.script.next request
    (step,
      { sites := oracle.sites.replaceF fun other =>
          if other.name = name then some { site with script } else none
        received := (name, request) :: oracle.received })

instance : ControlPlane Oracle where
  handle call oracle :=
    match oracle.lead call.endpoint with
    | .error fault => ({ answer := some (.fault fault) }, oracle)
    | .ok name =>
      let (step, after) := oracle.ask name call.request
      (step.handling call.endpoint, after)
  unread oracle := oracle.sites.foldr (fun site n => ControlPlane.unread site.script + n) 0

/-- The answers to calls made one after another. -/
def answers : List Call → Oracle → List Answer
  | [], _ => []
  | call :: rest, oracle =>
    let (handling, after) := ControlPlane.handle call oracle
    (handling.result call).2 :: answers rest after

end Oracle

/-! ## The oracle of a network -/

namespace Network

/-- What a script does where a node does this. A status is a fault at the endpoint that was called. -/
def NodeAct.step : NodeAct → Step
  | reply r => { act := .reply r }
  | status s => { act := .failHere (.transport "" s.seen.text) }
  | hang => { act := .hang }

/-- A node without the connections that it has accepted. -/
def Node.site (isolated : Bool) (node : Node) : Site where
  name := node.name
  address := node.address
  down := node.down || isolated
  script := { register := node.register.map NodeAct.step
              heartbeat := node.heartbeat.map NodeAct.step }

/-- A network without its connections. -/
def oracle (network : Network) : Oracle where
  sites := network.nodes.map (Node.site network.isolated)
  received := network.received

theorem Node.site_receive (isolated : Bool) (request : Request) (node : Node) :
    (node.site isolated).script.next request =
        ((node.receive request).1.step, ((node.receive request).2.site isolated).script) ∧
      (node.receive request).2.site isolated =
        { node.site isolated with script := ((node.receive request).2.site isolated).script } := by
  obtain ⟨_, _, _, register, heartbeat, _⟩ := node
  cases request with
  | register => cases register <;> exact ⟨rfl, rfl⟩
  | heartbeat => cases heartbeat <;> exact ⟨rfl, rfl⟩

theorem unread_oracle (network : Network) :
    ControlPlane.unread network.oracle = network.unread := by
  obtain ⟨nodes, isolated, received⟩ := network
  show (nodes.map (Node.site isolated)).foldr _ 0 = nodes.foldr _ 0
  rw [List.foldr_map]
  simp only [ControlPlane.unread, Node.site, List.length_map]

theorem oracle_greeted (name : String) (network : Network) :
    (network.greeted name).oracle = network.oracle := by
  have h := map_modifyFirst (Node.site network.isolated) (·.name = name)
    (fun node => { node with accepted := node.accepted + 1 }) network.nodes fun _ _ => rfl
  exact congrArg (Oracle.mk · network.received) h

/-- Dialling leads to the site that the endpoint names, and fails for the reason given there. -/
theorem dial_eq_lead (endpoint : String) (network : Network) :
    network.dial endpoint =
      (network.oracle.lead endpoint).map fun name => (name, network.greeted name) := by
  obtain ⟨nodes, isolated, received⟩ := network
  unfold dial Oracle.lead
  cases Uri.parse? (Endpoint.uri endpoint) with
  | none => rfl
  | some uri =>
    simp only [connect?_eq, oracle]
    cases target? uri with
    | none => cases isolated <;> rfl
    | some target =>
      have hsite : (fun site : Site => site.address = target && !site.down) ∘ Node.site isolated =
          fun node => node.address = target && !(node.down || isolated) := rfl
      simp only [Option.bind_some, List.find?_map, hsite]
      -- In an isolated network every site counts as down.
      cases isolated with
      | true =>
        have hnone : (nodes.find? fun node => node.address = target && !(node.down || true)) = none :=
          List.find?_eq_none.2 fun node _ => by simp
        simp only [hnone]
        rfl
      | false =>
        simp only [Bool.or_false, Bool.false_eq_true, if_false]
        cases nodes.find? fun node => node.address = target && !node.down <;> rfl

theorem reached?_eq_lead (endpoint : String) (network : Network) :
    network.reached? endpoint = (network.oracle.lead endpoint).toOption := by
  unfold reached?
  rw [dial_eq_lead]
  cases network.oracle.lead endpoint <;> rfl

theorem delivered_eq (network : Network) (log : List (Call × Answer)) :
    network.delivered log = (log.map Prod.fst).filterMap network.oracle.receipt? := by
  rw [delivered, List.filterMap_map]
  simp only [reached?_eq_lead]
  rfl

theorem map_modifyFirst_eq_replaceF (isolated : Bool) (name : String) (after : Node)
    (nodes : List Node) :
    (modifyFirst (·.name = name) (fun _ => after) nodes).map (Node.site isolated) =
      (nodes.map (Node.site isolated)).replaceF fun other =>
        if other.name = name then some (after.site isolated) else none := by
  induction nodes with
  | nil => rfl
  | cons node rest ih =>
    by_cases h : node.name = name
    · simp [modifyFirst, List.replaceF, Node.site, h]
    · simpa [modifyFirst, List.replaceF, Node.site, h] using ih

/-- A node does with a request what its site does, and is left with the same script. -/
theorem deliver_eq_ask (name : String) (request : Request) (network : Network) :
    network.oracle.ask name request =
      ((network.deliver name request).1.step, (network.deliver name request).2.oracle) := by
  have hname : (fun site : Site => decide (site.name = name)) ∘ Node.site network.isolated =
      fun node => decide (node.name = name) := rfl
  unfold deliver Oracle.ask
  simp only [oracle, List.find?_map, hname]
  cases network.nodes.find? (·.name = name) with
  | none => rfl
  | some node =>
    obtain ⟨hnext, hsite⟩ := node.site_receive network.isolated request
    simp only [Option.map_some, hnext, map_modifyFirst_eq_replaceF]
    rw [← hsite]

theorem converse_fst (call : Call) (name : String) (network : Network) :
    (network.converse call name).1 =
      ((network.deliver name call.request).1.step.handling call.endpoint).answer := by
  unfold converse
  cases h : (network.deliver name call.request).1 <;> simp [h, NodeAct.step, Step.handling,
    Fault.relocate]

/-! ## One call -/

theorem result_converse (call : Call) (name : String) (notices : List Notice) (network : Network) :
    let handling : Handling := { answer := (network.converse call name).1, notices }
    handling.result call =
      ((network.oracle.ask name call.request).1.handling call.endpoint).result call := by
  rw [converse_fst, deliver_eq_ask]
  cases (network.deliver name call.request).1 <;> rfl

end Network

namespace Oracle
variable {call : Call} {oracle : Oracle}

theorem handle_of_fault {fault : Fault} (h : oracle.lead call.endpoint = .error fault) :
    ControlPlane.handle call oracle = ({ answer := some (.fault fault) }, oracle) := by
  simp only [ControlPlane.handle, h]

theorem handle_of_lead {name : String} (h : oracle.lead call.endpoint = .ok name) :
    ControlPlane.handle call oracle =
      ((oracle.ask name call.request).1.handling call.endpoint,
        (oracle.ask name call.request).2) := by
  simp only [ControlPlane.handle, h]

end Oracle

theorem Network.callOnce_eq (call : Call) (network : Network) :
    let once := network.callOnce call
    let handled := ControlPlane.handle call network.oracle
    once.1.result call = handled.1.result call ∧ once.2.oracle = handled.2 := by
  intro once handled
  have hdial := dial_eq_lead call.endpoint network
  cases hlead : network.oracle.lead call.endpoint with
  | error fault =>
    have honce : once = ({ answer := some (.fault fault) }, network) := by
      simp only [once, callOnce, hdial, hlead, Except.map]
    have hhandled : handled = _ := Oracle.handle_of_fault hlead
    rw [honce, hhandled]
    exact ⟨rfl, rfl⟩
  | ok name =>
    have honce : once =
        ({ answer := ((network.greeted name).converse call name).1
           notices := [.connected call.endpoint] },
          ((network.greeted name).converse call name).2) := by
      simp only [once, callOnce, hdial, hlead, Except.map]
    have hhandled : handled = _ := Oracle.handle_of_lead hlead
    have hask := deliver_eq_ask name call.request (network.greeted name)
    rw [oracle_greeted] at hask
    rw [honce, hhandled]
    constructor
    · rw [result_converse, oracle_greeted]
    · rw [converse_snd, hask]

namespace Channel
variable {channel : Channel}

theorem oracle_connected (endpoint name : String) (channel : Channel) :
    (channel.connected endpoint name).oracle = channel.network.oracle := by
  unfold connected
  split
  · rfl
  · exact oracle_greeted name channel.network

/-- A call over a channel. The site that its endpoint names answers it, whether or not the connection
was there before. -/
theorem exchange_eq (sound : channel.Sound) (call : Call) :
    let exchanged := channel.exchange call
    let handled := ControlPlane.handle call channel.network.oracle
    exchanged.1.result call = handled.1.result call ∧ exchanged.2.network.oracle = handled.2 := by
  intro exchanged handled
  cases hlead : channel.network.oracle.lead call.endpoint with
  | error fault =>
    have hdial : channel.network.dial call.endpoint = .error fault := by
      rw [dial_eq_lead, hlead]
      rfl
    have hconnection := connection_of_fault sound hdial
    have hexchanged : exchanged = ({ answer := some (.fault fault) }, ⟨channel.network, none⟩) := by
      simp only [exchanged, exchange, hconnection]
    have hhandled : handled = _ := Oracle.handle_of_fault hlead
    rw [hexchanged, hhandled]
    exact ⟨rfl, rfl⟩
  | ok name =>
    have hreached : channel.network.reached? call.endpoint = some name := by
      rw [reached?_eq_lead, hlead]
      rfl
    -- The connection may be an old one; a sound channel has none that leads elsewhere.
    obtain ⟨notices, hconnection⟩ := connection_of_reached? sound hreached
    have hhandled : handled = _ := Oracle.handle_of_lead hlead
    have hask := deliver_eq_ask name call.request (channel.connected call.endpoint name)
    rw [oracle_connected] at hask
    have hnetwork : exchanged.2.network =
        ((channel.connected call.endpoint name).converse call name).2 := by
      simp only [exchanged, exchange, hconnection]
    have hhandling : exchanged.1 =
        { answer := ((channel.connected call.endpoint name).converse call name).1, notices } := by
      simp only [exchanged, exchange, hconnection]
    rw [hhandled, hnetwork, hhandling]
    constructor
    · rw [result_converse, oracle_connected]
    · rw [converse_snd, hask]

/-! ## Calls one after another -/

theorem Agrees.answers_eq {network : Network} {log : List (Call × Answer)}
    (h : channel.Agrees network log) (calls : List Call) :
    (channel.session calls).map CallReport.answer = channel.network.oracle.answers calls := by
  induction calls generalizing channel log with
  | nil => rfl
  | cons call rest ih =>
    let handled := ControlPlane.handle call channel.network.oracle
    obtain ⟨hresult, horacle⟩ := exchange_eq h.sound call
    have hanswer : channel.answer call = (handled.1.result call).2 := congrArg Prod.snd hresult
    have hnext : (channel.next call).network.oracle = handled.2 := horacle
    have hrest := ih (h.next call)
    rw [hnext] at hrest
    show channel.answer call :: ((channel.next call).session rest).map CallReport.answer =
      (handled.1.result call).2 :: handled.2.answers rest
    rw [hanswer, hrest]

end Channel
end ClusterMember
