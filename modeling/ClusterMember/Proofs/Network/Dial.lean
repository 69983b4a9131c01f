import ClusterMember.Network.Channel
import Mathlib.Data.List.Basic

/-! # What a call changes in the network

A call may add to the connections that a node has accepted, takes one of the answers that a node was
told to give, and adds to what was received. It moves no node, so that an endpoint always leads to
the same one.

* `Network.layout`: where the nodes are, and whether they can be reached.
* `Network.tally`: how many connections each node has accepted.
* `Network.reached?`: the node that an endpoint leads to.
* `Network.dial_of_reached?`, `Network.dial_of_unreached`: what comes of dialling.
* `Network.deliver_of_mem`: what comes of sending a request.
-/

namespace ClusterMember.Network
set_option autoImplicit false

def layout (network : Network) : Bool × List (String × String × Bool) :=
  (network.isolated, network.nodes.map fun node => (node.name, node.address, node.down))

def tally (network : Network) : List (String × Nat) :=
  network.nodes.map fun node => (node.name, node.accepted)

/-- The node that an endpoint leads to, if it can be dialled. -/
def reached? (endpoint : String) (network : Network) : Option String :=
  match network.dial endpoint with
  | .ok (node, _) => some node
  | .error _ => none

/-! ## Replacing a node -/

theorem map_modifyFirst {β : Type} (g : Node → β) (p : Node → Bool) (f : Node → Node)
    (nodes : List Node) (same : ∀ node, nodes.find? p = some node → g (f node) = g node) :
    (modifyFirst p f nodes).map g = nodes.map g := by
  induction nodes with
  | nil => rfl
  | cons node rest ih =>
    unfold modifyFirst
    by_cases h : p node = true
    · rw [if_pos h, List.map_cons, List.map_cons, same node (List.find?_cons_of_pos h)]
    · rw [if_neg h, List.map_cons, List.map_cons, ih fun other hother => ?_]
      exact same other ((List.find?_cons_of_neg h).trans hother)

/-- The network once the node with a name has accepted one more connection. -/
def greeted (name : String) (network : Network) : Network :=
  { network with
    nodes := modifyFirst (·.name = name) (fun node => { node with accepted := node.accepted + 1 })
      network.nodes }

theorem layout_greeted (name : String) (network : Network) :
    (network.greeted name).layout = network.layout := by
  have h := map_modifyFirst (fun node => (node.name, node.address, node.down)) (·.name = name)
    (fun node => { node with accepted := node.accepted + 1 }) network.nodes fun _ _ => rfl
  exact congrArg (Prod.mk network.isolated) h

theorem lookup_tally_greeted (name other : String) (network : Network) :
    (network.greeted name).tally.lookup other =
      (network.tally.lookup other).map (· + if name = other then 1 else 0) := by
  obtain ⟨nodes, isolated, received⟩ := network
  show ((modifyFirst _ _ nodes).map _).lookup other = ((nodes.map _).lookup other).map _
  induction nodes with
  | nil => rfl
  | cons node rest ih =>
    unfold modifyFirst
    by_cases hn : node.name = name
    · by_cases ho : other = name
      · simp [hn, ho]
      · simp [hn, List.lookup_cons, beq_false_of_ne ho, Ne.symm ho]
    · by_cases ho : other = node.name
      · simp [hn, ho, Ne.symm hn]
      · simpa [hn, List.lookup_cons, beq_false_of_ne ho] using ih

/-! ## Dialling -/

theorem connect?_eq (uri : Uri) (network : Network) :
    network.connect? uri =
      if network.isolated then none
      else (target? uri).bind fun target =>
        (network.nodes.find? fun node => node.address = target && !node.down).map fun node =>
          (node.name, network.greeted node.name) := by
  unfold connect?
  by_cases h : network.isolated = true
  · simp [h]
  · rw [if_neg h, if_neg h]
    cases target? uri with
    | none => rfl
    | some target =>
      simp only [Option.bind_eq_bind, Option.bind_some]
      cases network.nodes.find? fun node => node.address = target && !node.down <;> rfl

/-- Dialling reads the layout only. -/
theorem reached?_eq (endpoint : String) (network : Network) :
    network.reached? endpoint =
      (Uri.parse? (Endpoint.uri endpoint)).bind fun uri =>
        if network.layout.1 then none
        else (target? uri).bind fun target =>
          (network.layout.2.find? fun site => site.2.1 = target && !site.2.2).map Prod.fst := by
  unfold reached? dial
  cases Uri.parse? (Endpoint.uri endpoint) with
  | none => rfl
  | some uri =>
    obtain ⟨nodes, isolated, received⟩ := network
    simp only [connect?_eq, layout, Option.bind_some]
    cases isolated with
    | true => rfl
    | false =>
      cases target? uri with
      | none => rfl
      | some target =>
        have hsite : (fun site : String × String × Bool => site.2.1 = target && !site.2.2) ∘
            (fun node : Node => (node.name, node.address, node.down)) =
              fun node => node.address = target && !node.down := rfl
        simp only [Bool.false_eq_true, if_false, Option.bind_some, List.find?_map, hsite]
        cases nodes.find? fun node => node.address = target && !node.down <;> rfl

theorem reached?_congr {a b : Network} (h : a.layout = b.layout) (endpoint : String) :
    a.reached? endpoint = b.reached? endpoint := by
  rw [reached?_eq, reached?_eq, h]

theorem dial_of_unreached {endpoint : String} {network : Network}
    (h : network.reached? endpoint = none) : ∃ fault, network.dial endpoint = .error fault := by
  unfold reached? at h
  cases hd : network.dial endpoint with
  | error fault => exact ⟨fault, rfl⟩
  | ok reached =>
    rw [hd] at h
    cases h

theorem dial_of_reached? {endpoint name : String} {network : Network}
    (h : network.reached? endpoint = some name) :
    network.dial endpoint = .ok (name, network.greeted name) ∧
      ∃ node ∈ network.nodes, node.name = name := by
  unfold reached? at h
  cases hd : network.dial endpoint with
  | error fault =>
    rw [hd] at h
    cases h
  | ok reached =>
    rw [hd] at h
    obtain ⟨node, after⟩ := reached
    cases h
    unfold dial at hd
    split at hd
    · cases hd
    · next uri _ =>
      split at hd
      · cases hd
      · next hc =>
        cases hd
        rw [connect?_eq] at hc
        split at hc
        · cases hc
        · obtain ⟨target, _, hfound⟩ := Option.bind_eq_some_iff.1 hc
          obtain ⟨node, hnode, heq⟩ := Option.map_eq_some_iff.1 hfound
          cases heq
          exact ⟨rfl, node, List.mem_of_find?_eq_some hnode, rfl⟩

theorem hasSchemeMark_http (endpoint : List Char) :
    Endpoint.hasSchemeMark ("http://".toList ++ endpoint) = true := by
  simp [Endpoint.hasSchemeMark]

/-- The scheme may be left out. -/
theorem reached?_http {endpoint : String}
    (h : Endpoint.hasSchemeMark endpoint.toList = false) (network : Network) :
    network.reached? ("http://" ++ endpoint) = network.reached? endpoint := by
  have huri : Endpoint.uri ("http://" ++ endpoint) = Endpoint.uri endpoint := by
    unfold Endpoint.uri
    rw [String.toList_append, hasSchemeMark_http, h]
    rfl
  rw [reached?_eq, reached?_eq, huri]

/-! ## Sending a request -/

theorem Node.receive_keeps (request : Request) (node : Node) :
    let after := (node.receive request).2
    after.name = node.name ∧ after.address = node.address ∧ after.down = node.down ∧
      after.accepted = node.accepted := by
  obtain ⟨_, _, _, register, heartbeat, _⟩ := node
  cases request with
  | register => cases register <;> exact ⟨rfl, rfl, rfl, rfl⟩
  | heartbeat => cases heartbeat <;> exact ⟨rfl, rfl, rfl, rfl⟩

/-- A node that is sent a request receives it, and accepts no connection for it. -/
theorem deliver_of_mem {name : String} {network : Network} (request : Request)
    (known : ∃ node ∈ network.nodes, node.name = name) :
    let after := (network.deliver name request).2
    after.layout = network.layout ∧ after.tally = network.tally ∧
      after.received = (name, request) :: network.received := by
  obtain ⟨node, hnode⟩ : ∃ node, network.nodes.find? (·.name = name) = some node := by
    obtain ⟨node, hmem, hname⟩ := known
    exact Option.isSome_iff_exists.1 (List.find?_isSome.2 ⟨node, hmem, by simpa using hname⟩)
  obtain ⟨hname, haddress, hdown, haccepted⟩ := node.receive_keeps request
  have hmap {β : Type} (g : Node → β) (same : g (node.receive request).2 = g node) :
      (modifyFirst (·.name = name) (fun _ => (node.receive request).2) network.nodes).map g =
        network.nodes.map g := by
    refine map_modifyFirst g _ _ _ fun other hother => ?_
    cases hnode.symm.trans hother
    exact same
  unfold deliver
  rw [hnode]
  refine ⟨congrArg (Prod.mk network.isolated) (hmap _ ?_), hmap _ ?_, rfl⟩
  · rw [hname, haddress, hdown]
  · rw [hname, haccepted]

theorem converse_snd (call : Call) (name : String) (network : Network) :
    (network.converse call name).2 = (network.deliver name call.request).2 := by
  unfold converse
  cases h : (network.deliver name call.request).1 <;> simp [h]

end ClusterMember.Network
