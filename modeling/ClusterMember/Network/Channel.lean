import ClusterMember.Uri
import ClusterMember.Network.Node

/-! # Calls over the network

A call finds the node that its endpoint names, opens a connection to it, and sends its request over
the connection.

* `Network.dial`: a new connection to the node that an endpoint names.
* `Network.converse`: a call over an open connection.
* `Network.callOnce`: a whole call that does all of this anew. A network so called is a control
  plane.

A channel makes the calls of one worker. It keeps at most one connection open, the one over which
the last call went, and uses it again only for a call to the very same endpoint; after a call that
failed it keeps none.

* `Channel`: the network as one worker uses it.
* `Channel.connection`: the connection for a call.
* `Channel.exchange`: a whole call.
* `Channel.session`: calls made one after another, and what can be seen of each.
-/

namespace ClusterMember.Network
set_option autoImplicit false

/-! ## Calls without a channel -/

/-- Open a connection to the node that an endpoint names. -/
def dial (endpoint : String) (network : Network) : Except Fault (String × Network) :=
  match Uri.parse? (Endpoint.uri endpoint) with
  | none => .error (.invalidEndpoint endpoint "invalid URI")
  | some uri =>
    match network.connect? uri with
    | none => .error (.transport endpoint "connect: transport error")
    | some reached => .ok reached

/-- Send a call to a node over an open connection, and take the answer if there is one. -/
def converse (call : Call) (node : String) (network : Network) : Option Answer × Network :=
  let (act, network) := network.deliver node call.request
  match act with
  | .reply reply => (some (.reply reply), network)
  | .status status => (some (.fault (.transport call.endpoint status.seen.text)), network)
  | .hang => (none, network)

def callOnce (call : Call) (network : Network) : Handling × Network :=
  match network.dial call.endpoint with
  | .error fault => ({ answer := some (.fault fault) }, network)
  | .ok (node, network) =>
    let (answer, network) := network.converse call node
    ({ answer, notices := [.connected call.endpoint] }, network)

/-- How many answers the nodes were told to give, beyond agreeing to everything. -/
def unread (network : Network) : Nat :=
  network.nodes.foldr (fun node n => node.register.length + node.heartbeat.length + n) 0

instance : ControlPlane Network where
  handle := callOnce
  unread := unread

end ClusterMember.Network

namespace ClusterMember
set_option autoImplicit false

/-! ## Channels -/

/-- An open connection: the endpoint that it was opened for and the node at its other end. -/
structure Link where
  endpoint : String
  node : String
deriving DecidableEq

/-- The network as one worker uses it. -/
structure Channel where
  network : Network
  link : Option Link := none
deriving DecidableEq

namespace Channel

/-- The connection for a call to an endpoint, with the network after it and what is noted down; or
the fault if there is none. -/
def connection (endpoint : String) (channel : Channel) :
    Except Fault (Link × Network × List Notice) :=
  match channel.link.filter (·.endpoint = endpoint) with
  | some link => .ok (link, channel.network, [])
  | none =>
    match channel.network.dial endpoint with
    | .error fault => .error fault
    | .ok (node, network) => .ok (⟨endpoint, node⟩, network, [.connected endpoint])

/-- Make a call. The connection outlives it only if it was answered by a message. -/
def exchange (call : Call) (channel : Channel) : Handling × Channel :=
  match channel.connection call.endpoint with
  | .error fault => ({ answer := some (.fault fault) }, ⟨channel.network, none⟩)
  | .ok (link, network, notices) =>
    let (answer, network) := network.converse call link.node
    ({ answer, notices }, ⟨network, if answer.any Answer.isReply then some link else none⟩)

instance : ControlPlane Channel where
  handle := exchange
  unread channel := channel.network.unread

/-! ## Sequences of calls -/

/-- What can be seen of one call: its answer, what the nodes received during it, and how many
connections each node has accepted so far. -/
structure CallReport where
  answer : Answer
  received : List (String × Request)
  accepted : List (String × Nat)
deriving DecidableEq

def accepted (channel : Channel) : List (String × Nat) :=
  channel.network.nodes.map fun node => (node.name, node.accepted)

/-- What the nodes received after the first `seen` requests, the earliest first. -/
def receivedSince (seen : Nat) (channel : Channel) : List (String × Request) :=
  (channel.network.received.take (channel.network.received.length - seen)).reverse

/-- Make calls one after another. -/
def session : List Call → Channel → List CallReport
  | [], _ => []
  | call :: rest, channel =>
    let (handling, after) := channel.exchange call
    { answer := (handling.result call).2
      received := after.receivedSince channel.network.received.length
      accepted := after.accepted } :: session rest after

end Channel
end ClusterMember
