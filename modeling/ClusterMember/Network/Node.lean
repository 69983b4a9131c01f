import ClusterMember.Agent.ControlPlane
import ClusterMember.Uri

/-! # Nodes and the network between them

The control plane as a set of nodes, each of them reached at an address of its own. A node that does
not answer a call with a message answers it with a status, a number and a text.

* `Network.Status`: a status as a node gives it; `Network.Status.seen` is what the caller makes of
  it, and `Network.Status.text` the status in words.
* `Network.Node`: what a node does with the requests it receives.
* `Network`: the nodes, and what has been delivered to them.
* `Network.connect?`, `Network.deliver`: open a connection, and send a request over one.
-/

namespace ClusterMember.Network
set_option autoImplicit false

/-! ## Statuses of remote calls -/

/-- The named statuses. -/
inductive StatusCode
  | ok
  | cancelled
  | unknown
  | invalidArgument
  | deadlineExceeded
  | notFound
  | alreadyExists
  | permissionDenied
  | resourceExhausted
  | failedPrecondition
  | aborted
  | outOfRange
  | unimplemented
  | internal
  | unavailable
  | dataLoss
  | unauthenticated
deriving DecidableEq

namespace StatusCode

/-- The codes in the order of their numbers. -/
def all : List StatusCode := [
  ok, cancelled, unknown, invalidArgument, deadlineExceeded, notFound, alreadyExists,
  permissionDenied, resourceExhausted, failedPrecondition, aborted, outOfRange, unimplemented,
  internal, unavailable, dataLoss, unauthenticated]

/-- The code with a number; a number without a name counts as unknown. -/
def ofInt : Int → StatusCode
  | .ofNat n => all.getD n unknown
  | .negSucc _ => unknown

def name : StatusCode → String
  | ok => "Ok"
  | cancelled => "Cancelled"
  | unknown => "Unknown"
  | invalidArgument => "InvalidArgument"
  | deadlineExceeded => "DeadlineExceeded"
  | notFound => "NotFound"
  | alreadyExists => "AlreadyExists"
  | permissionDenied => "PermissionDenied"
  | resourceExhausted => "ResourceExhausted"
  | failedPrecondition => "FailedPrecondition"
  | aborted => "Aborted"
  | outOfRange => "OutOfRange"
  | unimplemented => "Unimplemented"
  | internal => "Internal"
  | unavailable => "Unavailable"
  | dataLoss => "DataLoss"
  | unauthenticated => "Unauthenticated"

end StatusCode

/-- A status with its text. -/
structure Status where
  code : StatusCode
  message : String
deriving DecidableEq

namespace Status

/-- What the caller makes of a status. One that reports success, but comes without a message, is a
fault of the node. -/
def seen (status : Status) : Status :=
  if status.code = .ok then ⟨.internal, "Missing response message."⟩ else status

def text (status : Status) : String := "gRPC " ++ status.code.name ++ ": " ++ status.message

end Status
end ClusterMember.Network

namespace ClusterMember
set_option autoImplicit false

/-! ## Nodes -/

namespace Network

/-- What a node does with a request. -/
inductive NodeAct
  | reply (reply : Reply)
  | status (status : Status)
  | hang
deriving DecidableEq

/-- A node of the control plane. -/
structure Node where
  name : String
  /-- Where it is reached, as `host:port`. -/
  address : String
  down : Bool := false
  /-- What it does with the registrations to come; after them it agrees to all. -/
  register : List NodeAct := []
  /-- What it does with the heartbeats to come; after them it agrees to all. -/
  heartbeat : List NodeAct := []
  accepted : Nat := 0
deriving DecidableEq

namespace Node

/-- What the node does with a request, and the node after it. -/
def receive (request : Request) (node : Node) : NodeAct × Node :=
  match request with
  | .register .. =>
    match node.register with
    | [] => (.reply .accept, node)
    | act :: rest => (act, { node with register := rest })
  | .heartbeat .. =>
    match node.heartbeat with
    | [] => (.reply .accept, node)
    | act :: rest => (act, { node with heartbeat := rest })

end Node
end Network

open Network in
/-- The nodes, and what they have received, the latest first. -/
structure Network where
  nodes : List Node := []
  isolated : Bool := false
  received : List (String × Request) := []
deriving DecidableEq

namespace Network

/-- The first node that has a property is replaced. -/
def modifyFirst (p : Node → Bool) (f : Node → Node) : List Node → List Node
  | [] => []
  | node :: rest => if p node then f node :: rest else node :: modifyFirst p f rest

/-- Where an address leads: a missing port stands for the usual one. A secure connection is never
made. -/
def target? (uri : Uri) : Option String :=
  if uri.scheme = some "https" then none
  else some (uri.host ++ ":" ++ Nat.repr (uri.port?.getD 80))

/-- Open a connection to the node at an address. The node counts it. -/
def connect? (uri : Uri) (network : Network) : Option (String × Network) := do
  if network.isolated then none
  let target ← target? uri
  let node ← network.nodes.find? fun node => node.address = target && !node.down
  some (node.name,
    { network with
      nodes := modifyFirst (·.name = node.name)
        (fun node => { node with accepted := node.accepted + 1 }) network.nodes })

/-- Send a request over an open connection to the node with a name. -/
def deliver (name : String) (request : Request) (network : Network) : NodeAct × Network :=
  match network.nodes.find? (·.name = name) with
  | none => (.hang, network)
  | some node =>
    let (act, after) := node.receive request
    (act,
      { network with
        nodes := modifyFirst (·.name = name) (fun _ => after) network.nodes
        received := (name, request) :: network.received })

end Network
end ClusterMember
