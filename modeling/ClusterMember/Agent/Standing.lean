/-! # An agent seen from outside

What a status page may know of an agent, and all it may know: who the worker is, where the agent is
in its life and which endpoint it calls, and what it has counted.

* `Identity`: the name a worker registers under, the cloud it runs in, and the address it was told
  to advertise, if any; `Identity.address` is the address it announces.
* `Lifecycle`: `notStarted → registering → heartbeating → stopped`; every state can be left for
  `stopped`, and `stopped` for none. A life never goes back in the order of `Lifecycle.rank`.
* `Counters`: the running totals of one agent and the time of its last accepted heartbeat, with one
  operation for each thing that is counted.
* `Standing`: all of this together.
-/

namespace ClusterMember
set_option autoImplicit false

/-! ## Who a worker is -/

/-- A worker as it was configured. An empty `advertised` means that no address was given. -/
structure Identity where
  workerId : String
  cloudTag : String
  advertised : String
deriving DecidableEq, Inhabited

namespace Identity

/-- The address announced to the control plane: the advertised one, or else the worker id. -/
def address (identity : Identity) : String :=
  if identity.advertised = "" then identity.workerId else identity.advertised

theorem address_of_advertised {identity : Identity} (h : identity.advertised ≠ "") :
    identity.address = identity.advertised := if_neg h

theorem address_of_not_advertised {identity : Identity} (h : identity.advertised = "") :
    identity.address = identity.workerId := if_pos h

end Identity

/-! ## Where an agent is in its life -/

/-- The states of an agent. -/
inductive Lifecycle
  | notStarted
  | registering
  | heartbeating
  | stopped
deriving DecidableEq, Inhabited

namespace Lifecycle

def label : Lifecycle → String
  | notStarted => "not_started"
  | registering => "registering"
  | heartbeating => "heartbeating"
  | stopped => "stopped"

/-- The place of a state in the order of a life. -/
def rank : Lifecycle → Nat
  | notStarted => 0
  | registering => 1
  | heartbeating => 2
  | stopped => 3

end Lifecycle

/-! ## What an agent counts -/

/-- The totals of an agent since it was made. They are exact as long as each of them stays below
`2 ^ 64`, which takes more calls than an agent can make. -/
structure Counters where
  registrationAttempts : Nat := 0
  registrations : Nat := 0
  redirects : Nat := 0
  heartbeatsOk : Nat := 0
  heartbeatsRejected : Nat := 0
  heartbeatsFailed : Nat := 0
  /-- Unix seconds of the last accepted heartbeat, 0 if there was none. -/
  lastHeartbeatEpoch : Nat := 0
deriving DecidableEq, Inhabited

namespace Counters

def countAttempt (c : Counters) : Counters :=
  { c with registrationAttempts := c.registrationAttempts + 1 }

def countRegistration (c : Counters) : Counters := { c with registrations := c.registrations + 1 }

def countRedirect (c : Counters) : Counters := { c with redirects := c.redirects + 1 }

/-- A heartbeat was accepted at `epoch`. -/
def countBeat (epoch : Nat) (c : Counters) : Counters :=
  { c with heartbeatsOk := c.heartbeatsOk + 1, lastHeartbeatEpoch := epoch }

def countRejectedBeat (c : Counters) : Counters :=
  { c with heartbeatsRejected := c.heartbeatsRejected + 1 }

def countFailedBeat (c : Counters) : Counters :=
  { c with heartbeatsFailed := c.heartbeatsFailed + 1 }

end Counters

/-! ## All of it -/

/-- The visible part of an agent. -/
structure Standing where
  identity : Identity
  /-- The address currently believed to be the leader's. -/
  endpoint : String
  state : Lifecycle := .notStarted
  counters : Counters := {}
deriving DecidableEq, Inhabited

end ClusterMember
