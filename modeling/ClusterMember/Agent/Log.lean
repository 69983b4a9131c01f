import ClusterMember.Reply
import ClusterMember.Json
import ClusterMember.Agent.Standing

/-! # What an agent notes down

Everything an agent writes to its log is one of these notices; nothing it does depends on them. A
log holds one line for each notice, either a document or plain words.

* `Notice`: what happened, with the data that belongs to it.
* `Notice.level`, `Notice.message`, `Notice.fields`: how a notice appears in the log.
* `LogFormat`: the two ways to write a line.
* `Notice.json`, `Notice.words`: a notice in each of them.
-/

namespace ClusterMember
set_option autoImplicit false

/-! ## Notices -/

/-- How much attention a notice asks for. -/
inductive Level
  | debug
  | info
  | warn
deriving DecidableEq

/-- The value of a field of a log entry. -/
inductive FieldValue
  | text (value : String)
  | number (value : Nat)
deriving DecidableEq

/-- What an agent notes down. -/
inductive Notice
  | starting (endpoint : String)
  | registered (endpoint : String)
  /-- A registration was sent on to `leader`. -/
  | registrationRedirected (leader was : String)
  /-- A registration failed or was refused, and is tried again after `wait`. -/
  | retrying (endpoint : String) (fault : Fault) (wait : Duration)
  /-- The first heartbeat is about to be sent. -/
  | beatsStarted (endpoint : String) (interval : Duration)
  | beatAccepted (endpoint : String)
  /-- A heartbeat was accepted after `missed` that were not. -/
  | recovered (missed : Nat)
  /-- A heartbeat was sent on to `leader`. -/
  | beatRedirected (leader was : String)
  /-- Where the heartbeat after a redirect goes. -/
  | nextBeat (leader : String)
  | beatRejected (endpoint reason : String)
  | beatFailed (endpoint : String) (fault : Fault)
  | beatCrashed (endpoint : String) (crash : Crash)
  | stillMissing (missed : Nat) (reason : String)
  | beatsEnded
  /-- The agent was told to stop in the state `left`. -/
  | stopped (left : Lifecycle)
  | connected (endpoint : String)
deriving DecidableEq

namespace Notice

def level : Notice → Level
  | beatAccepted .. | nextBeat .. | connected .. => .debug
  | retrying .. | beatRejected .. | beatFailed .. | beatCrashed .. | stillMissing .. => .warn
  | starting .. | registered .. | registrationRedirected .. | beatsStarted .. | recovered ..
  | beatRedirected .. | beatsEnded | stopped .. => .info

def message : Notice → String
  | starting .. => "membership agent starting"
  | registered .. => "registered with control plane"
  | registrationRedirected .. => "registration redirected to leader"
  | retrying _ fault _ =>
    if fault.isTransport then "control plane unreachable, retrying"
    else "registration rejected, retrying"
  | beatsStarted .. => "heartbeat loop started"
  | beatAccepted .. => "heartbeat ok"
  | recovered .. => "heartbeat recovered"
  | beatRedirected .. => "heartbeat redirected to leader"
  | nextBeat .. => "next heartbeat goes to new leader"
  | beatRejected .. => "heartbeat rejected"
  | beatFailed .. => "heartbeat failed"
  | beatCrashed .. => "heartbeat faulted"
  | stillMissing .. => "heartbeats still not landing"
  | beatsEnded => "heartbeat loop shutting down"
  | stopped .. => "membership agent stopped"
  | connected .. => "connected to control plane"

def details : Notice → List (String × FieldValue)
  | starting endpoint => [("endpoint", .text endpoint)]
  | registered endpoint => [("endpoint", .text endpoint)]
  | registrationRedirected leader was => [("leader", .text leader), ("was", .text was)]
  | retrying endpoint fault wait =>
    [("endpoint", .text endpoint), ("error", .text fault.message), ("retry_in", .text wait.text)]
  | beatsStarted endpoint interval =>
    [("endpoint", .text endpoint), ("interval", .text interval.text)]
  | beatAccepted endpoint => [("endpoint", .text endpoint)]
  | recovered missed => [("missed", .number missed)]
  | beatRedirected leader was => [("leader", .text leader), ("was", .text was)]
  | nextBeat leader => [("leader", .text leader)]
  | beatRejected endpoint reason => [("endpoint", .text endpoint), ("error", .text reason)]
  | beatFailed endpoint fault => [("endpoint", .text endpoint), ("error", .text fault.message)]
  | beatCrashed endpoint crash => [("endpoint", .text endpoint), ("error", .text crash.message)]
  | stillMissing missed reason => [("missed", .number missed), ("last_error", .text reason)]
  | beatsEnded => []
  | stopped left => [("from", .text left.label)]
  | connected endpoint => [("endpoint", .text endpoint)]

/-- Every notice names the worker, but for that of a connection, which belongs to no worker. -/
def fields (workerId : String) (notice : Notice) : List (String × FieldValue) :=
  match notice with
  | connected _ => notice.details
  | _ => ("worker_id", .text workerId) :: notice.details

end Notice

/-! ## Lines -/

/-- How log entries are written. -/
inductive LogFormat
  | json
  | text
deriving DecidableEq

def LogFormat.label : LogFormat → String
  | json => "json"
  | text => "text"

def Level.label : Level → String
  | debug => "DEBUG"
  | info => "INFO"
  | warn => "WARN"

def FieldValue.json : FieldValue → Json
  | text value => .text value
  | number value => .number value

def FieldValue.words : FieldValue → String
  | text value => value
  | number value => Nat.repr value

namespace Notice

def json (workerId : String) (notice : Notice) : Json :=
  .object [
    ("level", .text notice.level.label),
    ("message", .text notice.message),
    ("fields", .object ((notice.fields workerId).map fun (name, value) => (name, value.json)))]

/-- A notice in plain words: the level, the headline, and the fields by their names. -/
def words (workerId : String) (notice : Notice) : String :=
  " ".intercalate (notice.level.label :: notice.message ::
    (notice.fields workerId).map fun (name, value) => name ++ "=" ++ value.words)

def line (format : LogFormat) (workerId : String) (notice : Notice) : String :=
  match format with
  | .json => String.ofList (notice.json workerId).render
  | .text => notice.words workerId

end Notice
end ClusterMember
