import ClusterMember.Agent.Standing
import ClusterMember.Exposition
import ClusterMember.Json
import ClusterMember.Uri

/-! # Requests and the pages of a worker

A worker shows three pages: its health, its status and its metrics. All of them are read off a
`Site` and change nothing.

* `Http.Request`, `Http.Request.ofLine`: a method and the address it is applied to, both as they
  were written.
* `Http.Request.path?`: the path of a request that can be put on a request line.
* `Http.Response`: the status, the header fields and the body of an answer.
* `Http.Site`: what the pages are about.
* `Http.Site.health`, `Http.Site.status`, `Http.Site.metricsPage`: the pages.
* `Http.Site.respond?`: the answer to a request.
-/

namespace ClusterMember.Http
set_option autoImplicit false

/-! ## Requests and responses -/

/-- A request as it was written. -/
structure Request where
  method : String := "GET"
  target : String
deriving DecidableEq

/-- An answer. -/
structure Response where
  status : Nat
  headers : List (String × String) := []
  body : String := ""
deriving DecidableEq

namespace Request

/-- The request on a line: a method and an address with a blank between them, or an address alone. -/
def ofLine (line : String) : Request :=
  let text := line.toList.takeWhile (· ≠ '\n')
  match text.dropWhile (· ≠ ' ') with
  | [] => { target := String.ofList text }
  | _ :: target => ⟨String.ofList (text.takeWhile (· ≠ ' ')), String.ofList target⟩

def isMethodChar (c : Char) : Bool :=
  c.isAlphanum || "!#$%&'*+-.^_|~".toList.contains c || c.val = 0x60

/-- The path of the target, or `none` for a request that cannot be written on a request line. -/
def path? (request : Request) : Option String :=
  if request.method ≠ "" ∧ request.method.toList.all isMethodChar then
    (Uri.parse? request.target).map Uri.path
  else none

end Request

/-! ## What the pages show -/

/-- What the pages show: who the worker is and, if it has an agent, where the agent stands. -/
structure Site where
  workerId : String
  cloudTag : String
  agent : Option Standing := none

namespace Site

def ofStanding (standing : Standing) : Site :=
  ⟨standing.identity.workerId, standing.identity.cloudTag, some standing⟩

/-! ## Bodies -/

def countersJson (c : Counters) : Json :=
  .object [
    ("registration_attempts", .number c.registrationAttempts),
    ("registrations", .number c.registrations),
    ("redirects", .number c.redirects),
    ("heartbeats_ok", .number c.heartbeatsOk),
    ("heartbeats_rejected", .number c.heartbeatsRejected),
    ("heartbeats_failed", .number c.heartbeatsFailed),
    ("last_heartbeat_epoch", .number c.lastHeartbeatEpoch)]

def healthJson (site : Site) : Json :=
  .object [
    ("status", .text "ok"), ("worker_id", .text site.workerId), ("cloud", .text site.cloudTag)]

/-- Who the worker is and where its agent stands. The counters are shown only if it has one. -/
def statusJson (site : Site) : Json :=
  match site.agent with
  | some agent =>
    .object [
      ("worker_id", .text site.workerId), ("cloud_tag", .text site.cloudTag),
      ("orchestrator_addr", .text agent.endpoint), ("heartbeat_active", .flag true),
      ("state", .text agent.state.label), ("stats", countersJson agent.counters)]
  | none =>
    .object [
      ("worker_id", .text site.workerId), ("cloud_tag", .text site.cloudTag),
      ("orchestrator_addr", .text "not configured"), ("heartbeat_active", .flag false),
      ("state", .text "disabled")]

/-! ## Pages -/

/-- A page with its type and its length in bytes. -/
def page (contentType body : String) : Response where
  status := 200
  headers := [("content-type", contentType), ("content-length", Nat.repr body.utf8ByteSize)]
  body := body

def jsonPage (json : Json) : Response := page "application/json" (String.ofList json.render)

def health (site : Site) : Response := jsonPage site.healthJson

def status (site : Site) : Response := jsonPage site.statusJson

/-- The metrics page; without an agent all counters are zero. -/
def metricsPage (site : Site) : Response :=
  page "text/plain; version=0.0.4; charset=utf-8"
    (exposition site.workerId ((site.agent.map Standing.counters).getD {}))

def pageAt? (site : Site) (path : String) : Option Response :=
  if path = "/health" then some site.health
  else if path = "/status" then some site.status
  else if path = "/metrics" then some site.metricsPage
  else none

/-! ## Answers to requests -/

/-- The answer to a path that leads nowhere. Only for a target without a path of its own, which is `*` or
an authority, is the length of the empty body announced. -/
def notFound (path : String) : Response where
  status := 404
  headers := if path.toList.head? = some '/' then [] else [("content-length", "0")]

def notAllowed : Response where
  status := 405
  headers := [("allow", "GET,HEAD"), ("content-length", "0")]

/-- The answer to a request, or `none` to one that cannot be written on a request line. Pages are
read with `GET`; `HEAD` leaves out the body and keeps the rest. -/
def respond? (site : Site) (request : Request) : Option Response :=
  request.path?.map fun path =>
    match site.pageAt? path with
    | none => notFound path
    | some response =>
      if request.method = "GET" then response
      else if request.method = "HEAD" then { response with body := "" }
      else notAllowed

end Site
end ClusterMember.Http
