import ClusterMember.Proofs.Agent.Move
import ClusterMember.Proofs.Json.RoundTrip

/-! # The pages are a faithful view

The pages of a worker are written for machines. Whoever reads them back finds what the agent stands
at, whatever texts are in it.

* `Http.Shows`: how a page is served with `GET` and with `HEAD`.
* `Http.Site.shows_json`, `Http.Site.shows_metrics`: the pages of any site.
* `Agent.pages_are_faithful`: the pages of an agent in a session, and those of a worker without one.
-/

namespace ClusterMember
set_option autoImplicit false

namespace Http

/-- A target shows a page: `GET` answers with the type of the page, the length of its body in bytes and
the body, and `HEAD` with all of this but the body. -/
structure Shows (ask : String → Outcome) (contentType body : String) : Prop where
  get : ask "GET" = .page (some {
    status := 200
    headers := [("content-type", contentType), ("content-length", Nat.repr body.utf8ByteSize)]
    body := body })
  head : ask "HEAD" = .page (some {
    status := 200
    headers := [("content-type", contentType), ("content-length", Nat.repr body.utf8ByteSize)]
    body := "" })

/-- A target shows a document: what is on the page is read back as this value. -/
def ShowsJson (ask : String → Outcome) (json : Json) : Prop :=
  ∃ body, Shows ask "application/json" body ∧ Json.read? body.toList = some json

namespace Site

/-- Ask a site for a target, with any method. -/
def ask (site : Site) (target method : String) : Outcome := .page (site.respond? ⟨method, target⟩)

theorem path?_of_parse? {method target path : String} (hmethod : method ∈ ["GET", "HEAD"])
    (htarget : (Uri.parse? target).map Uri.path = some path) :
    Request.path? ⟨method, target⟩ = some path := by
  have written : method ≠ "" ∧ method.toList.all Request.isMethodChar := by
    simp only [List.mem_cons, List.not_mem_nil, or_false] at hmethod
    obtain rfl | rfl := hmethod <;> decide
  rw [Request.path?, if_pos written, htarget]

/-- A page is shown at every target that leads to its path. -/
theorem shows_of_pageAt? {site : Site} {target contentType body : String} (path : String)
    (htarget : (Uri.parse? target).map Uri.path = some path)
    (hpage : site.pageAt? path = some (page contentType body)) :
    Shows (site.ask target) contentType body := by
  have get := path?_of_parse? (by decide : "GET" ∈ ["GET", "HEAD"]) htarget
  have head := path?_of_parse? (by decide : "HEAD" ∈ ["GET", "HEAD"]) htarget
  constructor
  · simp [ask, respond?, get, hpage, page]
  · simp [ask, respond?, head, hpage, page]

theorem showsJson_of_pageAt? {site : Site} {target : String} {json : Json} (path : String)
    (htarget : (Uri.parse? target).map Uri.path = some path)
    (hpage : site.pageAt? path = some (jsonPage json)) : ShowsJson (site.ask target) json := by
  refine ⟨String.ofList json.render, shows_of_pageAt? path htarget hpage, ?_⟩
  rw [String.toList_ofList, Json.read?_render]

theorem shows_status (site : Site) : ShowsJson (site.ask "/status") site.statusJson :=
  showsJson_of_pageAt? "/status" (by decide) rfl

theorem shows_health (site : Site) : ShowsJson (site.ask "/health") site.healthJson :=
  showsJson_of_pageAt? "/health" (by decide) rfl

theorem shows_metrics (site : Site) :
    Shows (site.ask "/metrics") "text/plain; version=0.0.4; charset=utf-8"
      (exposition site.workerId ((site.agent.map Standing.counters).getD {})) :=
  shows_of_pageAt? "/metrics" (by decide) rfl

end Site
end Http

namespace Agent
variable {σ : Type} [ControlPlane σ]

/-- Ask for a page over an agent. -/
def ask (a : Agent σ) (target method : String) : Outcome := (a.act (.http ⟨method, target⟩)).1

/-- The pages over an agent after any session show who the worker is and where the agent stands, and
the two pages with counters show the same ones. A worker without an agent shows who it is and no
counters but zeros. -/
theorem pages_are_faithful (identity : Identity) (timings : Timings) (epoch : Int) (plane : σ)
    (home : String) (commands : List Command) (workerId cloudTag : String) :
    let b := (new identity timings epoch plane home).after commands
    let c := b.counters
    let alone : Http.Site := { workerId, cloudTag, agent := none }
    Http.ShowsJson (b.ask "/status") (.object [
      ("worker_id", .text identity.workerId), ("cloud_tag", .text identity.cloudTag),
      ("orchestrator_addr", .text b.endpoint), ("heartbeat_active", .flag true),
      ("state", .text b.state.label),
      ("stats", .object [
        ("registration_attempts", .number c.registrationAttempts),
        ("registrations", .number c.registrations), ("redirects", .number c.redirects),
        ("heartbeats_ok", .number c.heartbeatsOk),
        ("heartbeats_rejected", .number c.heartbeatsRejected),
        ("heartbeats_failed", .number c.heartbeatsFailed),
        ("last_heartbeat_epoch", .number c.lastHeartbeatEpoch)])]) ∧
    Http.Shows (b.ask "/metrics") "text/plain; version=0.0.4; charset=utf-8"
      (exposition identity.workerId c) ∧
    Http.ShowsJson (b.ask "/health") (.object [
      ("status", .text "ok"), ("worker_id", .text identity.workerId),
      ("cloud", .text identity.cloudTag)]) ∧
    Http.ShowsJson (alone.ask "/status") (.object [
      ("worker_id", .text workerId), ("cloud_tag", .text cloudTag),
      ("orchestrator_addr", .text "not configured"), ("heartbeat_active", .flag false),
      ("state", .text "disabled")]) ∧
    Http.Shows (alone.ask "/metrics") "text/plain; version=0.0.4; charset=utf-8"
      (exposition workerId ⟨0, 0, 0, 0, 0, 0, 0⟩) ∧
    Http.ShowsJson (alone.ask "/health") (.object [
      ("status", .text "ok"), ("worker_id", .text workerId), ("cloud", .text cloudTag)]) := by
  intro b c alone
  have same : b.identity = identity :=
    (reaches_after commands (new identity timings epoch plane home)).identity_eq
  let site := Http.Site.ofStanding b.standing
  have status : Http.ShowsJson (b.ask "/status") site.statusJson := site.shows_status
  have metrics := site.shows_metrics
  have health : Http.ShowsJson (b.ask "/health") site.healthJson := site.shows_health
  rw [← same]
  exact ⟨status, metrics, health, alone.shows_status, alone.shows_metrics, alone.shows_health⟩

end Agent
end ClusterMember
