import ClusterMember.Agent.Standing

/-! # Counters as a metrics page

The text exposition of an agent's counters: for each metric a line of help, a line with its kind,
and one sample, whose label carries the worker id.

* `Metric`, `metrics`: the seven metrics and the counter that each of them shows.
* `escapeLabel`, `readLabel?`: how a label value is written between its quotes, and read back.
* `exposition`: the whole page.
-/

namespace ClusterMember
set_option autoImplicit false

/-- Whether a metric only ever grows. -/
inductive MetricKind
  | counter
  | gauge
deriving DecidableEq

namespace MetricKind

def label : MetricKind → String
  | counter => "counter"
  | gauge => "gauge"

end MetricKind

/-- One metric of the page. -/
structure Metric where
  name : String
  kind : MetricKind
  help : String
  value : Counters → Nat

/-- The metrics in the order of the page. -/
def metrics : List Metric := [
  ⟨"worker_registration_attempts_total", .counter, "RegisterWorker calls sent.",
    Counters.registrationAttempts⟩,
  ⟨"worker_registrations_total", .counter, "Accepted registrations.", Counters.registrations⟩,
  ⟨"worker_leader_redirects_total", .counter, "Redirects to another leader followed.",
    Counters.redirects⟩,
  ⟨"worker_heartbeats_ok_total", .counter, "Accepted heartbeats.", Counters.heartbeatsOk⟩,
  ⟨"worker_heartbeats_rejected_total", .counter, "Heartbeats refused without a redirect.",
    Counters.heartbeatsRejected⟩,
  ⟨"worker_heartbeats_failed_total", .counter, "Heartbeats that failed below the protocol layer.",
    Counters.heartbeatsFailed⟩,
  ⟨"worker_last_heartbeat_epoch_seconds", .gauge, "Unix time of the last accepted heartbeat.",
    Counters.lastHeartbeatEpoch⟩]

/-! ## Labels -/

/-- A label value between its quotes: backslash, quote and line feed are escaped. -/
def escapeLabel : List Char → List Char
  | [] => []
  | c :: rest =>
    if c = '\\' then '\\' :: '\\' :: escapeLabel rest
    else if c = '"' then '\\' :: '"' :: escapeLabel rest
    else if c = '\n' then '\\' :: 'n' :: escapeLabel rest
    else c :: escapeLabel rest

/-- Read a label value up to its closing quote; what follows the quote comes second. -/
def readLabel? : List Char → Option (List Char × List Char)
  | [] => none
  | '"' :: rest => some ([], rest)
  | '\\' :: '\\' :: rest => (readLabel? rest).map fun (label, rest) => ('\\' :: label, rest)
  | '\\' :: '"' :: rest => (readLabel? rest).map fun (label, rest) => ('"' :: label, rest)
  | '\\' :: 'n' :: rest => (readLabel? rest).map fun (label, rest) => ('\n' :: label, rest)
  | c :: rest =>
    if c = '\\' then none
    else (readLabel? rest).map fun (label, rest) => (c :: label, rest)

/-! ## The page -/

namespace Metric

def sample (m : Metric) (workerId : String) (c : Counters) : List Char :=
  m.name.toList ++ "\x7bworker=\"".toList ++ escapeLabel workerId.toList ++ "\"\x7d ".toList ++
    Nat.toDigits 10 (m.value c) ++ ['\n']

def lines (m : Metric) (workerId : String) (c : Counters) : List Char :=
  "# HELP ".toList ++ m.name.toList ++ [' '] ++ m.help.toList ++ ['\n'] ++
    "# TYPE ".toList ++ m.name.toList ++ [' '] ++ m.kind.label.toList ++ ['\n'] ++
    m.sample workerId c

end Metric

def exposition (workerId : String) (c : Counters) : String :=
  String.ofList (metrics.flatMap fun m => m.lines workerId c)

end ClusterMember
