import ClusterMember.Agent.Log

/-! # The parameters of a worker

Each parameter of a worker is given by an option of its own or by an environment variable.

* `Parameter`: the parameters.
* `Parameter.option`, `Parameter.envName`, `Parameter.default?`: how they are given.
* `UsageError`, `UsageError.message`: why a command line is refused, or is not a command to run.
* `readPort`, `readPath`, `readLogFormat`: the values that are not taken as they stand.
-/

namespace ClusterMember.CommandLine
set_option autoImplicit false

/-- The parameters, in the order in which they are declared. -/
inductive Parameter
  | workerId
  | cloudTag
  | orchestratorAddr
  | workerAddr
  | httpPort
  | config
  | logFormat
deriving DecidableEq

namespace Parameter

/-- All parameters, in the order in which they are declared. -/
def all : List Parameter :=
  [workerId, cloudTag, orchestratorAddr, workerAddr, httpPort, config, logFormat]

/-- The name of the option for a parameter. -/
def option : Parameter → String
  | workerId => "worker-id"
  | cloudTag => "cloud-tag"
  | orchestratorAddr => "orchestrator-addr"
  | workerAddr => "worker-addr"
  | httpPort => "http-port"
  | config => "config"
  | logFormat => "log-format"

/-- The environment variable for a parameter. -/
def envName : Parameter → String
  | workerId => "WORKER_ID"
  | cloudTag => "WORKER_CLOUD_TAG"
  | orchestratorAddr => "ORCHESTRATOR_ADDR"
  | workerAddr => "WORKER_ADDR"
  | httpPort => "HTTP_PORT"
  | config => "WORKERD_CONFIG"
  | logFormat => "LOG_FORMAT"

/-- The value of a parameter that is not given. The path of the timing file may be missing. -/
def default? : Parameter → Option String
  | workerId => some "worker-unknown"
  | cloudTag => some "unknown"
  | orchestratorAddr => some ""
  | workerAddr => some ""
  | httpPort => some "8081"
  | config => none
  | logFormat => some "json"

def ofOption? (name : String) : Option Parameter := all.find? (·.option = name)

end Parameter

/-- Why a command line is not a command to run. -/
inductive UsageError
  /-- There is no such option, or an argument without one. -/
  | unknownArgument
  /-- A value is missing, or is none of those allowed. -/
  | invalidValue
  /-- A value cannot be read. -/
  | valueValidation
  | argumentConflict
  /-- A value is given to an option that takes none. -/
  | tooManyValues
  | displayHelp
deriving DecidableEq

def UsageError.message : UsageError → String
  | unknownArgument => "unknown argument"
  | invalidValue => "an option has no value, or one that is not allowed"
  | valueValidation => "an option has a value that cannot be read"
  | argumentConflict => "an option is given twice"
  | tooManyValues => "an option is given a value that takes none"
  | displayHelp => "help was asked for"

/-! ## Values -/

/-- A whole number in decimal, with or without a sign. -/
def readInt? (text : List Char) : Option Int :=
  let digits := match text with
    | '+' :: rest | '-' :: rest => rest
    | other => other
  if digits.isEmpty || !digits.all Char.isDigit then none
  else
    let n : Int := Nat.ofDigitChars 10 digits 0
    some (if text.head? = some '-' then -n else n)

/-- A port: a whole number of 16 bits. -/
def readPort (value : String) : Except UsageError UInt16 :=
  match readInt? value.toList with
  | some n => if 0 ≤ n ∧ n < 65536 then .ok (UInt16.ofNat n.toNat) else .error .valueValidation
  | none => .error .valueValidation

/-- A path is not empty. -/
def readPath (value : String) : Except UsageError String :=
  if value = "" then .error .invalidValue else .ok value

def readLogFormat (value : String) : Except UsageError LogFormat :=
  if value = "json" then .ok .json
  else if value = "text" then .ok .text
  else .error .invalidValue

/-- Whether a parameter can have a value. -/
def Parameter.check (parameter : Parameter) (value : String) : Except UsageError Unit :=
  match parameter with
  | .workerId | .cloudTag | .orchestratorAddr | .workerAddr => .ok ()
  | .httpPort => do let _ ← readPort value
  | .config => do let _ ← readPath value
  | .logFormat => do let _ ← readLogFormat value

end ClusterMember.CommandLine
