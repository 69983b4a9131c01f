import ClusterMember.Duration
import ClusterMember.Toml.Document

/-! # The timing file

An optional settings file tunes the timings of the agent, each in whole seconds, in its table
`membership`. What the file leaves out keeps its default, and what it does not know it ignores.

* `Setting`, `TimingFile`: the four settings, and their values.
* `TimingFile.parse`, `TimingFile.read`: from a text, or from the bytes of a file.
* `TimingFile.Error`, `TimingFile.Error.message`: why a file is refused.
* `TimingFile.source`: settings as the text of a file.
-/

namespace ClusterMember
set_option autoImplicit false

/-! ## Settings -/

/-- What a timing file can set. -/
inductive Setting
  | heartbeatInterval
  | retryDelay
  | registerTimeout
  | heartbeatTimeout
deriving DecidableEq

namespace Setting

/-- The settings in the order in which they are declared. -/
def all : List Setting := [heartbeatInterval, retryDelay, registerTimeout, heartbeatTimeout]

def key : Setting → String
  | heartbeatInterval => "heartbeat_interval_secs"
  | retryDelay => "retry_delay_secs"
  | registerTimeout => "register_timeout_secs"
  | heartbeatTimeout => "heartbeat_timeout_secs"

end Setting

/-- The values of the settings, in seconds. -/
structure TimingFile where
  heartbeatInterval : UInt64 := 5
  retryDelay : UInt64 := 5
  registerTimeout : UInt64 := 5
  heartbeatTimeout : UInt64 := 3
deriving DecidableEq

namespace TimingFile

def get (file : TimingFile) : Setting → UInt64
  | .heartbeatInterval => file.heartbeatInterval
  | .retryDelay => file.retryDelay
  | .registerTimeout => file.registerTimeout
  | .heartbeatTimeout => file.heartbeatTimeout

def timings (file : TimingFile) : Timings where
  heartbeatInterval := .ofSecs file.heartbeatInterval
  retryDelay := .ofSecs file.retryDelay
  registerTimeout := .ofSecs file.registerTimeout
  heartbeatTimeout := .ofSecs file.heartbeatTimeout

/-- Why a timing file is refused. -/
inductive Error
  | notFound
  | notText
  /-- The text is no settings file, or sets something to a value it cannot have. -/
  | malformed
  | zero (setting : Setting)
deriving DecidableEq

def Error.message : Error → String
  | notFound => "no such file"
  | notText => "the file is no text"
  | malformed => "the file holds no settings"
  | zero setting => "membership." ++ setting.key ++ " must be at least 1"

/-! ## Values from a tree -/

/-- A number of seconds. -/
def seconds? : Toml.Node → Option UInt64
  | .integer n => if 0 ≤ n then some n.toUInt64 else none
  | _ => none

/-- The value of a setting, or its default where nothing is found for it. -/
def value? (found : Setting → Option Toml.Node) (setting : Setting) : Option UInt64 :=
  match found setting with
  | none => some (({} : TimingFile).get setting)
  | some node => seconds? node

/-- The values of all settings, each from what is found for it. -/
def ofFound? (found : Setting → Option Toml.Node) : Option TimingFile := do
  let heartbeatInterval ← value? found .heartbeatInterval
  let retryDelay ← value? found .retryDelay
  let registerTimeout ← value? found .registerTimeout
  let heartbeatTimeout ← value? found .heartbeatTimeout
  some { heartbeatInterval, retryDelay, registerTimeout, heartbeatTimeout }

/-- The settings in a value: by their keys in a table, by their order in an array. A date counts as
a table without any of them, and a list of tables as an array whose first item is no number. -/
def ofNode? : Toml.Node → Option TimingFile
  | .table _ entries | .inline entries => ofFound? fun setting => Toml.lookup setting.key entries
  | .array items => ofFound? fun setting => items[Setting.all.idxOf setting]?
  | .moment => some {}
  | .text _ | .integer _ | .float | .boolean _ | .tables .. => none

def ofRoot? (root : Toml.Entries) : Option TimingFile :=
  match Toml.lookup "membership" root with
  | none => some {}
  | some node => ofNode? node

/-! ## Whole files -/

/-- A file without a zero; the first setting that is one is what it is refused for. -/
def check (file : TimingFile) : Except Error TimingFile :=
  match Setting.all.find? (file.get · = 0) with
  | none => .ok file
  | some setting => .error (.zero setting)

def parse (source : String) : Except Error TimingFile :=
  match (Toml.parse? source).bind ofRoot? with
  | none => .error .malformed
  | some file => file.check

/-- Read a timing file, given by its bytes if it exists. -/
def read (file : Option ByteArray) : Except Error TimingFile :=
  match file with
  | none => .error .notFound
  | some bytes =>
    match String.fromUTF8? bytes with
    | none => .error .notText
    | some source => parse source

/-- The text of a timing file with a line for each of some settings, in their order. -/
def source (lines : List (Setting × Nat)) : String :=
  String.ofList ("[membership]\n".toList ++
    lines.flatMap fun (setting, value) =>
      setting.key.toList ++ " = ".toList ++ Nat.toDigits 10 value ++ ['\n'])

end TimingFile
end ClusterMember
