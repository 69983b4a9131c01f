import ClusterMember.Agent.Basic
import ClusterMember.CommandLine.Arguments

/-! # From a command line to settings

A parameter has the value of its option; if that is not given, the value of its environment
variable; if that is not set, its default. A variable that is not needed is not looked at.

* `Settings`: what a worker is told, wherever it comes from.
* `Settings.agent?`: the agent that the settings ask for.
* `CommandLine.Options`: the values of all parameters.
* `CommandLine.resolve`: what arguments and environment come to.
* `CommandLine.Options.settings`: the settings of the worker.
-/

namespace ClusterMember
set_option autoImplicit false

/-! ## Settings -/

/-- The settings of a worker. -/
structure Settings where
  workerId : String
  cloudTag : String
  /-- The first address of the control plane; empty if there is none. -/
  orchestratorAddr : String
  /-- The address to advertise; empty for the worker id. -/
  workerAddr : String
  httpPort : UInt16 := 8081
  timings : Timings := {}
deriving DecidableEq

namespace Settings

/-- Who the worker is. -/
def identity (settings : Settings) : Identity :=
  ⟨settings.workerId, settings.cloudTag, settings.workerAddr⟩

/-- A worker has an agent if it was told of a control plane. -/
def agent? {σ : Type} (plane : σ) (settings : Settings) : Option (Agent σ) :=
  if settings.orchestratorAddr = "" then none
  else
    some
      { identity := settings.identity
        timings := settings.timings
        plane := plane
        endpoint := settings.orchestratorAddr }

end Settings
end ClusterMember

namespace ClusterMember.CommandLine
set_option autoImplicit false

/-! ## Values of all parameters -/

/-- The values of all parameters. -/
structure Options where
  workerId : String
  cloudTag : String
  orchestratorAddr : String
  workerAddr : String
  httpPort : UInt16
  config : Option String
  logFormat : LogFormat
deriving DecidableEq

def pick? (given : Given) (environment : String → Option String) (parameter : Parameter) :
    Option String :=
  match given.value? parameter with
  | some value => some value
  | none =>
    match environment parameter.envName with
    | some value => some value
    | none => parameter.default?

/-- The values of all parameters, read in the order of their declaration. -/
def Options.ofGiven (given : Given) (environment : String → Option String) :
    Except UsageError Options := do
  let text (parameter : Parameter) : String := (pick? given environment parameter).getD ""
  let httpPort ← readPort (text .httpPort)
  let config ← match pick? given environment .config with
    | none => .ok none
    | some path => (readPath path).map some
  let logFormat ← readLogFormat (text .logFormat)
  return {
    workerId := text .workerId
    cloudTag := text .cloudTag
    orchestratorAddr := text .orchestratorAddr
    workerAddr := text .workerAddr
    httpPort
    config
    logFormat }

def resolve (environment : String → Option String) (arguments : List String) :
    Except UsageError Options :=
  match readArguments arguments with
  | .ok given => Options.ofGiven given environment
  | .error e => .error e

/-- The settings of the worker, with the timings that a file gives. -/
def Options.settings (options : Options) (timings : Timings) : Settings where
  workerId := options.workerId
  cloudTag := options.cloudTag
  orchestratorAddr := options.orchestratorAddr
  workerAddr := options.workerAddr
  httpPort := options.httpPort
  timings := timings

end ClusterMember.CommandLine
