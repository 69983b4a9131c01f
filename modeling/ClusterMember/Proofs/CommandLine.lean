import ClusterMember.CommandLine.Resolve
import ClusterMember.Proofs.Lists

/-! # What a command line comes to

A line that gives some options, each of them once, is read as the values that it gives. Their order
and the forms they are given in can only decide which of several mistakes a line is refused for.

* `Assignment`, `Line`: options with their values, and lines of them.
* `readFrom_arguments`, `readArguments_eq_ok_iff`: how a line is read.
* `Line.value?`, `Options.Hold`, `resolve_eq_ok_iff`: what a line comes to in an environment.
* `Fresh`: the agent of a worker that has not started it yet.
* `settings_by_precedence`: the settings and the agent that a line and an environment come to, and
  what they do not depend on.
-/

namespace ClusterMember.CommandLine
set_option autoImplicit false

/-! ## Lines -/

/-- An option with its value, as it is given. -/
structure Assignment where
  parameter : Parameter
  form : Form
  value : String
deriving DecidableEq

namespace Assignment

def arguments (a : Assignment) : List String := a.parameter.arguments a.form a.value

/-- What is given, without regard to the form. -/
def content (a : Assignment) : Parameter × String := (a.parameter, a.value)

end Assignment

/-- A line that gives some options, each of them once. A value that stands by itself does not begin
with a dash. -/
structure Line where
  assignments : List Assignment
  distinct : (assignments.map Assignment.parameter).Nodup
  clear : ∀ a ∈ assignments, a.form = .apart → a.value.toList.head? ≠ some '-'

namespace Line

def arguments (line : Line) : List String := line.assignments.flatMap Assignment.arguments

/-- The values that a line gives. -/
def contents (line : Line) : List (Parameter × String) := line.assignments.map Assignment.content

theorem distinct_contents (line : Line) : (line.contents.map Prod.fst).Nodup := by
  have h := line.distinct
  rwa [show line.assignments.map Assignment.parameter = line.contents.map Prod.fst by
    rw [contents, List.map_map]
    rfl] at h

end Line

/-! ## Arguments by their looks -/

theorem Parameter.ofOption?_option (parameter : Parameter) :
    Parameter.ofOption? parameter.option = some parameter := by
  cases parameter <;> decide

theorem Parameter.equals_notMem_option (parameter : Parameter) :
    ∀ c ∈ parameter.option.toList, decide (c ≠ '=') = true := by
  cases parameter <;> simp [Parameter.option]

theorem Argument.ofText_option (parameter : Parameter) :
    Argument.ofText ("--" ++ parameter.option) = .long parameter.option none := by
  cases parameter <;> decide

theorem Argument.ofText_attached (parameter : Parameter) (value : String) :
    Argument.ofText ("--" ++ parameter.option ++ "=" ++ value) =
      .long parameter.option (some value) := by
  have opening : ("--" ++ parameter.option ++ "=" ++ value).toList =
      '-' :: '-' :: (parameter.option.toList ++ '=' :: value.toList) := by
    simp [String.toList_append]
  have stop : ∀ c ∈ ('=' :: value.toList).head?, decide (c ≠ '=') = false := by simp
  obtain ⟨name, rest⟩ := takeWhile_append_stop parameter.equals_notMem_option stop
  rw [Argument.ofText, opening]
  split
  · next h => simp at h
  · next tail _ h =>
    obtain rfl : _ = tail := (List.cons.inj (List.cons.inj h).2).2
    simp only [name, rest, String.ofList_toList]
  · next dashless h => exact absurd (List.cons.inj (List.cons.inj h).2).1.symm dashless
  · next other => exact absurd rfl (other _ _)

theorem Argument.ofText_value {value : String} (h : value.toList.head? ≠ some '-') :
    Argument.ofText value = .plain value := by
  unfold Argument.ofText
  split
  · next opening => simp [opening] at h
  · next opening => simp [opening] at h
  · next opening => simp [opening] at h
  · rfl

/-! ## Reading a line -/

theorem readFrom_apart {value : String} (clear : value.toList.head? ≠ some '-')
    (parameter : Parameter) (awaiting : Awaiting) (given : Given) (rest : List String) :
    readFrom awaiting given (("--" ++ parameter.option) :: value :: rest) =
      (conclude awaiting given).bind fun given =>
        readFrom (.verdict parameter value) given rest := by
  rw [readFrom, Argument.ofText_option]
  simp only [Parameter.ofOption?_option]
  cases conclude awaiting given with
  | error e => rfl
  | ok given =>
    simp only [readFrom, Argument.ofText_value clear]
    rfl

theorem readFrom_attached (parameter : Parameter) (value : String) (awaiting : Awaiting)
    (given : Given) (rest : List String) :
    readFrom awaiting given (("--" ++ parameter.option ++ "=" ++ value) :: rest) =
      (conclude awaiting given).bind fun given =>
        (accept parameter value given).bind fun given => readFrom .nothing given rest := by
  rw [readFrom, Argument.ofText_attached]
  simp only [Parameter.ofOption?_option]
  cases conclude awaiting given with
  | error e => rfl
  | ok given =>
    simp only [Except.bind]
    cases accept parameter value given <;> rfl

/-- Take values one after another. -/
def acceptAll (contents : List (Parameter × String)) (given : Given) : Except UsageError Given :=
  contents.foldlM (fun given (parameter, value) => accept parameter value given) given

theorem acceptAll_cons (parameter : Parameter) (value : String)
    (contents : List (Parameter × String)) (given : Given) :
    acceptAll ((parameter, value) :: contents) given =
      (accept parameter value given).bind (acceptAll contents) := rfl

/-- What is read of a line does not depend on the forms in which its values are given. -/
theorem readFrom_arguments {assignments : List Assignment}
    (clear : ∀ a ∈ assignments, a.form = .apart → a.value.toList.head? ≠ some '-')
    (awaiting : Awaiting) (given : Given) :
    readFrom awaiting given (assignments.flatMap Assignment.arguments) =
      (conclude awaiting given).bind (acceptAll (assignments.map Assignment.content)) := by
  -- A value that stands by itself is taken only when the next option is read, so what is awaited
  -- varies along the line.
  induction assignments generalizing awaiting given with
  | nil =>
    rw [List.flatMap_nil, readFrom]
    cases conclude awaiting given <;> rfl
  | cons a assignments ih =>
    obtain ⟨first, others⟩ := List.forall_mem_cons.1 clear
    have next (awaiting : Awaiting) (given : Given) := ih others awaiting given
    obtain ⟨parameter, form, value⟩ := a
    cases form with
    | apart =>
      show readFrom awaiting given (("--" ++ parameter.option) :: value :: List.flatMap _ _) = _
      rw [readFrom_apart (first rfl)]
      exact congrArg _ (funext fun given => next (.verdict parameter value) given)
    | attached =>
      show readFrom awaiting given
        (("--" ++ parameter.option ++ "=" ++ value) :: List.flatMap _ _) = _
      rw [readFrom_attached]
      refine congrArg _ (funext fun given => ?_)
      exact congrArg _ (funext fun given => next .nothing given)

theorem accept_of_new {parameter : Parameter} {given : Given} (new : given.value? parameter = none)
    (value : String) :
    accept parameter value given =
      (parameter.check value).map fun _ => (parameter, value) :: given := by
  rw [accept, new]
  cases parameter.check value <;> rfl

theorem acceptAll_eq_ok_iff {contents : List (Parameter × String)} {given result : Given}
    (distinct : (contents.map Prod.fst).Nodup)
    (new : ∀ content ∈ contents, given.value? content.1 = none) :
    acceptAll contents given = .ok result ↔
      (∀ content ∈ contents, content.1.check content.2 = .ok ()) ∧
      result = contents.reverse ++ given := by
  induction contents generalizing given with
  | nil =>
    show Except.ok given = .ok result ↔ _
    simp [eq_comm]
  | cons content contents ih =>
    obtain ⟨parameter, value⟩ := content
    obtain ⟨first, others⟩ := List.forall_mem_cons.1 new
    obtain ⟨absent, distinct⟩ := List.nodup_cons.1 distinct
    rw [acceptAll_cons, accept_of_new first, List.forall_mem_cons]
    cases parameter.check value with
    | error e => simp [Except.map, Except.bind]
    | ok checked =>
      have still : ∀ content ∈ contents,
          Given.value? content.1 ((parameter, value) :: given) = none := by
        intro content mem
        have other : content.1 ≠ parameter := fun same =>
          absent (List.mem_map.2 ⟨content, mem, same⟩)
        rw [Given.value?, List.lookup_cons, beq_false_of_ne other]
        exact others content mem
      show acceptAll contents ((parameter, value) :: given) = _ ↔ _
      rw [ih distinct still]
      simp

namespace Line

theorem readArguments_eq_ok_iff (line : Line) {given : Given} :
    readArguments line.arguments = .ok given ↔
      (∀ content ∈ line.contents, content.1.check content.2 = .ok ()) ∧
      given = line.contents.reverse := by
  have read : readArguments line.arguments = acceptAll line.contents [] :=
    readFrom_arguments line.clear .nothing []
  rw [read, acceptAll_eq_ok_iff line.distinct_contents (by simp [Given.value?]), List.append_nil]

/-- The value of a parameter: what its option gives, or else its variable, or else the default. -/
def value? (line : Line) (environment : String → Option String) (parameter : Parameter) :
    Option String :=
  (line.contents.lookup parameter).or ((environment parameter.envName).or parameter.default?)

theorem pick?_reverse (line : Line) (environment : String → Option String) (parameter : Parameter) :
    pick? line.contents.reverse environment parameter = line.value? environment parameter := by
  have same := lookup_of_perm line.contents.reverse_perm.symm line.distinct_contents parameter
  rw [pick?, Given.value?, ← same, value?]
  cases line.contents.lookup parameter with
  | some value => rfl
  | none => cases environment parameter.envName <;> rfl

end Line

/-! ## From values to settings -/

/-- The values of all parameters as texts tell them. -/
structure Options.Hold (options : Options) (value? : Parameter → Option String) : Prop where
  workerId : value? .workerId = some options.workerId
  cloudTag : value? .cloudTag = some options.cloudTag
  orchestratorAddr : value? .orchestratorAddr = some options.orchestratorAddr
  workerAddr : value? .workerAddr = some options.workerAddr
  httpPort : ∃ text, value? .httpPort = some text ∧ readPort text = .ok options.httpPort
  config : value? .config = options.config ∧ options.config ≠ some ""
  logFormat : ∃ text, value? .logFormat = some text ∧ readLogFormat text = .ok options.logFormat

theorem Options.Hold.check {options : Options} {value? : Parameter → Option String}
    (h : options.Hold value?) {parameter : Parameter} {value : String}
    (given : value? parameter = some value) : parameter.check value = .ok () := by
  cases parameter with
  | workerId | cloudTag | orchestratorAddr | workerAddr => rfl
  | httpPort =>
    obtain ⟨text, found, read⟩ := h.httpPort
    cases found.symm.trans given
    rw [Parameter.check, read]
    rfl
  | config =>
    have named := h.config.2
    rw [← h.config.1, given] at named
    rw [Parameter.check, readPath, if_neg fun empty => named (congrArg some empty)]
    rfl
  | logFormat =>
    obtain ⟨text, found, read⟩ := h.logFormat
    cases found.symm.trans given
    rw [Parameter.check, read]
    rfl

/-- Only the path of a timing file may be missing. -/
theorem exists_pick? (given : Given) (environment : String → Option String) {parameter : Parameter}
    (h : parameter ≠ .config) : ∃ value, pick? given environment parameter = some value := by
  have fallback : ∃ value, parameter.default? = some value := by
    cases parameter <;> first | exact absurd rfl h | exact ⟨_, rfl⟩
  rw [pick?]
  cases given.value? parameter with
  | some value => exact ⟨value, rfl⟩
  | none =>
    cases environment parameter.envName with
    | some value => exact ⟨value, rfl⟩
    | none => exact fallback

theorem bind_eq_ok_iff {ε α β : Type} {x : Except ε α} {f : α → Except ε β} {b : β} :
    x >>= f = .ok b ↔ ∃ a, x = .ok a ∧ f a = .ok b := by
  cases x with
  | error e => exact ⟨nofun, fun ⟨a, h, _⟩ => nomatch h⟩
  | ok a => exact ⟨fun h => ⟨a, rfl, h⟩, fun ⟨_, same, h⟩ => Except.ok.inj same ▸ h⟩

/-- The path of the timing file, if one is named. -/
def readConfig (found : Option String) : Except UsageError (Option String) :=
  match found with
  | none => .ok none
  | some path => (readPath path).map some

theorem readConfig_eq_ok_iff {found config : Option String} :
    readConfig found = .ok config ↔ found = config ∧ config ≠ some "" := by
  cases found with
  | none =>
    rw [readConfig, Except.ok.injEq]
    exact ⟨fun same => ⟨same, same ▸ nofun⟩, And.left⟩
  | some path =>
    rw [readConfig, readPath]
    split
    · next empty => exact ⟨nofun, fun ⟨same, named⟩ => absurd (empty ▸ same.symm) named⟩
    · next named =>
      show Except.ok (some path) = .ok config ↔ _
      rw [Except.ok.injEq]
      exact ⟨fun same => ⟨same, fun h => named (Option.some.inj (same.trans h))⟩, And.left⟩

/-- The values in the order in which they are read. -/
theorem Options.ofGiven_eq (given : Given) (environment : String → Option String) :
    let text (parameter : Parameter) : String := (pick? given environment parameter).getD ""
    Options.ofGiven given environment =
      readPort (text .httpPort) >>= fun httpPort =>
      readConfig (pick? given environment .config) >>= fun config =>
      readLogFormat (text .logFormat) >>= fun logFormat =>
      .ok {
        workerId := text .workerId
        cloudTag := text .cloudTag
        orchestratorAddr := text .orchestratorAddr
        workerAddr := text .workerAddr
        httpPort
        config
        logFormat } := by
  rw [Options.ofGiven]
  cases pick? given environment .config <;> rfl

theorem Options.ofGiven_eq_ok_iff {given : Given} {environment : String → Option String}
    {options : Options} :
    Options.ofGiven given environment = .ok options ↔ options.Hold (pick? given environment) := by
  have told (parameter : Parameter) (h : parameter ≠ .config) := exists_pick? given environment h
  obtain ⟨workerId, hw⟩ := told .workerId (by decide)
  obtain ⟨cloudTag, hc⟩ := told .cloudTag (by decide)
  obtain ⟨orchestratorAddr, ho⟩ := told .orchestratorAddr (by decide)
  obtain ⟨workerAddr, ha⟩ := told .workerAddr (by decide)
  obtain ⟨port, hp⟩ := told .httpPort (by decide)
  obtain ⟨format, hf⟩ := told .logFormat (by decide)
  simp only [Options.ofGiven_eq, hw, hc, ho, ha, hp, hf, Option.getD_some, bind_eq_ok_iff,
    readConfig_eq_ok_iff]
  constructor
  · rintro ⟨httpPort, readPort, config, ⟨found, named⟩, logFormat, readFormat, made⟩
    cases made
    exact ⟨hw, hc, ho, ha, ⟨port, hp, readPort⟩, ⟨found, named⟩, ⟨format, hf, readFormat⟩⟩
  · rintro ⟨hw', hc', ho', ha', ⟨_, hp', readPort⟩, config, ⟨_, hf', readFormat⟩⟩
    cases hw.symm.trans hw'
    cases hc.symm.trans hc'
    cases ho.symm.trans ho'
    cases ha.symm.trans ha'
    cases hp.symm.trans hp'
    cases hf.symm.trans hf'
    exact ⟨_, readPort, _, config, _, readFormat, rfl⟩

theorem resolve_eq_ok_iff (line : Line) (environment : String → Option String) {options : Options} :
    resolve environment line.arguments = .ok options ↔ options.Hold (line.value? environment) := by
  have picked : pick? line.contents.reverse environment = line.value? environment :=
    funext (line.pick?_reverse environment)
  rw [← picked, ← Options.ofGiven_eq_ok_iff, resolve]
  cases result : readArguments line.arguments with
  | ok given =>
    obtain ⟨-, rfl⟩ := line.readArguments_eq_ok_iff.1 result
    rfl
  | error e =>
    -- Where all values hold, none of those given was refused.
    refine ⟨nofun, fun accepted => ?_⟩
    have hold : options.Hold (line.value? environment) :=
      picked ▸ Options.ofGiven_eq_ok_iff.1 accepted
    have checked : ∀ content ∈ line.contents, content.1.check content.2 = .ok () := by
      intro content mem
      refine hold.check ?_
      rw [Line.value?, (lookup_eq_some_iff_mem line.distinct_contents).2 mem, Option.some_or]
    have read := line.readArguments_eq_ok_iff.2 ⟨checked, rfl⟩
    exact nomatch result.symm.trans read

/-- A variable does not matter where the option is given. -/
theorem Line.value?_congr {line line' : Line} {environment environment' : String → Option String}
    (same : line.contents.Perm line'.contents)
    (agree : ∀ parameter, parameter ∉ line.contents.map Prod.fst →
      environment parameter.envName = environment' parameter.envName) :
    line.value? environment = line'.value? environment' := by
  funext parameter
  rw [Line.value?, Line.value?, ← lookup_of_perm same line.distinct_contents]
  cases given : line.contents.lookup parameter with
  | some value => rfl
  | none => rw [agree parameter (lookup_eq_none_iff_notMem.1 given)]

theorem toOption_eq_of_ok_iff {ε α : Type} {x y : Except ε α}
    (h : ∀ a, x = .ok a ↔ y = .ok a) : x.toOption = y.toOption := by
  cases x with
  | ok a => rw [(h a).1 rfl]
  | error e =>
    cases y with
    | ok a => exact nomatch (h a).2 rfl
    | error e' => rfl

/-! ## The worker and its agent -/

/-- An agent that was not started yet, made from the values of all parameters. -/
structure Fresh {σ : Type} (agent : Agent σ) (value? : Parameter → Option String) : Prop where
  endpoint : value? .orchestratorAddr = some agent.endpoint
  state : agent.state = .notStarted
  counters : agent.counters = {}
  workerId : value? .workerId = some agent.identity.workerId
  cloudTag : value? .cloudTag = some agent.identity.cloudTag
  address : value? .workerAddr ≠ some "" → value? .workerAddr = some agent.identity.address
  unnamed : value? .workerAddr = some "" → value? .workerId = some agent.identity.address

theorem Options.Hold.agent?_eq_none_iff {σ : Type} {options : Options}
    {value? : Parameter → Option String} (h : options.Hold value?) (plane : σ) (timings : Timings) :
    (options.settings timings).agent? plane = none ↔ value? .orchestratorAddr = some "" := by
  rw [h.orchestratorAddr, Option.some.injEq, Settings.agent?]
  show (if options.orchestratorAddr = "" then none else some _) = none ↔ _
  split
  · next empty => exact iff_of_true rfl empty
  · next named => exact iff_of_false nofun named

theorem Options.Hold.fresh {σ : Type} {options : Options} {value? : Parameter → Option String}
    (h : options.Hold value?) {plane : σ} {timings : Timings} {agent : Agent σ}
    (made : (options.settings timings).agent? plane = some agent) : Fresh agent value? := by
  rw [Settings.agent?] at made
  split at made
  · exact nomatch made
  cases made
  refine ⟨h.orchestratorAddr, rfl, rfl, h.workerId, h.cloudTag, fun named => ?_, fun unnamed => ?_⟩
  · rw [h.workerAddr] at named
    rw [Identity.address_of_advertised fun empty => named (congrArg some empty)]
    exact h.workerAddr
  · rw [h.workerAddr] at unnamed
    rw [Identity.address_of_not_advertised (Option.some.inj unnamed)]
    exact h.workerId

/-- Neither the order nor the forms of options matter, and no variable of an option that is given. A
line is accepted exactly if the values of all parameters can be read, and comes to what they tell.
There is no agent exactly if no control plane is named. -/
theorem settings_by_precedence {σ : Type} (plane : σ) (timings : Timings) {line line' : Line}
    {environment environment' : String → Option String}
    (same : line.contents.Perm line'.contents)
    (agree : ∀ parameter, parameter ∉ line.contents.map Prod.fst →
      environment parameter.envName = environment' parameter.envName) :
    (resolve environment line.arguments).toOption =
        (resolve environment' line'.arguments).toOption ∧
      ∀ options,
        (resolve environment line.arguments = .ok options ↔
          options.Hold (line.value? environment)) ∧
        (resolve environment line.arguments = .ok options →
          let settings := options.settings timings
          settings = ⟨options.workerId, options.cloudTag, options.orchestratorAddr,
            options.workerAddr, options.httpPort, timings⟩ ∧
          (settings.agent? plane = none ↔ line.value? environment .orchestratorAddr = some "") ∧
          ∀ agent, settings.agent? plane = some agent → Fresh agent (line.value? environment)) := by
  refine ⟨toOption_eq_of_ok_iff fun options => ?_, fun options => ⟨resolve_eq_ok_iff line _, ?_⟩⟩
  · rw [resolve_eq_ok_iff, resolve_eq_ok_iff, Line.value?_congr same agree]
  · intro accepted
    have hold := (resolve_eq_ok_iff line environment).1 accepted
    exact ⟨rfl, hold.agent?_eq_none_iff plane timings, fun agent made => hold.fresh made⟩

/-- Options in another order and other forms, and without a variable that could not be read. -/
theorem settings_of_overridden_port :
    let line : Line :=
      ⟨[⟨.httpPort, .apart, "9090"⟩, ⟨.orchestratorAddr, .attached, "cp-1:50051"⟩],
        by decide, by decide⟩
    let line' : Line :=
      ⟨[⟨.orchestratorAddr, .apart, "cp-1:50051"⟩, ⟨.httpPort, .attached, "9090"⟩],
        by decide, by decide⟩
    let environment (name : String) : Option String := if name = "HTTP_PORT" then some "x" else none
    let environment' (_ : String) : Option String := none
    (resolve environment line.arguments).toOption =
        (resolve environment' line'.arguments).toOption ∧
      ∃ options, resolve environment line.arguments = .ok options ∧ options.httpPort = 9090 ∧
        ∃ agent, (options.settings {}).agent? () = some agent ∧ agent.endpoint = "cp-1:50051" ∧
          agent.identity.address = "worker-unknown" := by
  intro line line' environment environment'
  have same : line.contents.Perm line'.contents := .swap _ _ []
  have agree : ∀ parameter, parameter ∉ line.contents.map Prod.fst →
      environment parameter.envName = environment' parameter.envName := by
    intro parameter
    cases parameter <;> decide
  obtain ⟨alike, told⟩ := settings_by_precedence () {} same agree
  let options : Options := ⟨"worker-unknown", "unknown", "cp-1:50051", "", 9090, none, .json⟩
  have hold : options.Hold (line.value? environment) :=
    ⟨by decide, by decide, by decide, by decide, ⟨"9090", by decide, by decide⟩,
      ⟨by decide, nofun⟩, ⟨"json", by decide, by decide⟩⟩
  have accepted := (told options).1.2 hold
  have fresh := ((told options).2 accepted).2.2 _ rfl
  refine ⟨alike, options, accepted, rfl, _, rfl, ?_, ?_⟩
  · exact Option.some.inj (fresh.endpoint.symm.trans hold.orchestratorAddr)
  · exact Option.some.inj ((fresh.unnamed hold.workerAddr).symm.trans hold.workerId)

end ClusterMember.CommandLine
