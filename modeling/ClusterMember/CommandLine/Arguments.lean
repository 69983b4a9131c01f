import ClusterMember.CommandLine.Parameter

/-! # Reading the arguments

An option is given as `--name value` or as `--name=value`. A value that comes as an argument of its
own does not begin with a dash, unless it is a dash and nothing else. It is looked at when the next
option or the end of the line is reached, and not at all if the line breaks off before that.

* `Argument`, `Argument.ofText`: what an argument is by its looks.
* `Form`, `Parameter.arguments`: how a parameter is given a value.
* `Given`: the values given by options.
* `Awaiting`: the option that may still get its value.
* `readArguments`: a whole line.
-/

namespace ClusterMember.CommandLine
set_option autoImplicit false

/-! ## Arguments by their looks -/

/-- What an argument looks like. -/
inductive Argument
  /-- Nothing after this is an option. -/
  | separator
  /-- An option by its name, with the value after an equals sign if there is one. -/
  | long (name : String) (value : Option String)
  /-- Options of one letter each, the first of them apart. -/
  | short (letter : Char)
  | plain (text : String)
deriving DecidableEq

def Argument.ofText (text : String) : Argument :=
  match text.toList with
  | ['-', '-'] => separator
  | '-' :: '-' :: rest =>
    let name := String.ofList (rest.takeWhile (· ≠ '='))
    match rest.dropWhile (· ≠ '=') with
    | _ :: value => long name (some (String.ofList value))
    | [] => long name none
  | '-' :: letter :: _ => short letter
  | _ => plain text

/-- The two ways to give an option its value. -/
inductive Form
  | apart
  | attached
deriving DecidableEq

def Parameter.arguments (parameter : Parameter) (form : Form) (value : String) : List String :=
  match form with
  | .apart => ["--" ++ parameter.option, value]
  | .attached => ["--" ++ parameter.option ++ "=" ++ value]

/-! ## Values given so far -/

/-- The values given by options, the latest first. -/
abbrev Given := List (Parameter × String)

/-- The value given for a parameter. -/
def Given.value? (parameter : Parameter) (given : Given) : Option String :=
  given.lookup parameter

/-- Take the value of an option, which is given once and must be one the parameter can have. -/
def accept (parameter : Parameter) (value : String) (given : Given) : Except UsageError Given :=
  if (given.value? parameter).isSome then .error .argumentConflict
  else
    match parameter.check value with
    | .ok () => .ok ((parameter, value) :: given)
    | .error e => .error e

/-- The option that may still get its value. -/
inductive Awaiting
  | nothing
  | value (parameter : Parameter)
  /-- The value is there, but was not looked at. -/
  | verdict (parameter : Parameter) (value : String)
deriving DecidableEq

/-- Look at the value of the last option. -/
def conclude (awaiting : Awaiting) (given : Given) : Except UsageError Given :=
  match awaiting with
  | .nothing => .ok given
  | .value _ => .error .invalidValue
  | .verdict parameter value => accept parameter value given

/-! ## Whole lines -/

/-- Read arguments, one after another. -/
def readFrom : Awaiting → Given → List String → Except UsageError Given
  | awaiting, given, [] => conclude awaiting given
  | awaiting, given, text :: rest =>
    match Argument.ofText text with
    | .separator => if rest.isEmpty then conclude awaiting given else .error .unknownArgument
    | .short letter =>
      if letter = 'h' then
        match conclude awaiting given with
        | .ok _ => .error .displayHelp
        | .error e => .error e
      else .error .unknownArgument
    | .long name value =>
      match Parameter.ofOption? name with
      | some parameter =>
        match conclude awaiting given with
        | .error e => .error e
        | .ok given =>
          match value with
          | none => readFrom (.value parameter) given rest
          | some value =>
            match accept parameter value given with
            | .ok given => readFrom .nothing given rest
            | .error e => .error e
      | none =>
        if name = "help" then
          match value, conclude awaiting given with
          | some _, _ => .error .tooManyValues
          | none, .ok _ => .error .displayHelp
          | none, .error e => .error e
        else .error .unknownArgument
    | .plain text =>
      match awaiting with
      | .value parameter => readFrom (.verdict parameter text) given rest
      | .nothing | .verdict .. => .error .unknownArgument

/-- Read a whole line of arguments. -/
def readArguments (arguments : List String) : Except UsageError Given :=
  readFrom .nothing [] arguments

end ClusterMember.CommandLine
