import FixGrader.Path
/-!
# Arguments

The commands and their options. An option with a value takes the next argument or what is attached
to it; single letters may be put together; after two dashes all arguments are taken as they are.
What does not fit is a usage error.
-/
namespace FixGrader.CommandLine

structure CheckArguments where
  challenge : String
  category : String
  files : List Path
  workspace : Option Path
  config : Option Path
  format : String
  output : Option Path
  deriving DecidableEq, Repr, Inhabited

structure RulesArguments where
  format : String
  /-- The categories that are looked up. -/
  check : List String
  config : Option Path
  deriving DecidableEq, Repr, Inhabited

inductive Command where
  | check (arguments : CheckArguments)
  | rules (arguments : RulesArguments)
  | init (force : Bool)
  deriving DecidableEq, Repr, Inhabited

/-- What the arguments ask for. -/
inductive Request where
  | run (verbose : Bool) (command : Command)
  | help
  | version
  /-- The arguments do not fit. -/
  | usageError
  deriving DecidableEq, Repr, Inhabited

/-- What an option takes. -/
inductive Arity where
  | flag
  | one
  /-- One value or more, as often as it is given. -/
  | many
  deriving DecidableEq, Repr, Inhabited

structure OptionSpec where
  long : String
  short : Option Char
  arity : Arity
  deriving DecidableEq, Repr, Inhabited

namespace Arguments

def verbose : OptionSpec := ⟨"verbose", some 'v', .flag⟩

def help : OptionSpec := ⟨"help", some 'h', .flag⟩

def version : OptionSpec := ⟨"version", some 'V', .flag⟩

def programOptions : List OptionSpec := [verbose, help, version]

def checkOptions : List OptionSpec := [
  ⟨"challenge", none, .one⟩, ⟨"category", none, .one⟩, ⟨"workspace", some 'w', .one⟩,
  ⟨"config", some 'c', .one⟩, ⟨"format", some 'f', .one⟩, ⟨"output", some 'o', .one⟩,
  verbose, help]

def rulesOptions : List OptionSpec := [
  ⟨"format", some 'f', .one⟩, ⟨"check", none, .many⟩, ⟨"config", some 'c', .one⟩, verbose, help]

def initOptions : List OptionSpec := [⟨"force", none, .flag⟩, verbose, help]

/-- What was found so far: the values of options in their order, and the other arguments. -/
structure Found where
  options : List (String × List String)
  positional : List String
  deriving DecidableEq, Repr, Inhabited

namespace Found

def empty : Found := ⟨[], []⟩

def has (f : Found) (name : String) : Bool := f.options.any (·.1 = name)

/-- Adds an occurrence of an option; only one that takes many values may be given again. -/
def addOption (f : Found) (spec : OptionSpec) (values : List String) : Option Found :=
  if spec.arity != .many && f.has spec.long then none
  else some { f with options := f.options ++ [(spec.long, values)] }

def addPositional (f : Found) (value : String) : Found :=
  { f with positional := f.positional ++ [value] }

def value? (f : Found) (name : String) : Option String :=
  ((f.options.find? (·.1 = name)).map (·.2)).bind List.head?

def values (f : Found) (name : String) : List String :=
  (f.options.filter (·.1 = name)).flatMap (·.2)

end Found

/-- How an argument looks. -/
inductive Shape where
  | escape
  /-- Two dashes and a name, perhaps with a value behind an equals sign. -/
  | long (name : String) (value : Option String)
  /-- A dash and letters. -/
  | short (letters : List Char)
  | plain
  deriving DecidableEq, Repr, Inhabited

def shapeOf (arg : String) : Shape :=
  match arg.toList with
  | ['-', '-'] => .escape
  | '-' :: '-' :: rest =>
    let name := rest.takeWhile (· != '=')
    match rest.drop name.length with
    | _ :: value => .long (String.ofList name) (some (String.ofList value))
    | [] => .long (String.ofList name) none
  | ['-'] => .plain
  | '-' :: rest => .short rest
  | _ => .plain

/-- What reading one argument with options leads to. -/
inductive Step where
  | done (f : Found)
  /-- The option still wants its values. -/
  | wants (f : Found) (spec : OptionSpec)
  | help
  | version
  | bad

/-- A flag was given. -/
def flagStep (f : Found) (spec : OptionSpec) : Step :=
  if spec = help then .help
  else if spec = version then .version
  else
    match f.addOption spec [] with
    | some f => .done f
    | none => .bad

/-- An option was given with a value attached to it. -/
def attachedStep (f : Found) (spec : OptionSpec) (value : String) : Step :=
  match f.addOption spec [value] with
  | some f => .done f
  | none => .bad

def longStep (specs : List OptionSpec) (f : Found) (name : String) (value : Option String) : Step :=
  match specs.find? (·.long = name) with
  | none => .bad
  | some spec =>
    match spec.arity, value with
    | .flag, none => flagStep f spec
    | .flag, some _ => .bad
    | _, some value => attachedStep f spec value
    | _, none => .wants f spec

def shortStep (specs : List OptionSpec) (f : Found) : List Char → Step
  | [] => .done f
  | c :: rest =>
    match specs.find? (·.short = some c) with
    | none => .bad
    | some spec =>
      if spec.arity = .flag then
        match flagStep f spec with
        | .done f => shortStep specs f rest
        | step => step
      else
        match rest with
        | [] => .wants f spec
        | '=' :: value => attachedStep f spec (String.ofList value)
        | value => attachedStep f spec (String.ofList value)

/-- What comes of all the arguments of a command. -/
inductive Outcome where
  | found (f : Found)
  | help
  | version
  | bad
  deriving DecidableEq, Repr, Inhabited

/-- Reads arguments; `pending` is an option that takes values, with those that it has. -/
def collect (specs : List OptionSpec) :
    Option (OptionSpec × List String) → Found → List String → Outcome
  | none, f, [] => .found f
  | some (spec, values), f, [] =>
    if values.isEmpty then .bad
    else
      match f.addOption spec values with
      | some f => .found f
      | none => .bad
  | pending, f, arg :: rest =>
    let settled : Option Found := match pending with
      | none => some f
      | some (spec, values) => if values.isEmpty then none else f.addOption spec values
    let go (step : Found → Step) : Outcome :=
      match settled with
      | none => .bad
      | some f =>
        match step f with
        | .done f => collect specs none f rest
        | .wants f spec => collect specs (some (spec, [])) f rest
        | .help => .help
        | .version => .version
        | .bad => .bad
    match shapeOf arg with
    | .escape =>
      match settled with
      | none => .bad
      | some f => .found (rest.foldl Found.addPositional f)
    | .long name value => go fun f => longStep specs f name value
    | .short letters => go fun f => shortStep specs f letters
    | .plain =>
      match pending with
      | none => collect specs none (f.addPositional arg) rest
      | some (spec, values) =>
        if spec.arity = .many then collect specs (some (spec, values ++ [arg])) f rest
        else
          match f.addOption spec [arg] with
          | some f => collect specs none f rest
          | none => .bad

/-- A path, which must not be empty. -/
def path? (text : String) : Option Path := if text.isEmpty then none else some ⟨text⟩

/-- The path of an option that may be left out. -/
def pathOption? (f : Found) (name : String) : Option (Option Path) :=
  match f.value? name with
  | none => some none
  | some text => (path? text).map some

def checkCommand? (f : Found) : Option Command := do
  let files ← f.positional.mapM path?
  guard !files.isEmpty
  return .check {
    challenge := ← f.value? "challenge"
    category := ← f.value? "category"
    files
    workspace := ← pathOption? f "workspace"
    config := ← pathOption? f "config"
    format := (f.value? "format").getD "console"
    output := ← pathOption? f "output" }

def rulesCommand? (f : Found) : Option Command := do
  guard f.positional.isEmpty
  return .rules {
    format := (f.value? "format").getD "table"
    check := f.values "check"
    config := ← pathOption? f "config" }

def initCommand? (f : Found) : Option Command := do
  guard f.positional.isEmpty
  return .init (f.has "force")

/-- The commands: their options, and how to make one of what was found. -/
def commandNamed (name : String) : Option (List OptionSpec × (Found → Option Command)) :=
  match name with
  | "check" => some (checkOptions, checkCommand?)
  | "rules" => some (rulesOptions, rulesCommand?)
  | "init" => some (initOptions, initCommand?)
  | _ => none

/-- Reads the arguments of a command. -/
def commandRequest (before : Found) (specs : List OptionSpec) (build : Found → Option Command)
    (args : List String) : Request :=
  match collect specs none .empty args with
  | .bad => .usageError
  | .help => .help
  | .version => .version
  | .found f =>
    match build f with
    | some command => .run (before.has "verbose" || f.has "verbose") command
    | none => .usageError

/-- Reads the options in front of the command, the command, and its arguments. -/
def request (f : Found) : List String → Request
  | [] => .usageError
  | arg :: rest =>
    let go (step : Step) : Request :=
      match step with
      | .done f => request f rest
      | .help => .help
      | .version => .version
      | .wants .. | .bad => .usageError
    match shapeOf arg with
    | .escape => .usageError
    | .long name value => go (longStep programOptions f name value)
    | .short letters => go (shortStep programOptions f letters)
    | .plain =>
      if arg = "help" then .help
      else
        match commandNamed arg with
        | some (specs, build) => commandRequest f specs build rest
        | none => .usageError

end Arguments

/-- What the arguments of a call ask for. -/
def Request.ofArguments (args : List String) : Request := Arguments.request .empty args

end FixGrader.CommandLine
