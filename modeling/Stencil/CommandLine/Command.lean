import Stencil.OrderedMap
import Stencil.Profile.Directives
import Stencil.Registry.Basic
import Stencil.Text.Pieces

namespace Stencil.CommandLine

/-!
# Commands and their arguments

Arguments of a command line are options and operands. An option has one or two hyphens; its value follows an
equals sign, stands in the next argument, or, for a short option, follows its letter. Short options without
values may share a hyphen. Two hyphens end the options.

* `OptionSpec` — an option that a command knows;
* `Given`, `readArguments` — the options and operands of a list of arguments;
* `Command` — what the program can be told to do;
* `Command.read` — the command of a list of arguments, if they are used rightly.
-/

/-! ### Arguments -/

/-- An option that a command knows: its name, the short form of it, and whether it has a value. -/
structure OptionSpec where
  name : String
  short : Option Char := none
  hasValue : Bool := true
  deriving Repr, BEq, DecidableEq, Inhabited

/-- The option that every command knows. -/
def helpOption : OptionSpec where
  name := "help"
  hasValue := false

/-- The options in their order, with their values, and the operands. -/
structure Given where
  options : List (String × String) := []
  operands : List String := []
  deriving Repr, BEq, DecidableEq, Inhabited

namespace Given

/-- The values of an option, in order. -/
def values (g : Given) (name : String) : List String :=
  (g.options.filter (·.1 == name)).map (·.2)

/-- The value of an option; of several ones the last. -/
def value? (g : Given) (name : String) : Option String :=
  (g.values name).getLast?

/-- Whether an option is there. -/
def has (g : Given) (name : String) : Bool :=
  g.options.any (·.1 == name)

/-- One more option in front. -/
def withOption (g : Given) (name value : String) : Given :=
  { g with options := (name, value) :: g.options }

end Given

/-- What an argument with hyphens means: options with values, and one whose value is still to come. -/
abbrev Reading := List (String × String) × Option String

/-- The short options that share a hyphen. -/
def shortOptions? (specs : List OptionSpec) : List Char → Option Reading
  | [] => some ([], none)
  | c :: rest =>
    match specs.find? (·.short == some c) with
    | none => none
    | some spec =>
      if spec.hasValue then
        if rest.isEmpty then some ([], some spec.name) else some ([(spec.name, .ofList rest)], none)
      else (shortOptions? specs rest).map fun (options, awaited) => ((spec.name, "") :: options, awaited)

/-- A long option. -/
def longOption? (specs : List OptionSpec) (text : List Char) : Option Reading :=
  let (name, value) := Text.cut '=' text
  match specs.find? (·.name.toList == name), value with
  | none, _ => none
  | some spec, none => if spec.hasValue then some ([], some spec.name) else some ([(spec.name, "")], none)
  | some spec, some value => if spec.hasValue then some ([(spec.name, .ofList value)], none) else none

/-- The options of an argument with hyphens. -/
def optionsOf? (specs : List OptionSpec) : List Char → Option Reading
  | '-' :: '-' :: text => longOption? specs text
  | _ :: text => shortOptions? specs text
  | [] => none

/-- Whether an argument starts options: it has a hyphen and more. -/
def isOption (argument : String) : Bool :=
  match argument.toList with
  | '-' :: _ :: _ => true
  | _ => false

/-- The options and operands of arguments; `awaited` is an option whose value comes next. Operands may stand
between options if they may be `mixed`; else all arguments after the first one are operands. -/
def readFrom (specs : List OptionSpec) (mixed : Bool) : Option String → List String → Option Given
  | none, [] => some {}
  | some _, [] => none
  | some name, value :: rest => (readFrom specs mixed none rest).map (·.withOption name value)
  | none, argument :: rest =>
    if argument = "--" then some { operands := rest }
    else if isOption argument then do
      let (options, awaited) ← optionsOf? specs argument.toList
      let g ← readFrom specs mixed awaited rest
      return { g with options := options ++ g.options }
    else if mixed then
      (readFrom specs mixed none rest).map fun g => { g with operands := argument :: g.operands }
    else some { operands := argument :: rest }

/-- The options and operands of arguments, if all options are known and have the values they need. -/
def readArguments (specs : List OptionSpec) (mixed : Bool) (arguments : List String) : Option Given :=
  readFrom (helpOption :: specs) mixed none arguments

/-! ### Commands -/

/-- What a run of code generation is told. -/
structure RunOptions where
  table : Option String := none
  profile : String := Registry.defaultName
  profileFile : Option String := none
  contextDir : Option String := none
  overrides : Overrides := {}
  answers : List String := []
  deriving Repr, BEq, DecidableEq, Inhabited

/-- What the program can be told to do. -/
inductive Command where
  /-- explain how the program is used -/
  | help
  | addProfile (path : String) (name : Option String) (isDefault : Bool)
  | listProfiles
  | removeProfile (name : String)
  | run (options : RunOptions)
  deriving Repr, BEq, DecidableEq, Inhabited

namespace Command

/-- The operands of a command that takes at most some of them; help is given before they are counted. -/
def operands? (g : Given) (limit : Nat) : Option (List String) :=
  if g.operands.length ≤ limit then some g.operands else none

/-- A command, or the help for it. -/
def orHelp (g : Given) (command : Option Command) : Option Command :=
  if g.has helpOption.name then some .help else command

/-- The command that registers a profile. -/
def readAdd (arguments : List String) : Option Command := do
  let g ← readArguments [{ name := "name" }, { name := "default", hasValue := false }] true arguments
  orHelp g do
    let path := (← operands? g 1).head?.getD "."
    return .addProfile path (g.value? "name") (g.has "default")

/-- The command that lists the profiles. -/
def readList (arguments : List String) : Option Command := do
  let g ← readArguments [] true arguments
  orHelp g do
    let _ ← operands? g 0
    return .listProfiles

/-- The command that forgets a profile. -/
def readRemove (arguments : List String) : Option Command := do
  let g ← readArguments [] true arguments
  orHelp g do return .removeProfile (← (← operands? g 1).head?)

/-- The command for the registry. -/
def readConfig (arguments : List String) : Option Command := do
  let g ← readArguments [] false arguments
  orHelp g do
    match g.operands with
    | "add" :: rest => readAdd rest
    | "list" :: rest => readList rest
    | "rm" :: rest => readRemove rest
    | _ => none

/-- The options of a run. -/
def runSpecs : List OptionSpec :=
  [{ name := "profile", short := some 'p' }, { name := "profile-file" }, { name := "context-dir" },
   { name := "env-file" }, { name := "env-var" }, { name := "dsn" }, { name := "target-dir" },
   { name := "set", short := some 's' }, { name := "verbose", short := some 'v', hasValue := false }]

/-- The value of an option, or else of a variable of the environment with a text. -/
def valueOr (environment : OrderedMap String) (g : Given) (name variableName : String) : Option String :=
  (g.value? name).or ((environment.get? variableName).filter (· != ""))

/-- The command that generates code. -/
def readRun (environment : OrderedMap String) (arguments : List String) : Option Command := do
  let g ← readArguments runSpecs true arguments
  orHelp g do
    let table := (← operands? g 1).head?
    return .run {
      table
      profile := (g.value? "profile").getD Registry.defaultName
      profileFile := g.value? "profile-file"
      contextDir := g.value? "context-dir"
      overrides := {
        envFile := valueOr environment g "env-file" "CTGEN_ENV_FILE"
        envVar := valueOr environment g "env-var" "CTGEN_ENV_VAR"
        dsn := valueOr environment g "dsn" "CTGEN_DSN"
        targetDir := valueOr environment g "target-dir" "CTGEN_TARGET_DIR" }
      answers := g.values "set" }

/-- The command of a list of arguments; `none` if they are used wrongly. -/
def read (environment : OrderedMap String) (arguments : List String) : Option Command := do
  let g ← readArguments [] false arguments
  orHelp g do
    match g.operands with
    | "config" :: rest => readConfig rest
    | "run" :: rest => readRun environment rest
    | _ => none

end Command

end Stencil.CommandLine
