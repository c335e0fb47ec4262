import Stencil.Shell.Child

namespace Stencil.Shell

/-!
# Programs

A program reads its arguments, its input and the files, and gives an exit code. Its options may stand anywhere
among the arguments.

* `Program` — what a program does;
* `Program.Options` — the options that a program knows;
* `Program.Options.read` — the options among arguments.
-/

/-- What a program does with its arguments, given what runs commands. -/
abbrev Program := Evaluator → List Raw → Exec Nat

namespace Program

open Exec

/-- The options that a program knows: letters without and with values, and long names of letters. -/
structure Options where
  name : String
  plain : String := ""
  valued : String := ""
  /-- letters whose values stand in the same argument or are left out -/
  optional : String := ""
  long : List (String × Char) := []
  /-- the exit code after a complaint about options -/
  code : Nat := 1
  /-- whether the options end at the first other argument -/
  leads : Bool := false

namespace Options

/-- Say where help is to be found, and end the program. -/
def hint {α : Type} (o : Options) : Exec α := do
  complain ("Try '".toList ++ o.name.toList ++ " --help' for more information.".toList)
  throw (.exit o.code)

/-- Complain about options. -/
def refuse {α : Type} (o : Options) (reason : Raw) : Exec α := do
  complain (o.name.toList ++ ": ".toList ++ reason)
  o.hint

/-- The letters of one argument, and what is left of the other arguments. -/
def letters (o : Options) : Raw → List Raw → Exec (List (Char × Raw) × List Raw)
  | [], args => return ([], args)
  | c :: rest, args => do
    if o.valued.toList.contains c then
      if !rest.isEmpty then return ([(c, rest)], args)
      match args with
      | a :: args => return ([(c, a)], args)
      | [] => o.refuse ("option requires an argument -- '".toList ++ [c, '\x27'])
    else if o.optional.toList.contains c then return ([(c, rest)], args)
    else if o.plain.toList.contains c then
      let (more, args) ← o.letters rest args
      return ((c, []) :: more, args)
    else o.refuse ("invalid option -- '".toList ++ [c, '\x27'])

/-- The letter of a long name, which may be cut short. -/
def letterOf? (o : Options) (name : Raw) : Option Char :=
  match o.long.find? fun (s, _) => s.toList = name with
  | some (_, c) => some c
  | none =>
    match o.long.filter fun (s, _) => Text.startsWith name s.toList with
    | [(_, c)] => some c
    | _ => none

/-- A long option, and what is left of the other arguments. -/
def longOption (o : Options) (text : Raw) (args : List Raw) : Exec ((Char × Raw) × List Raw) := do
  let (name, value) := Text.cut '=' text
  match o.letterOf? name with
  | none => o.refuse ("unrecognized option '--".toList ++ text ++ ['\x27'])
  | some c =>
    if o.valued.toList.contains c then
      match value, args with
      | some r, args => return ((c, r), args)
      | none, a :: args => return ((c, a), args)
      | none, [] => o.refuse ("option '--".toList ++ name ++ "' requires an argument".toList)
    else return ((c, value.getD []), args)

/-- The options among arguments, and the other arguments; `limit` bounds how many there are. -/
def readUpTo (o : Options) : Nat → List Raw → Exec (List (Char × Raw) × List Raw)
  | 0, args => return ([], args)
  | limit + 1, args => do
    match args with
    | [] => return ([], [])
    | ['-', '-'] :: rest => return ([], rest)
    | ('-' :: '-' :: text) :: rest =>
      let (found, rest) ← o.longOption text rest
      let (more, operands) ← o.readUpTo limit rest
      return (found :: more, operands)
    | ('-' :: c :: text) :: rest =>
      let (found, rest) ← o.letters (c :: text) rest
      let (more, operands) ← o.readUpTo limit rest
      return (found ++ more, operands)
    | a :: rest =>
      if o.leads then return ([], a :: rest)
      let (more, operands) ← o.readUpTo limit rest
      return (more, a :: operands)

/-- The options among arguments, and the other arguments. -/
def read (o : Options) (args : List Raw) : Exec (List (Char × Raw) × List Raw) :=
  o.readUpTo (args.length + 1) args

end Options

/-- Whether a letter is among options. -/
def has (found : List (Char × Raw)) (c : Char) : Bool :=
  found.any (·.1 == c)

/-- The last value of a letter. -/
def valueOf? (found : List (Char × Raw)) (c : Char) : Option Raw :=
  (found.reverse.find? (·.1 == c)).map (·.2)

/-- Complain in the name of a program. -/
def complainAs (name : String) (reason : Raw) : Exec Unit :=
  complain (name.toList ++ ": ".toList ++ reason)

/-- Complain in the name of a program and end it. -/
def refuse {α : Type} (name : String) (reason : Raw) (code : Nat := 1) : Exec α := do
  complainAs name reason
  throw (.exit code)

/-- A name as it is quoted in complaints. -/
def shown (r : Raw) : Raw :=
  Raw.ofString "\u2018" ++ r ++ Raw.ofString "\u2019"

/-- Bytes that a shell would read as more than a plain word are quoted, others are not. -/
def shownIfNeeded (r : Raw) : Raw :=
  let isPlain (c : Char) : Bool := c.isAlphanum || "_@%+=:,./-".toList.contains c || 128 ≤ c.toNat
  if !r.isEmpty && r.all isPlain then r else '\x27' :: r ++ ['\x27']

/-- Bytes between single quotes. -/
def quoted (r : Raw) : Raw :=
  '\x27' :: r ++ ['\x27']

/-- The number that digits with a unit behind them stand for. -/
def size? (r : Raw) : Option Nat := do
  let digits := r.takeWhile Char.isDigit
  let n ← Raw.nat? digits
  let units : List (String × Nat) :=
    [("", 1), ("b", 512), ("kB", 1000), ("k", 1024), ("K", 1024), ("KiB", 1024), ("MB", 1000000),
     ("m", 1048576), ("M", 1048576), ("MiB", 1048576), ("GB", 1000000000), ("G", 1073741824)]
  return n * (← units.lookup (.ofList (r.drop digits.length)))

/-- Bytes with blanks in front of them, up to a width. -/
def padLeft (width : Nat) (r : Raw) : Raw :=
  List.replicate (width - r.length) ' ' ++ r

/-- Bytes with blanks behind them, up to a width. -/
def padRight (width : Nat) (r : Raw) : Raw :=
  r ++ List.replicate (width - r.length) ' '

/-- Complain about a file. -/
def complainOf (name : String) (file : Raw) (problem : String) : Exec Unit :=
  complainAs name (shownIfNeeded file ++ ": ".toList ++ problem.toList)

/-- The content of a file; a dash stands for the input. -/
def contentOf (file : Raw) : Exec (Except String Raw) :=
  if file = ['-'] then readAll 0 else readFile file

/-- Do something with the content of each of some files; a dash stands for the input, and so does no name at all.
Files that cannot be read are complained about, and the exit code tells of them. -/
def eachContent (name : String) (files : List Raw) (act : Raw → Raw → Exec Unit) : Exec Nat := do
  let mut code := 0
  for file in (if files.isEmpty then [['-']] else files) do
    match ← contentOf file with
    | .ok r => act file r
    | .error problem =>
      complainOf name file problem
      code := 1
  return code

/-- The contents of the files with names, one after the other; a dash stands for the input, and so does no name
at all. Files that cannot be read are complained about, and the exit code tells of them. -/
def contents (name : String) (files : List Raw) : Exec (List (Raw × Raw) × Nat) := do
  let mut found : List (Raw × Raw) := []
  let mut code := 0
  for file in (if files.isEmpty then [['-']] else files) do
    match ← contentOf file with
    | .ok r => found := (file, r) :: found
    | .error problem =>
      complainOf name file problem
      code := 1
  return (found.reverse, code)

/-- The contents of files, joined. -/
def joinedContents (name : String) (files : List Raw) : Exec (Raw × Nat) := do
  let (found, code) ← contents name files
  return (found.flatMap (·.2), code)

end Program

end Stencil.Shell
