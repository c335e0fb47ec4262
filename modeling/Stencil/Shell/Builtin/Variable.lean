import Stencil.Shell.Arithmetic
import Stencil.Shell.Builtin.Basic

namespace Stencil.Shell.Builtin

/-!
# Variables, settings and arguments

* `export`, `readonly`, `local`, `unset` — what variables are;
* `set`, `shift` — the settings and the arguments of the shell;
* `read` — a line of input;
* `getopts` — options among arguments.
-/

open Exec

/-! ### Variables -/

/-- The name and the value, if there is one, of an argument that declares a variable. -/
def declaration (arg : Raw) : Exec (Raw × Option Raw) := do
  let (name, value) := Text.cut '=' arg
  if !Raw.isName name then fail (name ++ ": bad variable name".toList)
  return (name, value)

/-- The variables that are one thing, each after the word for it. -/
def showVariables (word : String) (isShown : Variable → Bool) : Exec Unit := do
  let shown := (← process).vars.filter fun (_, v) => isShown v
  for (name, v) in shown.mergeSort fun a b => a.1 ≤ b.1 do
    let value := match v.value with
      | some r => '=' :: quote r
      | none => []
    putLine (word.toList ++ name.toList ++ value)

/-- Make variables something, and perhaps set them. -/
def declare (word : String) (isShown : Variable → Bool) (change : Variable → Variable) (args : List Raw) :
    Exec Nat := do
  let (found, args) ← options "p" args
  if args.isEmpty || !found.isEmpty then showVariables word isShown
  else
    for a in args do
      let (name, value) ← declaration a
      if let some r := value then setVariable name r
      update fun p =>
        let v := (p.vars.get? (.ofList name)).getD {}
        { p with vars := p.vars.put (.ofList name) (change v) }
  return 0

/-- Keep the value that a variable has at the start of a function, so that it returns to it. -/
def keepLocal (name : Raw) : Exec Unit :=
  update fun p =>
    let name := String.ofList name
    match p.locals with
    | [] => p
    | inner :: outer =>
      if inner.any (·.1 == name) then p
      else { p with locals := ((name, p.vars.get? name) :: inner) :: outer }

/-- Let the variables that were kept return to their values. -/
def restoreLocals (kept : List (String × Option Variable)) : Exec Unit :=
  update fun p => { p with
    vars := kept.foldl (fun vs (name, v) => match v with
        | some v => vs.put name v
        | none => vs.erase name) p.vars }

/-- Make variables local to a function. -/
def localVariables (args : List Raw) : Exec Nat := do
  if !(← process).inFunction then fail "not in a function".toList
  for a in args do
    let (name, value) ← declaration a
    keepLocal name
    if let some r := value then setVariable name r
  return 0

/-- Remove variables or functions. -/
def unset (args : List Raw) : Exec Nat := do
  let (found, args) ← options "fv" args
  let wantsFunctions := (found.getLast?.map (·.1)) = some 'f'
  for a in args do
    if wantsFunctions then update fun p => { p with functions := p.functions.erase (.ofList a) }
    else
      if !Raw.isName a then fail (a ++ ": bad variable name".toList)
      match (← process).vars.get? (.ofList a) with
      | some { isReadOnly := true, .. } => fail (a ++ ": is read only".toList)
      | _ => update fun p => { p with vars := p.vars.erase (.ofList a) }
  return 0

/-! ### Settings and arguments -/

/-- The settings by name, with their letters. -/
def settingNames : List (String × Char) :=
  [("errexit", 'e'), ("noglob", 'f'), ("ignoreeof", 'I'), ("interactive", 'i'), ("monitor", 'm'), ("noexec", 'n'),
   ("stdin", 's'), ("xtrace", 'x'), ("verbose", 'v'), ("vi", 'V'), ("emacs", 'E'), ("noclobber", 'C'),
   ("allexport", 'a'), ("notify", 'b'), ("nounset", 'u'), ("privileged", 'p'), ("nolog", '1'), ("debug", '2')]

/-- Turn a setting on or off. -/
def setSetting (on : Bool) (letter : Char) : Exec Unit :=
  update fun p =>
    let others := p.settings.filter (· != letter)
    { p with settings := if on then letter :: others else others }

/-- Turn a setting with a letter on or off. -/
def setLetter (on : Bool) (letter : Char) : Exec Unit := do
  if letter.isDigit || !settingNames.any (·.2 == letter) then fail ("Illegal option -".toList ++ [letter])
  setSetting on letter

/-- Turn a setting with a name on or off. -/
def setName (on : Bool) (name : Raw) : Exec Unit := do
  match settingNames.lookup (.ofList name) with
  | some letter => setSetting on letter
  | none => fail ((if on then "Illegal option -o " else "Illegal option +o ").toList ++ name)

/-- Write the settings: as a table, or as commands that bring them about. -/
def showSettings (asTable : Bool) : Exec Unit := do
  let p ← process
  if asTable then say "Current option settings\n"
  for (name, letter) in settingNames do
    let on := p.settings.contains letter
    if asTable then
      say (String.ofList (name.toList ++ List.replicate (16 - name.length) ' ') ++ (if on then "on" else "off") ++ "\n")
    else say ("set " ++ (if on then "-o " else "+o ") ++ name ++ "\n")

/-- Turn the settings of an argument with letters on or off. The letter for names is followed by a name in the
next argument. -/
def setLetters (on : Bool) : Raw → List Raw → Exec (List Raw)
  | [], args => return args
  | 'o' :: rest, args => do
    match args with
    | name :: args =>
      setName on name
      setLetters on rest args
    | [] =>
      showSettings on
      setLetters on rest []
  | c :: rest, args => do
    setLetter on c
    setLetters on rest args

/-- Turn the settings in front of arguments on or off. The new arguments follow, if there are any; `limit` bounds
how many there are. -/
def setArguments : Nat → List Raw → Exec (Option (List Raw))
  | 0, _ => return none
  | limit + 1, args => do
    match args with
    | [] => return none
    | ['-', '-'] :: rest => return some rest
    | ['-'] :: rest =>
      setSetting false 'x'
      setSetting false 'v'
      return if rest.isEmpty then none else some rest
    | ('-' :: c :: letters) :: rest => setArguments limit (← setLetters true (c :: letters) rest)
    | ('+' :: c :: letters) :: rest => setArguments limit (← setLetters false (c :: letters) rest)
    | args => return some args

/-- Write all variables. -/
def showAll : Exec Unit := do
  let shown := (← process).vars.filter fun (_, v) => v.value.isSome
  for (name, v) in shown.mergeSort fun a b => a.1 ≤ b.1 do
    putLine (name.toList ++ '=' :: quote (v.value.getD []))

/-- Change the settings and the arguments of the shell. -/
def setCommand (args : List Raw) : Exec Nat := do
  if args.isEmpty then showAll
  else if let some new ← setArguments (args.length + 1) args then
    update fun p => { p with arguments := new }
  return 0

/-- Drop arguments of the shell. -/
def shift (args : List Raw) : Exec Nat := do
  let n ← match args with
    | a :: _ => number a
    | [] => pure 1
  let p ← process
  if p.arguments.length < n then fail "can't shift that many".toList
  update fun p => { p with arguments := p.arguments.drop n }
  return 0

/-! ### Input -/

/-- The bytes of a line, and whether each is protected by a backslash; and whether the line has an end. `limit`
bounds how many bytes there are. -/
def lineBytes (isPlain : Bool) : Nat → Bool → Exec (List (Char × Bool) × Bool)
  | 0, _ => return ([], false)
  | limit + 1, afterBackslash => do
    match ← readByte 0 with
    | none => return ([], false)
    | some c =>
      if c = '\x00' then lineBytes isPlain limit afterBackslash
      else if afterBackslash then
        let (rest, hasEnd) ← lineBytes isPlain limit false
        return (if c = '\n' then rest else (c, true) :: rest, hasEnd)
      else if c = '\\' && !isPlain then lineBytes isPlain limit true
      else if c = '\n' then return ([], true)
      else
        let (rest, hasEnd) ← lineBytes isPlain limit false
        return ((c, false) :: rest, hasEnd)

/-- How far a line has been split into fields. -/
structure LineSplit where
  /-- the fields that are complete, the last one first -/
  complete : List Raw := []
  /-- the field that goes on, its last byte first -/
  current : Raw := []
  /-- whether a blank has ended the field before -/
  afterBlank : Bool := false
  /-- how many fields are still to come -/
  left : Nat
  /-- in the last field, how many of its bytes are kept if nothing but blanks follows -/
  kept : Option Nat := none
  deriving Inhabited

/-- Add a byte to a line that is split. -/
def LineSplit.add (separators : Raw) (s : LineSplit) (b : Char × Bool) : LineSplit :=
  let (c, isProtected) := b
  let isSeparator := !isProtected && separators.contains c
  let isBlank := isSeparator && (c = ' ' || c = '\t' || c = '\n')
  let longer := c :: s.current
  -- The last variable gets the rest of the line, where separators count at the end only.
  if s.left = 0 then
    let kept :=
      if isBlank then s.kept.or (some s.current.length)
      else if isSeparator && s.afterBlank then s.kept
      else none
    { s with current := longer, kept, afterBlank := isBlank && s.afterBlank }
  else if s.afterBlank && isSeparator then { s with afterBlank := isBlank }
  else if isSeparator then
    if s.current.isEmpty && isBlank then s
    else if s.left = 1 then
      { s with current := longer, kept := some s.current.length, left := 0, afterBlank := isBlank }
    else { s with
      complete := s.current.reverse :: s.complete, current := [], left := s.left - 1, afterBlank := isBlank }
  else { s with current := longer, afterBlank := false }

/-- The fields of a line, at most `count`; the last one holds the rest of the line. -/
def lineFields (separators : Raw) (count : Nat) (bytes : List (Char × Bool)) : List Raw :=
  let s := bytes.foldl (LineSplit.add separators) { left := count }
  let last := s.current.reverse
  let last := match s.kept with
    | some n => last.take n
    | none => last
  (if last.isEmpty then s.complete else last :: s.complete).reverse

/-- Set variables to values, those without a value to nothing. -/
def assignAll : List Raw → List Raw → Exec Unit
  | [], _ => return
  | name :: names, [] => do
    setNamed name []
    assignAll names []
  | name :: names, r :: rest => do
    setNamed name r
    assignAll names rest

/-- The longest line that is read. -/
def maxLine : Nat := 1000000

/-- Read a line into variables. -/
def read (args : List Raw) : Exec Nat := do
  let (found, names) ← options "p:r" args
  if names.isEmpty then fail "arg count".toList
  let (bytes, hasEnd) ← lineBytes (found.any (·.1 == 'r')) maxLine false
  assignAll names (lineFields (← separators) names.length bytes)
  return if hasEnd then 0 else 1

/-! ### Options -/

/-- What has been found by looking for an option. -/
structure FoundOption where
  letter : Char
  value : Option Raw := none
  /-- the number of the next argument, and the position in it -/
  index : Nat
  position : Nat := 0
  isMissing : Bool := false
  isUnknown : Bool := false

/-- The next option among arguments, if there is one. The number of the first argument is one; `index` is the
number of the argument after the one that is being read. -/
def nextOption (allowed : Raw) (args : List Raw) (index position : Nat) : Option FoundOption :=
  let (current, start, index) :=
    if position = 0 then (args[index - 1]?.getD [], 1, index + 1) else (args[index - 2]?.getD [], position, index)
  if current = ['-', '-'] || current.head? != some '-' then none
  else match current.drop start with
    | [] => none
    | c :: rest =>
      let position := if rest.isEmpty then 0 else start + 1
      match allowed.dropWhile (· != c) with
      | _ :: ':' :: _ =>
        if c = ':' then some { letter := c, index, position, isUnknown := true }
        else if !rest.isEmpty then some { letter := c, value := some rest, index }
        else match args[index - 1]? with
          | some value => some { letter := c, value := some value, index := index + 1 }
          | none => some { letter := c, index, isMissing := true }
      | _ :: _ => some { letter := c, index, position, isUnknown := c = ':' }
      | [] => some { letter := c, index, position, isUnknown := true }

/-- Look for the next option among arguments, those of the shell if none are given. -/
def getopts (args : List Raw) : Exec Nat := do
  match args with
  | allowed :: name :: given => do
    let p ← process
    let args := if given.isEmpty then p.arguments else given
    let isQuiet := allowed.head? = some ':'
    let index := max 1 ((Raw.nat? (← valueOf "OPTIND")).getD 1)
    let finish (o : Char) (index position : Nat) (value : Option Raw) : Exec Unit := do
      match value with
      | some r => setVariable "OPTARG".toList r
      | none => pure ()
      setVariable "OPTIND".toList (Raw.ofNat index)
      setNamed name [o]
      update fun p => { p with optionPosition := position }
    match nextOption (if isQuiet then allowed.tail else allowed) args index p.optionPosition with
    | none =>
      -- Two hyphens end the options and are not among the arguments after them.
      let index := if args[index - 1]? = some ['-', '-'] then index + 1 else index
      update fun p => { p with vars := p.vars.erase "OPTARG" }
      finish '?' index 0 none
      return 1
    | some o =>
      if o.isUnknown then
        if isQuiet then finish '?' o.index o.position (some [o.letter])
        else
          complain ("Illegal option -".toList ++ [o.letter])
          update fun p => { p with vars := p.vars.erase "OPTARG" }
          finish '?' o.index o.position none
      else if o.isMissing then
        if isQuiet then finish ':' o.index o.position (some [o.letter])
        else
          complain ("No arg for -".toList ++ [o.letter] ++ " option".toList)
          update fun p => { p with vars := p.vars.erase "OPTARG" }
          finish '?' o.index o.position none
      else finish o.letter o.index o.position (some (o.value.getD []))
      return 0
  | _ => fail "Usage: getopts optstring var [arg...]".toList

end Stencil.Shell.Builtin
