import Stencil.Shell.Program.Edit.Script
import Stencil.Shell.Program.Output

namespace Stencil.Shell.Program

/-!
# Editing lines

* `Edit.State`, `Edit.Run` — what a script works on;
* `Edit.perform` — one step;
* `sed` — the program.
-/

open Exec

namespace Edit

/-! ### State -/

/-- A line of the input, and the file that it comes from. -/
structure Line where
  text : List Char
  /-- whether the line has an end -/
  hasEnd : Bool
  file : Raw

/-- What is written at the end of a turn. -/
inductive Later where
  | text (s : List Char)
  | file (name : Raw)

/-- What a script works on. -/
structure State where
  script : Script
  isQuiet : Bool
  ending : Char
  waiting : List Line
  text : List Char := []
  hasEnd : Bool := true
  held : List Char := []
  lineNumber : Nat := 0
  file : Raw := ['-']
  later : List Later := []
  isChanged : Bool := false
  sought : Option Sought := none
  /-- the ranges that are not at their end, by the numbers of their steps -/
  ranges : List (Nat × RangeEnd) := []
  /-- what has been written, the last piece first -/
  out : List Raw := []
  /-- whether a line end is to be written before anything else -/
  owesEnd : Bool := false
  /-- the files that are written, and what of other files has not been read -/
  targets : List (Raw × Nat) := []
  sources : List (Raw × List Raw) := []

/-- Computations of a script. -/
abbrev Run := StateT State Exec

/-- How a turn ends. -/
inductive TurnEnd where
  | turn
  /-- the rest of the text is worked on again -/
  | again
  /-- nothing is written -/
  | silent
  | quit (code : Nat) (prints : Bool)
  deriving Repr, BEq, DecidableEq, Inhabited

/-- Write bytes; a line end that is owed comes first. -/
def emit (r : Raw) : Run Unit :=
  modify fun s => { s with
    out := r :: (if s.owesEnd then [s.ending] :: s.out else s.out)
    owesEnd := false }

/-- Write a text as a line. -/
def emitLine (text : List Char) : Run Unit := do
  let s ← get
  emit (Raw.ofLetters text ++ (if s.hasEnd then [s.ending] else []))
  if !s.hasEnd then modify fun s => { s with owesEnd := true }

/-- Write what is to be written at the end of a turn. -/
def settle : Run Unit := do
  for l in (← get).later.reverse do
    match l with
    | .text t => emit (Raw.ofLetters t)
    | .file name =>
      match ← liftM (contentOf (if name = "/dev/stdin".toList then ['-'] else name) : Exec (Except String Raw)) with
      | .ok r => if !r.isEmpty then emit r
      | .error _ => pure ()
  modify fun s => { s with later := [] }

/-- Take the next line of the input. -/
def takeLine : Run Bool := do
  let s ← get
  match s.waiting with
  | [] => return false
  | l :: rest =>
    set { s with
      waiting := rest, text := l.text, hasEnd := l.hasEnd, file := l.file, lineNumber := s.lineNumber + 1 }
    return true

/-- Write to a file that a script names. -/
def writeTo (name r : Raw) : Run Unit := do
  if name = "/dev/stdout".toList then emit r
  else if name = "/dev/stderr".toList then
    let _ ← liftM (write 2 r : Exec Bool)
  else match (← get).targets.lookup name with
    | some number =>
      let _ ← liftM (Exec.writeTo number r : Exec Bool)
    | none => pure ()

/-! ### Looking for parts -/

/-- The expression that is meant. -/
def meant (s : Sought) : Run Sought := do
  match s.pattern, (← get).sought with
  | some _, _ =>
    modify fun r => { r with sought := some s }
    return s
  | none, some last => return { last with ignoresCase := last.ignoresCase || s.ignoresCase }
  | none, none => liftM (Program.refuse "sed" "no previous regular expression".toList : Exec Sought)

/-- The text in which parts are looked for. -/
def subject (s : Sought) (text : List Char) : Regular.Subject :=
  { letters := text.toArray, ignoresCase := s.ignoresCase, hasLines := s.hasLines }

/-- Whether a line has a part that is looked for. -/
def contains (s : Sought) : Run Bool := do
  let s ← meant s
  return ((s.pattern.getD .nothing).find? (subject s (← get).text) 0).isSome

/-! ### Lines -/

/-- Whether the current line is meant by an address. -/
def isAt (a : Address) : Run Bool := do
  let s ← get
  match a with
  | .line n => return s.lineNumber = n
  | .step first step =>
    return if step = 0 then s.lineNumber = first
      else first ≤ s.lineNumber && (s.lineNumber - first) % step = 0
  | .last => return s.waiting.isEmpty
  | .matching sought => contains sought

/-- The end of a range that starts at a line; there is none if the range has just that line. -/
def endFrom (n : Nat) (e : RangeEnd) : Option RangeEnd :=
  let upTo (m : Nat) : Option RangeEnd := if m ≤ n then none else some (.at (.line m))
  match e with
  | .at (.line m) => upTo m
  | .at a => some (.at a)
  | .after count => upTo (n + count)
  | .multiple m => if m = 0 then none else upTo ((n + m - 1) / m * m)

/-- Whether the current line is in the range of a step. -/
def isInRange (index : Nat) (first : Address) (last : RangeEnd) : Run Bool := do
  let n := (← get).lineNumber
  let leave : Run Unit := modify fun s => { s with ranges := s.ranges.filter (·.1 != index) }
  match (← get).ranges.lookup index with
  | some (.at (.line m)) =>
    if m ≤ n then leave
    return n ≤ m
  | some (.at a) =>
    if ← isAt a then leave
    return true
  | _ =>
    if !(← isAt first) then return false
    match endFrom n last with
    | some e => modify fun s => { s with ranges := (index, e) :: s.ranges }
    | none => pure ()
    return true

/-- Whether a step is meant for the current line. -/
def isMeant (index : Nat) (s : Selection) : Run Bool := do
  let found ← match s.first, s.last with
    | none, _ => pure true
    | some a, none => isAt a
    | some a, some e => isInRange index a e
  return found != s.isInverted

/-! ### Replacing -/

/-- How the next letters of a replacement are changed. -/
structure CaseState where
  all : Casing := .unchanged
  next : Casing := .unchanged

/-- Letters changed as asked, and how the next ones are changed. -/
def CaseState.apply (c : CaseState) (text : List Char) : List Char × CaseState :=
  let whole (text : List Char) : List Char :=
    match c.all with
    | .upper => text.map capitalLetter
    | .lower => text.map smallLetter
    | _ => text
  match c.next, text with
  | _, [] => ([], c)
  | .nextUpper, d :: rest => (capitalLetter d :: whole rest, { c with next := .unchanged })
  | .nextLower, d :: rest => (smallLetter d :: whole rest, { c with next := .unchanged })
  | _, text => (whole text, c)

/-- The text that replaces a part. -/
def replacement (ps : List Piece) (text : List Char) (part : Regular.Part) : List Char :=
  let between (i j : Nat) : List Char := (text.drop i).take (j - i)
  let (out, _) := ps.foldl (fun (out, c) p =>
    match p with
    | .casing .nextUpper => (out, { c with next := .nextUpper })
    | .casing .nextLower => (out, { c with next := .nextLower })
    | .casing k => (out, { c with all := k, next := .unchanged })
    | .text t =>
      let (t, c) := CaseState.apply c t
      (t :: out, c)
    | .group n =>
      let t := if n = 0 then between part.start part.stop
        else ((part.groups.lookup n).map fun (i, j) => between i j).getD []
      let (t, c) := CaseState.apply c t
      (t :: out, c)) (([] : List (List Char)), ({} : CaseState))
  out.reverse.flatten

/-- A text with parts replaced, and whether there are any. `count` parts have been passed, the last one up to
`previous`; `limit` bounds how many there are. -/
def replaceParts (r : Regular) (s : Regular.Subject) (sub : Substitution) (text : List Char) :
    Nat → Nat → Nat → Option Nat → List Char × Bool
  | 0, i, _, _ => (text.drop i, false)
  | limit + 1, i, count, previous =>
    if s.letters.size < i then ([], false)
    else match r.find? s i with
      | none => (text.drop i, false)
      | some part =>
        let before := (text.drop i).take (part.start - i)
        let isEmpty := part.start = part.stop
        let one := (text.drop part.stop).take 1
        if isEmpty && previous = some part.start then
          let (rest, found) := replaceParts r s sub text limit (part.stop + 1) count none
          (before ++ one ++ rest, found)
        else if count + 1 < sub.number then
          let (rest, found) := if isEmpty then replaceParts r s sub text limit (part.stop + 1) (count + 1) none
            else replaceParts r s sub text limit part.stop (count + 1) (some part.stop)
          let kept := (text.drop part.start).take (part.stop - part.start)
          (before ++ kept ++ (if isEmpty then one else []) ++ rest, found)
        else
          let new := replacement sub.pieces text part
          if !sub.isGlobal then (before ++ new ++ text.drop part.stop, true)
          else
            let (rest, _) := if isEmpty then replaceParts r s sub text limit (part.stop + 1) (count + 1) none
              else replaceParts r s sub text limit part.stop (count + 1) (some part.stop)
            (before ++ new ++ (if isEmpty then one else []) ++ rest, true)

/-! ### Showing -/

/-- A byte as it is shown so that nothing is left open. -/
def clearByte (c : Char) : Raw :=
  match c with
  | '\\' => ['\\', '\\']
  | '\x07' => ['\\', 'a']
  | '\x08' => ['\\', 'b']
  | '\x0c' => ['\\', 'f']
  | '\n' => ['\\', 'n']
  | '\r' => ['\\', 'r']
  | '\t' => ['\\', 't']
  | '\x0b' => ['\\', 'v']
  | c =>
    if 32 ≤ c.toNat && c.toNat < 127 then [c]
    else
      let digits := Nat.toDigits 8 c.toNat
      '\\' :: List.replicate (3 - digits.length) '0' ++ digits

/-- A text as it is shown so that nothing is left open, in lines of some width. -/
def clearText (width : Nat) (r : Raw) : Raw :=
  let (out, _) := r.foldl (fun (out, column) c =>
    let shown := clearByte c
    if 1 < width && width - 1 < column + shown.length then (shown :: ['\\', '\n'] :: out, shown.length)
    else (shown :: out, column + shown.length)) (([] : List Raw), 0)
  out.reverse.flatten ++ ['$', '\n']

/-! ### Steps -/

/-- Go on with the next line of the input after writing the current one; `false` if there is none. -/
def goOn : Run Bool := do
  if (← get).waiting.isEmpty then return false
  if !(← get).isQuiet then emitLine (← get).text
  settle
  takeLine

/-- Do what a step says: the number of the next step, or how the turn ends. -/
def perform (index : Nat) (step : Step) : Run (Except TurnEnd Nat) := do
  let next : Except TurnEnd Nat := .ok (index + 1)
  let change (f : State → State) : Run (Except TurnEnd Nat) := do
    modify f
    return next
  let firstLine (text : List Char) : List Char := text.takeWhile (· != '\n')
  let jump (label : List Char) : Run (Except TurnEnd Nat) := do
    if label.isEmpty then return .error .turn
    return .ok (((← get).script.labels.lookup label).getD 0)
  match step.action with
  | .block _ => return next
  | .nothing => return next
  | .jump .always label => jump label
  | .jump .ifChanged label =>
    if (← get).isChanged then
      modify fun s => { s with isChanged := false }
      jump label
    else return next
  | .jump .ifUnchanged label =>
    if (← get).isChanged then change fun s => { s with isChanged := false }
    else jump label
  | .substitute sub =>
    let sought ← meant sub.sought
    let s := subject sought (← get).text
    let text := (← get).text
    let (new, found) := replaceParts (sought.pattern.getD .nothing) s sub text (2 * text.length + 3) 0 0 none
    if !found then return next
    modify fun s => { s with text := new, isChanged := true }
    if sub.prints then emitLine new
    if let some name := sub.target then writeTo name (Raw.ofLetters new ++ ['\n'])
    return next
  | .exchangeLetters pairs =>
    change fun s => { s with text := s.text.map fun c => (pairs.lookup c).getD c }
  | .append t => change fun s => { s with later := .text t :: s.later }
  | .insert t =>
    emit (Raw.ofLetters t)
    return next
  | .change t =>
    let isOpen := (← get).ranges.any (·.1 = index)
    if !isOpen || step.selection.isInverted then emit (Raw.ofLetters t)
    return .error .silent
  | .delete => return .error .silent
  | .deleteFirst =>
    let text := (← get).text
    if !text.contains '\n' then return .error .silent
    modify fun s => { s with text := (s.text.dropWhile (· != '\n')).tail }
    return .error .again
  | .print =>
    emitLine (← get).text
    return next
  | .printFirst =>
    let s ← get
    emit (Raw.ofLetters (firstLine s.text) ++ [s.ending])
    return next
  | .lineNumber =>
    emit (Raw.ofNat (← get).lineNumber ++ ['\n'])
    return next
  | .fileName =>
    emit ((← get).file ++ ['\n'])
    return next
  | .list width =>
    emit (clearText width (Raw.ofLetters (← get).text))
    return next
  | .next => if ← goOn then return next else return .error .turn
  | .join =>
    let text := (← get).text
    if (← get).waiting.isEmpty then return .error .turn
    settle
    let _ ← takeLine
    change fun s => { s with text := text ++ '\n' :: s.text }
  | .hold => change fun s => { s with held := s.text }
  | .holdMore => change fun s => { s with held := s.held ++ '\n' :: s.text }
  | .fetch => change fun s => { s with text := s.held }
  | .fetchMore => change fun s => { s with text := s.text ++ '\n' :: s.held }
  | .exchange => change fun s => { s with text := s.held, held := s.text }
  | .clear => change fun s => { s with text := [] }
  | .quit code prints => return .error (.quit code prints)
  | .readFile name => change fun s => { s with later := .file name :: s.later }
  | .readLine name =>
    let ls ← match (← get).sources.lookup name with
      | some ls => pure ls
      | none => do
        let r ← liftM (contentOf name : Exec (Except String Raw))
        pure ((r.toOption.map Raw.lines).getD [])
    match ls with
    | [] => change fun s => { s with sources := (name, []) :: s.sources }
    | l :: rest =>
      change fun s => { s with
        sources := (name, rest) :: s.sources, later := .text (Raw.letters l ++ ['\n']) :: s.later }
  | .writeFile name =>
    writeTo name (Raw.ofLetters (← get).text ++ ['\n'])
    return next
  | .writeFirst name =>
    writeTo name (Raw.ofLetters (firstLine (← get).text) ++ ['\n'])
    return next

/-- Do the steps of a script from one on; `limit` bounds how many are done. -/
def steps : Nat → Nat → Run TurnEnd
  | 0, _ => return .quit 1 false
  | limit + 1, index => do
    match (← get).script.steps[index]? with
    | none => return .turn
    | some step =>
      if ← isMeant index step.selection then
        match ← perform index step with
        | .ok next => steps limit next
        | .error e => return e
      else match step.action with
        | .block last => steps limit (last + 1)
        | _ => steps limit (index + 1)

/-- How many steps are done for a line at most. -/
def maxSteps : Nat := 1000000

/-- Work on all lines; `limit` bounds how many turns there are. With `isAgain` the first turn works on what is left
of the text. The exit code, if the script has ended the work. -/
def turns : Nat → Bool → Run (Option Nat)
  | 0, _ => return some 1
  | limit + 1, isAgain => do
    let goesOn ← if isAgain then pure true else takeLine
    if !goesOn then return none
    if !isAgain then modify fun s => { s with isChanged := false }
    match ← steps maxSteps 0 with
    | .turn =>
      if !(← get).isQuiet then emitLine (← get).text
      settle
      turns limit false
    | .silent =>
      settle
      turns limit false
    | .again =>
      settle
      turns limit true
    | .quit code prints =>
      if prints then
        if !(← get).isQuiet then emitLine (← get).text
        settle
      return some code

/-- The lines of a file. -/
def linesOf (ending : Char) (file r : Raw) : List Line :=
  let pieces := Text.splitAtChar ending r
  match pieces.getLast? with
  | some [] => pieces.dropLast.map fun l => ⟨Raw.letters l, true, file⟩
  | some last => (pieces.dropLast.map fun l => ⟨Raw.letters l, true, file⟩) ++ [⟨Raw.letters last, false, file⟩]
  | none => []

/-- The files that a script writes. -/
def targets (s : Script) : List Raw :=
  s.steps.toList.filterMap fun step =>
    match step.action with
    | .substitute sub => sub.target
    | .writeFile name => some name
    | .writeFirst name => some name
    | _ => none

/-- The ranges that are not at their end before the first line. -/
def firstRanges (s : Script) : List (Nat × RangeEnd) :=
  s.steps.toList.zipIdx.filterMap fun (step, i) =>
    match step.selection.first, step.selection.last with
    | some (.line 0), some e => some (i, e)
    | _, _ => none

end Edit

/-! ### The program -/

/-- How the program is used. -/
def editUsage : String :=
  "Usage: sed [OPTION]... \x7bscript-only-if-no-other-script\x7d [input-file]...

  -n, --quiet, --silent
                 suppress automatic printing of pattern space
      --debug
                 annotate program execution
  -e script, --expression=script
                 add the script to the commands to be executed
  -f script-file, --file=script-file
                 add the contents of script-file to the commands to be executed
  --follow-symlinks
                 follow symlinks when processing in place
  -i[SUFFIX], --in-place[=SUFFIX]
                 edit files in place (makes backup if SUFFIX supplied)
  -l N, --line-length=N
                 specify the desired line-wrap length for the `l' command
  --posix
                 disable all GNU extensions.
  -E, -r, --regexp-extended
                 use extended regular expressions in the script
                 (for portability use POSIX -E).
  -s, --separate
                 consider files as separate rather than as a single,
                 continuous long stream.
      --sandbox
                 operate in sandbox mode (disable e/r/w commands).
  -u, --unbuffered
                 load minimal amounts of data from the input files and flush
                 the output buffers more often
  -z, --null-data
                 separate lines by NUL characters
      --help     display this help and exit
      --version  output version information and exit

If no -e, --expression, -f, or --file option is given, then the first
non-option argument is taken as the sed script to interpret.  All
remaining arguments are names of input files; if no input files are
specified, then the standard input is read.

GNU sed home page: <https://www.gnu.org/software/sed/>.
General help using GNU software: <https://www.gnu.org/gethelp/>."

/-- Texts of a script; one that ends in a backslash goes on in the next one. -/
def joinSources : List Edit.Source → List Edit.Source
  | a :: b :: rest =>
    if a.text.getLast? = some '\\' && !a.isFile then
      joinSources ({ b with text := a.text ++ '\n' :: b.text } :: rest)
    else a :: joinSources (b :: rest)
  | sources => sources
termination_by sources => sources.length

/-- The name of the copy that is kept of a file. -/
def backupName (suffix file : Raw) : Raw :=
  if suffix.contains '*' then
    let (directory, name) := match Text.cutAtLast? '/' file with
      | some (directory, name) => (directory ++ ['/'], name)
      | none => ([], file)
    directory ++ Text.replace ['*'] name suffix
  else file ++ suffix

/-- Edit the lines of files by a script. -/
def sed : Program := fun _ args => do
  let o : Options := {
    name := "sed", plain := "nrEsuzb", valued := "efl", optional := "i"
    long := [("quiet", 'n'), ("silent", 'n'), ("expression", 'e'), ("file", 'f'), ("in-place", 'i'),
      ("regexp-extended", 'E'), ("separate", 's'), ("null-data", 'z'), ("unbuffered", 'u'), ("posix", 'b'),
      ("debug", 'b'), ("line-length", 'l')] }
  let (found, operands) ← o.read args
  let given := found.filter fun (c, _) => c = 'e' || c = 'f'
  let (texts, files) ←
    if given.isEmpty then match operands with
      | t :: files => pure ([('e', t)], files)
      | [] => do
        complain editUsage.toList
        throw (.exit 1)
    else pure (given, operands)
  let sources : List Edit.Source ← texts.zipIdx.mapM fun ((c, r), i) => do
    if c = 'e' then return { isFile := false, name := Raw.ofNat (i + 1), text := Raw.letters r }
    match ← contentOf r with
    | .ok content => return { isFile := true, name := r, text := Raw.letters content }
    | .error problem => refuse "sed" ("couldn't open file ".toList ++ r ++ ": ".toList ++ problem.toList)
  let isQuiet := has found 'n' || match sources with
    | s :: _ => s.text.take 3 = ['#', 'n', '\n'] || s.text = ['#', 'n']
    | [] => false
  match Edit.readScript (has found 'E' || has found 'r') (joinSources sources) with
  | .error reason => refuse "sed" reason
  | .ok script =>
    let ending := if has found 'z' then '\x00' else '\n'
    let inPlace := valueOf? found 'i'
    let mut code := 0
    let mut targets : List (Raw × Nat) := []
    for name in Edit.targets script do
      if (targets.lookup name).isNone then
        match ← openFile name true true { channel := .nowhere } with
        | .ok number => targets := (name, number) :: targets
        | .error f =>
          refuse "sed" ("couldn't open file ".toList ++ name ++ ": ".toList ++ (Exec.problem f).toList) 4
    let mut inputs : List (Raw × List Edit.Line) := []
    for file in (if files.isEmpty then [['-']] else files) do
      match ← contentOf file with
      | .ok r => inputs := (file, Edit.linesOf ending file r) :: inputs
      | .error problem =>
        if problem = Exec.problem .isDirectory then
          if inPlace.isSome then
            complainAs "sed" ("couldn't edit ".toList ++ file ++ ": not a regular file".toList)
            code := 4
          else
            complainAs "sed" ("read error on ".toList ++ file ++ ": ".toList ++ problem.toList)
            code := 4
        else
          complainAs "sed" ("can't read ".toList ++ file ++ ": ".toList ++ problem.toList)
          code := 2
    inputs := inputs.reverse
    let start : Edit.State := {
      script, isQuiet, ending, waiting := [], targets, ranges := Edit.firstRanges script }
    if inPlace.isSome || has found 's' then
      let mut s := start
      for (file, ls) in inputs do
        if code < 256 then
          let fresh := { s with waiting := ls, lineNumber := 0, ranges := Edit.firstRanges script, out := [], owesEnd := false }
          let (result, after) ← (Edit.turns (10 * ls.length + 100000) false).run fresh
          s := after
          let out := after.out.reverse.flatten
          match inPlace with
          | some suffix =>
            if !suffix.isEmpty then
              let _ ← writeFile (backupName suffix file) ((← readFile file).toOption.getD [])
            let _ ← writeFile file out
          | none => put out
          if let some result := result then code := 256 + result
      return if 256 ≤ code then code - 256 else code
    else
      let ls := inputs.flatMap (·.2)
      let (result, after) ← (Edit.turns (10 * ls.length + 100000) false).run { start with waiting := ls }
      put after.out.reverse.flatten
      return result.getD code

end Stencil.Shell.Program
