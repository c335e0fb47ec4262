import Stencil.Shell.Glob
import Stencil.Shell.Program.List
import Stencil.Shell.Regular.Reader

namespace Stencil.Shell.Program

/-!
# Lines that match

* `Matching` — which lines are wanted, and how they are shown;
* `grep`, `egrep`, `fgrep` — the programs.
-/

open Exec

/-- Which lines are wanted, and how they are shown. -/
structure Matching where
  pattern : Regular
  ignoresCase : Bool := false
  ofWords : Bool := false
  inverts : Bool := false
  found : List (Char × Raw) := []
  showsNames : Bool := false
  most : Option Nat := none
  before : Nat := 0
  after : Nat := 0

namespace Matching

/-- Whether an option is given. -/
def has (m : Matching) (c : Char) : Bool :=
  Program.has m.found c

/-- The text in which parts are looked for. -/
def subject (m : Matching) (l : Raw) : Regular.Subject :=
  { letters := (Raw.letters l).toArray, ignoresCase := m.ignoresCase }

/-- Whether a part is a whole word. -/
def isWord (s : Regular.Subject) (part : Regular.Part) : Bool :=
  !s.isWordBefore part.start && !s.isWordAt part.stop

/-- The first wanted part among those that start at one of some positions. -/
def partFrom (m : Matching) (s : Regular.Subject) : Nat → Nat → Option Regular.Part
  | 0, _ => none
  | count + 1, i =>
    match (m.pattern.partsAt s i).find? fun part => !m.ofWords || isWord s part with
    | some part => some part
    | none => m.partFrom s count (i + 1)

/-- The first part from a position on. -/
def part? (m : Matching) (s : Regular.Subject) (i : Nat) : Option Regular.Part :=
  m.partFrom s (s.letters.size + 1 - i) i

/-- Whether a line is wanted. -/
def wants (m : Matching) (l : Raw) : Bool :=
  (m.part? (m.subject l) 0).isSome != m.inverts

/-- The parts of a line that are not empty, one behind the other; `limit` bounds how many there are. -/
def parts (m : Matching) (s : Regular.Subject) : Nat → Nat → List Regular.Part
  | 0, _ => []
  | limit + 1, i =>
    if s.letters.size < i then []
    else match m.part? s i with
      | none => []
      | some part =>
        if part.start < part.stop then part :: m.parts s limit part.stop
        else m.parts s limit (part.stop + 1)

/-! ### Showing -/

/-- A line, its number and where it starts. -/
structure Numbered where
  text : Raw
  number : Nat
  start : Nat

/-- The lines of a file. -/
def numbered (ending : Char) (r : Raw) : List Numbered :=
  let pieces := Text.splitAtChar ending r
  let ls := if pieces.getLast? = some [] then pieces.dropLast else pieces
  let (all, _) := ls.foldl (fun (all, start) l => (⟨l, all.length + 1, start⟩ :: all, start + l.length + 1))
    (([] : List Numbered), 0)
  all.reverse

/-- What stands in front of a line. -/
def heading (m : Matching) (name : Raw) (mark : Char) (l : Numbered) (offset : Nat) : Raw :=
  (if m.showsNames then name ++ [if m.has 'Z' then '\x00' else mark] else []) ++
    (if m.has 'n' then Raw.ofNat l.number ++ [mark] else []) ++
    (if m.has 'b' then Raw.ofNat (l.start + offset) ++ [mark] else []) ++
    (if m.has 'T' then ['\t'] else [])

/-- A wanted line as it is shown. -/
def shown (m : Matching) (name : Raw) (l : Numbered) : Raw :=
  if m.has 'o' then
    if m.inverts then []
    else
      let s := m.subject l.text
      let letters := s.letters.toList
      (m.parts s (letters.length + 2) 0).flatMap fun part =>
        let offset := (Raw.ofLetters (letters.take part.start)).length
        m.heading name ':' l offset ++ Raw.ofLetters ((letters.drop part.start).take (part.stop - part.start)) ++ ['\n']
  else m.heading name ':' l 0 ++ l.text ++ [if m.has 'z' then '\x00' else '\n']

/-- The lines of a file that are shown: wanted ones, and those around them. -/
def shownLines (m : Matching) (name : Raw) (ls : List Numbered) (wanted : List Nat) : Raw :=
  let isNear (n : Nat) : Bool := wanted.any fun w => w ≤ n + m.before && n ≤ w + m.after
  let last := wanted.getLast?.getD 0
  let near := ls.filter fun l => isNear l.number && l.number ≤ last + m.after
  let hasContext := 0 < m.before || 0 < m.after
  let (out, _) := near.foldl (fun (out, previous) l =>
    let gap := if hasContext && previous != 0 && previous + 1 < l.number then ['-', '-', '\n'] else []
    let text :=
      if wanted.contains l.number then m.shown name l
      else if m.has 'o' then []
      else m.heading name '-' l 0 ++ l.text ++ ['\n']
    ((gap ++ text) :: out, l.number)) (([] : List Raw), 0)
  out.reverse.flatten

/-- Look at a file: what is shown, and whether there are wanted lines. -/
def look (m : Matching) (name r : Raw) : Raw × Bool :=
  let ls := numbered (if m.has 'z' then '\x00' else '\n') r
  let all := (ls.filter fun l => m.wants l.text).map (·.number)
  let wanted := match m.most with
    | some n => all.take n
    | none => all
  let isFound := !wanted.isEmpty
  let isBinary := !m.has 'a' && !m.has 'z' && (r.contains '\x00' ||
    (ls.any fun l => wanted.contains l.number && (Raw.letters l.text).any fun c => !LetterKind.isSound c))
  let ending := if m.has 'Z' then '\x00' else '\n'
  if m.has 'q' then ([], isFound)
  else if m.has 'L' then (if isFound then [] else name ++ [ending], !isFound)
  else if m.has 'l' then (if isFound then name ++ [ending] else [], isFound)
  else if m.has 'c' then
    ((if m.showsNames then name ++ [if m.has 'Z' then '\x00' else ':'] else []) ++ Raw.ofNat wanted.length ++ ['\n'],
      isFound)
  else if isBinary then
    (if isFound then "grep: ".toList ++ name ++ ": binary file matches\n".toList else [], isFound)
  else (m.shownLines name ls wanted, isFound)

end Matching

/-! ### Patterns -/

/-- How patterns are written. -/
inductive PatternKind where
  | basic
  | extended
  | fixed
  | rich
  deriving Repr, BEq, DecidableEq, Inhabited

/-- A rich pattern with its special marks written in the extended way; `limit` bounds its length. -/
def plainPattern : Nat → List Char → List Char
  | 0, r => r
  | limit + 1, '\\' :: 'd' :: rest => "[0-9]".toList ++ plainPattern limit rest
  | limit + 1, '\\' :: 'D' :: rest => "[^0-9]".toList ++ plainPattern limit rest
  | limit + 1, '\\' :: 't' :: rest => '\t' :: plainPattern limit rest
  | limit + 1, '\\' :: c :: rest => '\\' :: c :: plainPattern limit rest
  | limit + 1, '(' :: '?' :: ':' :: rest => '(' :: plainPattern limit rest
  | limit + 1, '*' :: '?' :: rest => '*' :: plainPattern limit rest
  | limit + 1, '+' :: '?' :: rest => '+' :: plainPattern limit rest
  | limit + 1, c :: rest => c :: plainPattern limit rest
  | _, [] => []

/-- Read a pattern. -/
def readPattern (kind : PatternKind) (r : Raw) : Exec Regular := do
  let letters := Raw.letters r
  let refuse' (reason : String) : Exec Regular := refuse "grep" reason.toList 2
  let isLoneKind := 4 < letters.length && Text.startsWith ['[', ':'] letters && Text.endsWith [':', ']'] letters &&
    !(letters.drop 1).dropLast.contains '['
  let read (style : RegularStyle) (text : List Char) : Exec Regular := do
    if isLoneKind then return ← refuse' RegularFault.kindOutsideSet.message
    match Regular.read style text with
    | .ok r => return r
    | .error f => refuse' f.message
  match kind with
  | .fixed => return Regular.ofText letters
  | .basic => read { isLenient := true } letters
  | .extended => read { isExtended := true, isLenient := true } letters
  | .rich => read { isExtended := true, isLenient := true } (plainPattern letters.length letters)

/-! ### The programs -/

/-- The options for matching lines. -/
def matchOptions : Options := {
  name := "grep", plain := "EFGPivwxcLlnHhoqsrRabTZzyUI", valued := "efmABCDdKXY", code := 2
  long := [("regexp", 'e'), ("file", 'f'), ("ignore-case", 'i'), ("invert-match", 'v'), ("word-regexp", 'w'),
    ("line-regexp", 'x'), ("count", 'c'), ("files-without-match", 'L'), ("files-with-matches", 'l'),
    ("line-number", 'n'), ("with-filename", 'H'), ("no-filename", 'h'), ("only-matching", 'o'), ("quiet", 'q'),
    ("silent", 'q'), ("no-messages", 's'), ("recursive", 'r'), ("text", 'a'), ("max-count", 'm'),
    ("after-context", 'A'), ("before-context", 'B'), ("context", 'C'), ("extended-regexp", 'E'),
    ("fixed-strings", 'F'), ("perl-regexp", 'P'), ("basic-regexp", 'G'), ("null", 'Z'), ("byte-offset", 'b'),
    ("color", 'U'), ("colour", 'U'), ("include", 'K'), ("exclude", 'X'), ("exclude-dir", 'Y'), ("label", 'D'),
    ("null-data", 'z')] }

/-- Say how the program is used, and end it. -/
def matchUsage {α : Type} (reason : Raw) : Exec α := do
  if !reason.isEmpty then complainAs "grep" reason
  complain "Usage: grep [OPTION]... PATTERNS [FILE]...".toList
  complain "Try 'grep --help' for more information.".toList
  throw (.exit 2)

/-- The files inside a directory, with their paths. -/
def filesInside (wanted : Raw → Bool) (enters : Raw → Bool) : Nat → Raw → Location → Exec (List Raw)
  | 0, _, _ => return []
  | depth + 1, path, l => do
    let files := (← get).machine.files
    let found ← (← namesIn l).mapM fun name => do
      let place := l ++ [Raw.toString name]
      let path := if path.isEmpty then name else inside path name
      match files.get? place with
      | some (.file _) => return if wanted name then [path] else []
      | some .directory => if enters name then filesInside wanted enters depth path place else return []
      | none => return []
    return found.flatten

/-- Write lines that match a pattern. -/
def matchLines (kind : PatternKind) (args : List Raw) : Exec Nat := do
  let args := args.map fun a =>
    match a with
    | '-' :: c :: digits => if Raw.isNumber (c :: digits) then '-' :: 'C' :: c :: digits else a
    | a => a
  let o := matchOptions
  let isKnown (a : Raw) : Bool :=
    match a with
    | '-' :: '-' :: c :: name => (o.letterOf? (Text.cut '=' (c :: name)).1).isSome
    | '-' :: c :: _ => c = '-' || (o.plain ++ o.valued).toList.contains c
    | _ => true
  let early := args.takeWhile (· != ['-', '-'])
  match early.find? fun a => !isKnown a with
  | some ('-' :: '-' :: name) => matchUsage ("unrecognized option '--".toList ++ name ++ ['\x27'])
  | some ('-' :: c :: _) => if !(args.contains ['-', 'e']) then matchUsage ("invalid option -- '".toList ++ [c, '\x27'])
  | _ => pure ()
  let (found, operands) ← o.read args
  let kind := (found.foldl (fun kind (c, _) =>
    match c with
    | 'E' => PatternKind.extended
    | 'F' => .fixed
    | 'G' => .basic
    | 'P' => .rich
    | _ => kind) kind)
  let given := found.filter fun (c, _) => c = 'e' || c = 'f'
  let (texts, files) ←
    if given.isEmpty then match operands with
      | p :: files => pure ([Text.splitAtChar '\n' p], files)
      | [] => matchUsage []
    else do
      let texts ← given.mapM fun (c, r) => do
        if c = 'e' then return Text.splitAtChar '\n' r
        match ← contentOf r with
        | .ok r => return Raw.lines r
        | .error problem => refuse "grep" (shownIfNeeded r ++ ": ".toList ++ problem.toList) 2
      pure (texts, operands)
  let number (c : Char) (reason : Raw → Raw) : Exec (Option Nat) := do
    match valueOf? found c with
    | none => return none
    | some r =>
      match Raw.nat? r with
      | some n => return some n
      | none => refuse "grep" (reason r) 2
  let context (c : Char) : Exec (Option Nat) := number c fun r => r ++ ": invalid context length argument".toList
  let around ← context 'C'
  let after ← context 'A'
  let before ← context 'B'
  let most ← number 'm' fun _ => "invalid max count".toList
  let patterns ← texts.flatten.mapM (readPattern kind)
  let never := Regular.set false []
  let pattern := match patterns with
    | [] => never
    | p :: rest => rest.foldl Regular.either p
  let pattern := if has found 'x' then .both (.at .textStart) (.both pattern (.at .textEnd)) else pattern
  let recursive := has found 'r' || has found 'R'
  let accepts (c : Char) (name : Raw) : Bool :=
    found.any fun (d, r) => d = c && Glob.accepts (Glob.ofGlyphs (Glyph.bare r)) name
  let wanted (name : Raw) : Bool := !(has found 'K' && !accepts 'K' name) && !accepts 'X' name
  let m : Matching := {
    pattern, ignoresCase := has found 'i' || has found 'y', ofWords := has found 'w', inverts := has found 'v', found
    most, after := (after.or around).getD 0, before := (before.or around).getD 0 }
  let files := if files.isEmpty then [if recursive then [] else ['-']] else files
  let mut out : List Raw := []
  let mut isFound := false
  let mut code := 0
  let mut all : List Raw := []
  for file in files do
    if recursive && file != ['-'] then
      match ← placeOf (if file.isEmpty then ['.'] else file) with
      | .ok (l, .directory) =>
        all := all ++ (← filesInside wanted (fun name => !accepts 'Y' name) maxDirectories file l)
      | _ => all := all ++ [file]
    else all := all ++ [file]
  let showsNames := !has found 'h' && (has found 'H' || 1 < files.length ||
    (recursive && !(files matches [_]) || recursive && all != files))
  for file in all do
    let name := if file = ['-'] then (valueOf? found 'D').getD "(standard input)".toList else file
    match ← contentOf file with
    | .ok r =>
      let (text, hasLines) := { m with showsNames }.look name r
      out := text :: out
      if hasLines then isFound := true
    | .error problem =>
      if !has found 's' then complainOf "grep" file problem
      if problem != Exec.problem .isDirectory then code := 2
  put out.reverse.flatten
  if isFound && (has found 'q' || code = 0) then return 0
  return if code != 0 then code else if isFound then 0 else 1

/-- Write lines that match a basic pattern. -/
def grep : Program := fun _ args => matchLines .basic args

/-- Write lines that match an extended pattern. -/
def egrep : Program := fun _ args => matchLines .extended args

/-- Write lines that match a plain text. -/
def fgrep : Program := fun _ args => matchLines .fixed args

end Stencil.Shell.Program
