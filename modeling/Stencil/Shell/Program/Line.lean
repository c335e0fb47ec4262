import Stencil.Shell.Program.Portion
import Stencil.Shell.Regular.Reader

namespace Stencil.Shell.Program

/-!
# Lines

* `cat`, `tac`, `rev`, `nl`, `fold`, `expand`, `unexpand` — the lines of files, shown in one way or another;
* `wc` — how many there are;
* `uniq`, `comm` — equal lines.
-/

open Exec

/-! ### Joining files -/

/-- A byte as it is shown by `cat`. -/
def visibleByte (tabs : Bool) (c : Char) : Raw :=
  let n := c.toNat
  let low (n : Nat) : Raw :=
    if n = 127 then ['^', '?'] else if n < 32 then ['^', Char.ofNat (n + 64)] else [Char.ofNat n]
  if c = '\n' || (c = '\t' && !tabs) then [c]
  else if n < 128 then low n
  else "M-".toList ++ low (n - 128)

/-- Write files one after the other. -/
def cat : Program := fun _ args => do
  let o : Options := {
    name := "cat", plain := "nbsEeTtAvu"
    long := [("number", 'n'), ("number-nonblank", 'b'), ("squeeze-blank", 's'), ("show-ends", 'E'),
      ("show-tabs", 'T'), ("show-all", 'A'), ("show-nonprinting", 'v')] }
  let (found, files) ← o.read args
  let on (letters : String) : Bool := letters.toList.any (has found)
  if !on "nbsEeTtAv" then eachContent "cat" files fun _ r => put r
  else
    let (r, code) ← joinedContents "cat" files
    let shown (l : Raw) : Raw :=
      let l := if on "vAet" then l.flatMap (visibleByte (on "ATt")) else l
      if on "TtA" && !on "vAet" then l.flatMap fun c => if c = '\t' then ['^', 'I'] else [c] else l
    let step (state : Nat × Bool × List Raw) (l : Raw) : Nat × Bool × List Raw :=
      let (n, blank, out) := state
      let text := l.filter (· != '\n')
      if text.isEmpty && blank && on "s" then state
      else
        let numbered := on "b" && !text.isEmpty || on "n" && !on "b"
        let ending := if l.getLast? = some '\n' then (if on "EeA" then ['$', '\n'] else ['\n']) else []
        let number := if numbered then padLeft 6 (Raw.ofNat (n + 1)) ++ ['\t'] else []
        (if numbered then n + 1 else n, text.isEmpty, (number ++ shown text ++ ending) :: out)
    let (_, _, out) := (Portion.lines r).foldl step (0, false, [])
    put out.reverse.flatten
    return code

/-- Write the lines of files, the last one first. -/
def tac : Program := fun _ args => do
  let o : Options := { name := "tac", plain := "br", valued := "s", long := [("before", 'b'), ("separator", 's')] }
  let (found, files) ← o.read args
  let (all, code) ← contents "tac" files
  for (_, r) in all do
    match valueOf? found 's' with
    | some (c :: rest) =>
      let pieces := Text.splitAtText (c :: rest) r
      let ended := pieces.dropLast.map (· ++ c :: rest)
      put ((ended ++ [pieces.getLast?.getD []]).reverse.flatten)
    | _ => put (Portion.lines r).reverse.flatten
  return code

/-- Write lines with their letters turned round. -/
def rev : Program := fun _ args => do
  let (_, files) ← ({ name := "rev" : Options }).read args
  let mut code := 0
  for file in (if files.isEmpty then [['-']] else files) do
    match ← contentOf file with
    | .ok r =>
      put ((Portion.lines r).flatMap fun l =>
        let text := l.filter (· != '\n')
        Raw.ofLetters (Raw.letters text).reverse ++ l.drop text.length)
    | .error problem =>
      complain ("rev: cannot open ".toList ++ file ++ ": ".toList ++ problem.toList)
      code := 1
  return code

/-! ### Numbers of lines -/

/-- Which lines get a number. -/
inductive Numbered where
  | all
  | filled
  | none
  | described (r : Regular)

/-- The lines that an argument says get a number. -/
def Numbered.read (r : Raw) : Exec Numbered := do
  match r with
  | ['a'] => return .all
  | ['t'] => return .filled
  | ['n'] => return .none
  | 'p' :: text =>
    match Regular.read {} (Raw.letters text) with
    | .ok r => return .described r
    | .error f => refuse "nl" f.message.toList
  | r => refuse "nl" ("invalid body numbering style: ".toList ++ shown r)

/-- Whether a line gets a number. -/
def Numbered.accepts (n : Numbered) (l : Raw) : Bool :=
  match n with
  | all => true
  | filled => !l.isEmpty
  | none => false
  | described r => (r.find? { letters := (Raw.letters l).toArray } 0).isSome

/-- Write the lines of files with their numbers. -/
def nl : Program := fun _ args => do
  let o : Options := {
    name := "nl", plain := "p", valued := "bhfnwsvild"
    long := [("body-numbering", 'b'), ("number-format", 'n'), ("number-width", 'w'), ("number-separator", 's'),
      ("starting-line-number", 'v'), ("line-increment", 'i')] }
  let (found, files) ← o.read args
  let body ← Numbered.read ((valueOf? found 'b').getD ['t'])
  let header ← Numbered.read ((valueOf? found 'h').getD ['n'])
  let footer ← Numbered.read ((valueOf? found 'f').getD ['n'])
  let separator := (valueOf? found 's').getD ['\t']
  let width := ((valueOf? found 'w').bind Raw.nat?).getD 6
  let start := ((valueOf? found 'v').bind Raw.nat?).getD 1
  let increment := ((valueOf? found 'i').bind Raw.nat?).getD 1
  let format := (valueOf? found 'n').getD ['r', 'n']
  let numbered (n : Nat) : Raw :=
    let digits := Raw.ofNat n
    if format = ['l', 'n'] then padRight width digits
    else if format = ['r', 'z'] then List.replicate (width - digits.length) '0' ++ digits
    else padLeft width digits
  let (r, code) ← joinedContents "nl" files
  let mut n := start
  let mut style := body
  let mut out : List Raw := []
  for l in Raw.lines r do
    match String.ofList l with
    | "\\:\\:\\:" =>
      style := header
      n := start
      out := ['\n'] :: out
    | "\\:\\:" =>
      style := body
      n := start
      out := ['\n'] :: out
    | "\\:" =>
      style := footer
      n := start
      out := ['\n'] :: out
    | _ =>
      if style.accepts l then
        out := (numbered n ++ separator ++ l ++ ['\n']) :: out
        n := n + increment
      else out := (List.replicate (width + separator.length) ' ' ++ l ++ ['\n']) :: out
  put out.reverse.flatten
  return code

/-! ### Widths -/

/-- The column after a byte. -/
def columnAfter (ofBytes : Bool) (column : Nat) (c : Char) : Nat :=
  if ofBytes then column + 1
  else match c with
    | '\x08' => column - 1
    | '\r' => 0
    | '\t' => column + 8 - column % 8
    | _ => column + 1

/-- Break a line into pieces of at most some columns, at blanks if asked to; `limit` bounds how many steps it
takes. The bytes of the current piece are the second to last argument, the last one first. -/
def foldLine (width : Nat) (ofBytes atBlanks : Bool) : Nat → Nat → Raw → Raw → List Raw
  | 0, _, piece, rest => [piece.reverse ++ rest]
  | _, _, piece, [] => [piece.reverse]
  | limit + 1, column, piece, c :: rest =>
    let next := columnAfter ofBytes column c
    if next ≤ width || piece.isEmpty then foldLine width ofBytes atBlanks limit next (c :: piece) rest
    else
      let tailLength := (piece.takeWhile fun c => c != ' ' && c != '\t').length
      if atBlanks && tailLength < piece.length then
        let kept := piece.drop tailLength
        let moved := piece.take tailLength
        let column := moved.reverse.foldl (columnAfter ofBytes) 0
        kept.reverse :: foldLine width ofBytes atBlanks limit column moved (c :: rest)
      else piece.reverse :: foldLine width ofBytes atBlanks limit 0 [] (c :: rest)

/-- Break lines that are too long. -/
def fold : Program := fun _ args => do
  let o : Options := {
    name := "fold", plain := "bs", valued := "w"
    long := [("width", 'w'), ("bytes", 'b'), ("spaces", 's')] }
  let (found, files) ← o.read (match args with
    | ('-' :: c :: r) :: rest => if c.isDigit then ('-' :: 'w' :: c :: r) :: rest else args
    | args => args)
  let width ← match valueOf? found 'w' with
    | none => pure 80
    | some r =>
      match Raw.nat? r with
      | some (n + 1) => pure (n + 1)
      | _ => refuse "fold" ("invalid number of columns: ".toList ++ shown r)
  let (all, code) ← contents "fold" files
  for (_, r) in all do
    put ((Portion.lines r).flatMap fun l =>
      let text := l.filter (· != '\n')
      Text.join ['\n'] (foldLine width (has found 'b') (has found 's') (3 * text.length + 3) 0 [] text) ++
        l.drop text.length)
  return code

/-- The stops of tabs that an argument gives. -/
def tabStops (r : Raw) : List Nat :=
  (r.splitBy fun a b => (a = ',' || a = ' ') == (b = ',' || b = ' ')).filterMap Raw.nat?

/-- The column of the next stop. -/
def nextStop (stops : List Nat) (column : Nat) : Nat :=
  match stops with
  | [] => column + 8 - column % 8
  | [n] => if n = 0 then column + 1 else column + n - column % n
  | stops => (stops.find? (column < ·)).getD (column + 1)

/-- Replace tabs by blanks. -/
def expand : Program := fun _ args => do
  let o : Options := { name := "expand", plain := "i", valued := "t", long := [("tabs", 't'), ("initial", 'i')] }
  let (found, files) ← o.read (match args with
    | ('-' :: c :: r) :: rest => if c.isDigit then ('-' :: 't' :: c :: r) :: rest else args
    | args => args)
  let stops := ((valueOf? found 't').map tabStops).getD []
  let (r, code) ← joinedContents "expand" files
  let step (state : Nat × Bool × List Raw) (c : Char) : Nat × Bool × List Raw :=
    let (column, started, out) := state
    if c = '\n' then (0, false, [c] :: out)
    else if c = '\t' && !(started && has found 'i') then
      let next := nextStop stops column
      (next, started, List.replicate (next - column) ' ' :: out)
    else (if c = '\x08' then column - 1 else column + 1, started || (c != ' ' && c != '\t'), [c] :: out)
  let (_, _, out) := r.foldl step (0, false, [])
  put out.reverse.flatten
  return code

/-- Blanks between two columns written with tabs where possible. -/
def tabbed (size : Nat) (first last : Nat) (keepsOne : Bool) : Raw :=
  let stop := last - last % size
  if stop ≤ first || (keepsOne && last - first = 1) then List.replicate (last - first) ' '
  else List.replicate (stop / size - first / size) '\t' ++ List.replicate (last - stop) ' '

/-- A line with blanks replaced by tabs; `limit` bounds its length. -/
def unexpandLine (size : Nat) (everywhere : Bool) : Nat → Nat → Bool → Raw → Raw
  | 0, _, _, r => r
  | _, _, _, [] => []
  | limit + 1, column, started, c :: rest =>
    if (c = ' ' || c = '\t') && (everywhere || !started) then
      let blanks := (c :: rest).takeWhile fun c => c = ' ' || c = '\t'
      let last := blanks.foldl (fun n c => if c = '\t' then n + size - n % size else n + 1) column
      tabbed size column last (blanks = [' ']) ++
        unexpandLine size everywhere limit last started ((c :: rest).drop blanks.length)
    else c :: unexpandLine size everywhere limit (column + 1) true rest

/-- Replace blanks by tabs. -/
def unexpand : Program := fun _ args => do
  let o : Options := {
    name := "unexpand", plain := "af", valued := "t", long := [("all", 'a'), ("first-only", 'f'), ("tabs", 't')] }
  let (found, files) ← o.read args
  let size := match ((valueOf? found 't').map tabStops).getD [] with
    | (n + 1) :: _ => n + 1
    | _ => 8
  let everywhere := (has found 'a' || has found 't') && !has found 'f'
  let (r, code) ← joinedContents "unexpand" files
  put ((Portion.lines r).flatMap fun l => unexpandLine size everywhere (l.length + 1) 0 false l)
  return code

/-! ### Counts -/

/-- What `wc` counts in bytes, in the order in which it is shown. -/
def counts (r : Raw) : List (Char × Nat) :=
  let letters := r.letters
  let isGap (c : Char) : Bool := LetterKind.space.accepts c || c.toNat = 0xA0
  let (words, _) := letters.foldl (fun (n, inWord) c =>
    if isGap c then (n, false) else (if inWord then n else n + 1, true)) (0, false)
  let (widest, last) := letters.foldl (fun (widest, column) c =>
    match c with
    | '\n' => (max widest column, 0)
    | '\r' => (max widest column, 0)
    | '\x0c' => (max widest column, 0)
    | '\t' => (widest, column + 8 - column % 8)
    | c => (widest, if LetterKind.print.accepts c then column + 1 else column)) (0, 0)
  [('l', r.count '\n'), ('w', words), ('m', letters.countP LetterKind.isSound), ('c', r.length),
   ('L', max widest last)]

/-- Whether the size of a file is known before it is read. -/
def isRegular (file : Raw) : Exec Bool := do
  if file = ['-'] then
    match ← opening? 0 with
    | some (_, { channel := .file _, .. }) => return true
    | _ => return false
  else
    if isNowhere file || (deviceStream? file).isSome then return false
    return (← entry file) matches .ok (.file _)

/-- Count lines, words, letters and bytes. -/
def wc : Program := fun _ args => do
  let o : Options := {
    name := "wc", plain := "lwmcL"
    long := [("lines", 'l'), ("words", 'w'), ("chars", 'm'), ("bytes", 'c'), ("max-line-length", 'L')] }
  let (found, given) ← o.read args
  let wanted (c : Char) : Bool := if found.isEmpty then "lwc".toList.contains c else has found c
  let files := if given.isEmpty then [['-']] else given
  let kinds := "lwmcL".toList.filter wanted
  let mut sizes := 0
  let mut least := 1
  for file in files do
    if ← isRegular file then
      if file != ['-'] then
        match ← entry file with
        | .ok (.file bytes) => sizes := sizes + bytes.size
        | _ => pure ()
      else
        match ← opening? 0 with
        | some (_, { channel := .file l, .. }) => sizes := sizes + (← bytesAt l).length
        | _ => pure ()
    else if file = ['-'] || (← entry file) matches .ok _ then least := 7
    else if isNowhere file then least := 7
  let width := if files.length = 1 && kinds.length = 1 then 1 else max least (Raw.ofNat sizes).length
  let line (cs : List (Char × Nat)) (name : Raw) : Raw :=
    let shown := (cs.filter fun (c, _) => wanted c).map fun (_, n) => padLeft width (Raw.ofNat n)
    Text.join [' '] shown ++ (if name.isEmpty then [] else ' ' :: name) ++ ['\n']
  let nothing := counts []
  let mut total := nothing
  let mut out : List Raw := []
  let mut code := 0
  for file in files do
    let name := if given.isEmpty then [] else file
    match ← contentOf file with
    | .ok r =>
      let cs := counts r
      total := total.zipWith (fun (c, a) (_, b) => (c, if c = 'L' then max a b else a + b)) cs
      out := line cs name :: out
    | .error problem =>
      complainOf "wc" file problem
      if problem = Exec.problem .isDirectory then out := line nothing name :: out
      code := 1
  if 1 < files.length then out := line total "total".toList :: out
  put out.reverse.flatten
  return code

/-! ### Equal lines -/

/-- The part of a line that is compared after some fields and bytes. -/
def comparedPart (fields skipped : Nat) (limit : Option Nat) (l : Raw) : Raw :=
  let isGap (c : Char) : Bool := c = ' ' || c = '\t'
  let rest := (List.range fields).foldl (fun r _ => (r.dropWhile isGap).dropWhile fun c => !isGap c) l
  let rest := rest.drop skipped
  match limit with
  | some n => rest.take n
  | none => rest

/-- Groups of lines that follow each other and are the same. -/
def sameLines (same : Raw → Raw → Bool) (ls : List Raw) : List (List Raw) :=
  ls.foldr (fun l groups =>
    match groups with
    | (first :: more) :: rest => if same l first then (l :: first :: more) :: rest else [l] :: groups
    | groups => [l] :: groups) []

/-- Leave out lines that are the same as the ones before. -/
def uniq : Program := fun _ args => do
  let o : Options := {
    name := "uniq", plain := "cdDuiz", valued := "fsw"
    long := [("count", 'c'), ("repeated", 'd'), ("all-repeated", 'D'), ("unique", 'u'), ("ignore-case", 'i'),
      ("skip-fields", 'f'), ("skip-chars", 's'), ("check-chars", 'w')] }
  let (found, operands) ← o.read args
  let number (c : Char) : Option Nat := (valueOf? found c).bind Raw.nat?
  for (c, what) in [('f', "number of fields to skip"), ('s', "number of bytes to skip"),
      ('w', "number of bytes to compare")] do
    if let some r := valueOf? found c then
      if (Raw.nat? r).isNone then refuse "uniq" (r ++ ": invalid ".toList ++ what.toList)
  let key (l : Raw) : Raw :=
    let part := comparedPart ((number 'f').getD 0) ((number 's').getD 0) (number 'w') l
    if has found 'i' then part.map Char.toLower else part
  if 2 < operands.length then
    complainAs "uniq" ("extra operand ".toList ++ shown (operands.getD 2 []))
    complain "Try 'uniq --help' for more information.".toList
    return 1
  let file := operands.head?.getD ['-']
  match ← contentOf file with
  | .error problem =>
    if problem = Exec.problem .isDirectory then refuse "uniq" ("error reading ".toList ++ shown file)
    refuse "uniq" (shownIfNeeded file ++ ": ".toList ++ problem.toList)
  | .ok r =>
    let groups := sameLines (fun a b => key a = key b) (Raw.lines r)
    let wanted := groups.filter fun g =>
      let isRepeated := 1 < g.length
      !((has found 'd' || has found 'D') && !isRepeated) && !(has found 'u' && isRepeated)
    let shown := wanted.flatMap fun g =>
      let lines := if has found 'D' then g else g.take 1
      lines.flatMap fun l =>
        (if has found 'c' then padLeft 7 (Raw.ofNat g.length) ++ [' '] else []) ++ l ++ ['\n']
    match operands with
    | _ :: target :: _ =>
      if target = ['-'] then put shown
      else if let .error problem := ← writeFile target shown then
        refuse "uniq" (shownIfNeeded target ++ ": ".toList ++ problem.toList)
    | _ => put shown
    return 0

/-- The lines of two sorted lists, each with the number of the list that it stands in, or zero for both; `limit`
bounds how many there are. -/
def merged : Nat → List Raw → List Raw → List (Nat × Raw)
  | 0, _, _ => []
  | _, [], bs => bs.map fun l => (2, l)
  | _, as, [] => as.map fun l => (1, l)
  | limit + 1, a :: as, b :: bs =>
    match compare a b with
    | .eq => (0, a) :: merged limit as bs
    | .lt => (1, a) :: merged limit as (b :: bs)
    | .gt => (2, b) :: merged limit (a :: as) bs

/-- Compare the lines of two sorted files. -/
def comm : Program := fun _ args => do
  let o : Options := {
    name := "comm", plain := "123z", valued := "D"
    long := [("output-delimiter", 'D'), ("check-order", 'k'), ("nocheck-order", 'n')] }
  let (found, files) ← o.read args
  match files with
  | [a, b] =>
    let read (file : Raw) : Exec (List Raw) := do
      match ← contentOf file with
      | .ok r => return Raw.lines r
      | .error problem => refuse "comm" (shownIfNeeded file ++ ": ".toList ++ problem.toList)
    let first ← read a
    let second ← read b
    let gap := (valueOf? found 'D').getD ['\t']
    let found' := "123".toList.filter (has found)
    let all := merged (first.length + second.length + 1) first second
    put (all.flatMap fun (kind, l) =>
      let column := if kind = 0 then '3' else if kind = 1 then '1' else '2'
      if found'.contains column then []
      else
        let before := ("123".toList.filter fun c => c < column && !found'.contains c).length
        (List.replicate before gap).flatten ++ l ++ ['\n'])
    let isSorted (ls : List Raw) : Bool := (ls.zip ls.tail).all fun (a, b) => Raw.before a b
    let unpaired := all.any (·.1 != 0)
    let bad := ([(1, first), (2, second)].filter fun (_, ls) => unpaired && !isSorted ls)
    for (n, _) in bad do
      complainAs "comm" ("file ".toList ++ Raw.ofNat n ++ " is not in sorted order".toList)
    if !bad.isEmpty then refuse "comm" "input is not in sorted order".toList
    return 0
  | [] =>
    complainAs "comm" "missing operand".toList
    o.hint
  | [a] =>
    complainAs "comm" ("missing operand after ".toList ++ shown a)
    o.hint
  | _ :: _ :: c :: _ =>
    complainAs "comm" ("extra operand ".toList ++ shown c)
    o.hint

end Stencil.Shell.Program
