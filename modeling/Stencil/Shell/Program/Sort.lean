import Stencil.Decimal.Reader
import Stencil.Shell.Program.Line

namespace Stencil.Shell.Program

/-!
# Sorting lines

Lines are compared by keys, one after the other; lines whose keys are all equal are compared as a whole.

* `SortKey` — a part of a line, and how it is compared;
* `Sorting` — how lines are sorted;
* `sort` — the program.
-/

open Exec

/-! ### Orders -/

/-- How parts of lines are compared. -/
inductive SortKind where
  | text
  | numeric
  | general
  | human
  | month
  | version
  deriving Repr, BEq, DecidableEq, Inhabited

/-- The sign and the digits before and after the point of the number at the start of a text, and what follows. -/
def numberParts (r : Raw) : Bool × Raw × Raw × Raw :=
  let r := r.dropWhile fun c => c = ' ' || c = '\t' || c = '\n'
  let (isNegative, r) := match r with
    | '-' :: rest => (true, rest)
    | r => (false, r)
  let whole := r.takeWhile Char.isDigit
  let r := r.drop whole.length
  match r with
  | '.' :: rest =>
    let fraction := rest.takeWhile Char.isDigit
    (isNegative, whole, fraction, rest.drop fraction.length)
  | r => (isNegative, whole, [], r)

/-- The order of the numbers at the start of texts. -/
def numericOrder (a b : Raw) : Ordering :=
  let (negativeA, wholeA, fractionA, _) := numberParts a
  let (negativeB, wholeB, fractionB, _) := numberParts b
  let places := max fractionA.length fractionB.length
  let value (isNegative : Bool) (whole fraction : Raw) : Int :=
    let n := Raw.digitsValue (whole ++ fraction ++ List.replicate (places - fraction.length) '0')
    if isNegative then -(n : Int) else n
  compare (value negativeA wholeA fractionA) (value negativeB wholeB fractionB)

/-- The order of numbers with a unit. -/
def humanOrder (a b : Raw) : Ordering :=
  let unit (r : Raw) : Int :=
    let (isNegative, whole, fraction, rest) := numberParts r
    let isZero := (whole ++ fraction).all (· = '0')
    let n : Nat := match rest with
      | c :: _ => match "KMGTPEZYRQ".toList.idxOf? (if c = 'k' then 'K' else c) with
        | some i => i + 1
        | none => 0
      | [] => 0
    if isZero then 0 else if isNegative then -(n : Int) else n
  (compare (unit a) (unit b)).then (numericOrder a b)

/-- The number of a month; zero if a text does not start with one. -/
def monthNumber (r : Raw) : Nat :=
  let start := ((r.dropWhile fun c => c = ' ' || c = '\t').take 3).map Char.toUpper
  let months := ["JAN", "FEB", "MAR", "APR", "MAY", "JUN", "JUL", "AUG", "SEP", "OCT", "NOV", "DEC"]
  match months.idxOf? (.ofList start) with
  | some i => i + 1
  | none => 0

/-- The number with a fraction and an exponent at the start of a text. -/
def generalNumber? (r : Raw) : Option Float :=
  let r := r.dropWhile fun c => c = ' ' || (9 ≤ c.toNat && c.toNat ≤ 13)
  let sign := (r.take 1).takeWhile fun c => c = '-' || c = '+'
  let rest := r.drop sign.length
  let whole := rest.takeWhile Char.isDigit
  let rest := rest.drop whole.length
  let fraction := match rest with
    | '.' :: after => '.' :: after.takeWhile Char.isDigit
    | _ => []
  let rest := rest.drop fraction.length
  let exponent := match rest with
    | e :: after =>
      if e = 'e' || e = 'E' then
        let sign := (after.take 1).takeWhile fun c => c = '-' || c = '+'
        let digits := (after.drop sign.length).takeWhile Char.isDigit
        if digits.isEmpty then [] else e :: sign ++ digits
      else []
    | [] => []
  if (whole ++ fraction).any Char.isDigit then
    Decimal.readFloat? ((if sign = ['+'] then [] else sign) ++ whole ++ fraction ++ exponent)
  else none

/-- The order of numbers with fractions and exponents; what is none comes first. -/
def generalOrder (a b : Raw) : Ordering :=
  match generalNumber? a, generalNumber? b with
  | none, none => .eq
  | none, some _ => .lt
  | some _, none => .gt
  | some x, some y => if x < y then .lt else if y < x then .gt else .eq

/-- How a byte of a version that is no digit is ordered. -/
def versionRank (c : Option Char) : Int :=
  match c with
  | none => 0
  | some '~' => -1
  | some c => if c.isDigit then 0 else if c.isAlpha then c.toNat else c.toNat + 256

/-- The order of versions, without looking at their endings; `limit` bounds how many parts they have. -/
def versionPartOrder : Nat → Raw → Raw → Ordering
  | 0, _, _ => .eq
  | limit + 1, a, b =>
    if a.isEmpty && b.isEmpty then .eq
    else
      let isLetter (c : Option Char) : Bool := c.any fun c => !c.isDigit
      if isLetter a.head? || isLetter b.head? then
        let order := compare (versionRank a.head?) (versionRank b.head?)
        let next (r : Raw) : Raw := if isLetter r.head? then r.tail else r
        if order != .eq then order else versionPartOrder limit (next a) (next b)
      else
        let digitsA := a.takeWhile Char.isDigit
        let digitsB := b.takeWhile Char.isDigit
        let order := compare (Raw.digitsValue digitsA) (Raw.digitsValue digitsB)
        if order != .eq then order
        else versionPartOrder limit (a.drop digitsA.length) (b.drop digitsB.length)

/-- The order of versions. -/
def versionOrder (a b : Raw) : Ordering :=
  versionPartOrder (a.length + b.length + 1) a b

/-! ### Keys -/

/-- How a part is compared. -/
structure SortRule where
  kind : SortKind := .text
  isReversed : Bool := false
  foldsCase : Bool := false
  /-- whether only letters, digits and blanks count -/
  dictionary : Bool := false
  /-- whether bytes that cannot be shown are left out -/
  onlyShown : Bool := false
  skipsBlanks : Bool := false
  skipsBlanksAtEnd : Bool := false
  deriving Repr, BEq, DecidableEq, Inhabited

namespace SortRule

/-- A rule with what a letter asks for. -/
def with_ (r : SortRule) (atEnd : Bool) : Char → Option SortRule
  | 'n' => some { r with kind := .numeric }
  | 'g' => some { r with kind := .general }
  | 'h' => some { r with kind := .human }
  | 'M' => some { r with kind := .month }
  | 'V' => some { r with kind := .version }
  | 'r' => some { r with isReversed := true }
  | 'f' => some { r with foldsCase := true }
  | 'd' => some { r with dictionary := true }
  | 'i' => some { r with onlyShown := true }
  | 'b' => if atEnd then some { r with skipsBlanksAtEnd := true } else some { r with skipsBlanks := true }
  | _ => none

/-- What of a text is compared. -/
def seen (r : SortRule) (text : Raw) : Raw :=
  let text := if r.dictionary then text.filter fun c => c.isAlphanum || c = ' ' || c = '\t' else text
  let text := if r.onlyShown then text.filter fun c => 32 ≤ c.toNat && c.toNat < 127 else text
  if r.foldsCase then text.map Char.toUpper else text

/-- The order of two texts. -/
def order (r : SortRule) (a b : Raw) : Ordering :=
  let found := match r.kind with
    | .text => compare (r.seen a) (r.seen b)
    | .numeric => numericOrder a b
    | .general => generalOrder a b
    | .human => humanOrder a b
    | .month => compare (monthNumber a) (monthNumber b)
    | .version => versionOrder a b
  if r.isReversed then found.swap else found

end SortRule

/-- A part of a line: the fields and letters before it, and before its end. -/
structure SortKey where
  firstField : Nat := 0
  firstLetter : Nat := 0
  /-- the number of fields up to the end, and the number of letters behind them -/
  last : Option (Nat × Nat) := none
  rule : Option SortRule := none
  deriving Repr, BEq, DecidableEq, Inhabited

/-- Whether a byte stands between fields. -/
def isFieldGap (c : Char) : Bool :=
  c = ' ' || c = '\t' || c = '\n'

/-- What follows some fields of a line. With `keeps` the last separator is not passed. -/
def afterFields (separator : Option Char) (keeps : Bool) : Nat → Raw → Raw
  | 0, r => r
  | n + 1, r =>
    match separator with
    | some s =>
      let rest := r.dropWhile (· != s)
      if n = 0 && keeps then rest else afterFields separator keeps n (rest.drop 1)
    | none => afterFields separator keeps n ((r.dropWhile isFieldGap).dropWhile fun c => !isFieldGap c)

namespace SortKey

/-- The part of a line that a key is. -/
def part (k : SortKey) (rule : SortRule) (separator : Option Char) (l : Raw) : Raw :=
  let start := afterFields separator false k.firstField l
  let start := if rule.skipsBlanks then start.dropWhile isFieldGap else start
  let start := start.drop k.firstLetter
  match k.last with
  | none => start
  | some (field, letter) =>
    let rest :=
      if letter = 0 then afterFields separator true (field + 1) l
      else
        let rest := afterFields separator false field l
        (if rule.skipsBlanksAtEnd then rest.dropWhile isFieldGap else rest).drop letter
    start.take (start.length - rest.length)

/-- A field and a letter, and the letters of rules behind them. -/
def position? (r : Raw) : Option (Nat × Option Nat × Raw) := do
  let field := r.takeWhile Char.isDigit
  let n ← Raw.nat? field
  match r.drop field.length with
  | '.' :: rest =>
    let letter := rest.takeWhile Char.isDigit
    return (n, some (← Raw.nat? letter), rest.drop letter.length)
  | rest => return (n, none, rest)

/-- The key that an argument describes. -/
def read? (r : Raw) : Option SortKey := do
  let (first, last) := Text.cut ',' r
  let (field, letter, letters) ← position? first
  if field = 0 || letter = some 0 then none
  let rule ← letters.foldlM (fun (r : SortRule) c => r.with_ false c) {}
  let key : SortKey := { firstField := field - 1, firstLetter := letter.getD 1 - 1 }
  match last with
  | none => return { key with rule := if rule = {} then none else some rule }
  | some last =>
    let (field, letter, letters) ← position? last
    if field = 0 then none
    let rule ← letters.foldlM (fun (r : SortRule) c => r.with_ true c) rule
    return { key with last := some (field - 1, letter.getD 0), rule := if rule = {} then none else some rule }

end SortKey

/-! ### Sorting -/

/-- How lines are sorted. -/
structure Sorting where
  keys : List SortKey := []
  separator : Option Char := none
  rule : SortRule := {}
  isUnique : Bool := false
  isStable : Bool := false

namespace Sorting

/-- The order of two lines by their keys. -/
def keyOrder (s : Sorting) (a b : Raw) : Ordering :=
  let isPlain := { s.rule with isReversed := false } = ({} : SortRule)
  let keys := if s.keys.isEmpty then (if isPlain then [] else [({} : SortKey)]) else s.keys
  keys.foldl (fun found k =>
    let rule := k.rule.getD s.rule
    let part := k.part rule s.separator
    found.then (rule.order (part a) (part b))) .eq

/-- Whether lines have keys that are compared. -/
def hasKeys (s : Sorting) : Bool :=
  !s.keys.isEmpty || { s.rule with isReversed := false } != ({} : SortRule)

/-- The order of two lines. -/
def order (s : Sorting) (a b : Raw) : Ordering :=
  let byKeys := s.keyOrder a b
  if s.hasKeys && (s.isUnique || s.isStable) then byKeys
  else
    let whole := compare a b
    byKeys.then (if s.rule.isReversed then whole.swap else whole)

/-- Lines in order. -/
def apply (s : Sorting) (ls : List Raw) : List Raw :=
  let sorted := ls.mergeSort fun a b => s.order a b != .gt
  if s.isUnique then
    (sameLines (fun a b => s.order a b = .eq) sorted).filterMap List.head?
  else sorted

end Sorting

/-- Sort the lines of files. -/
def sort : Program := fun _ args => do
  let o : Options := {
    name := "sort", plain := "nrufbdighMVsmcCz", valued := "kotST", code := 2
    long := [("numeric-sort", 'n'), ("reverse", 'r'), ("unique", 'u'), ("ignore-case", 'f'),
      ("ignore-leading-blanks", 'b'), ("dictionary-order", 'd'), ("general-numeric-sort", 'g'),
      ("human-numeric-sort", 'h'), ("month-sort", 'M'), ("version-sort", 'V'), ("stable", 's'), ("merge", 'm'),
      ("check", 'c'), ("key", 'k'), ("output", 'o'), ("field-separator", 't'), ("zero-terminated", 'z')] }
  let (found, files) ← o.read args
  let mut s : Sorting := { isUnique := has found 'u', isStable := has found 's' }
  for (c, r) in found do
    if let some rule := (s.rule.with_ false c).bind fun r => if c = 'b' then r.with_ true c else some r then
      s := { s with rule }
    if c = 'k' then
      match SortKey.read? r with
      | some k => s := { s with keys := s.keys ++ [k] }
      | none => refuse "sort" ("invalid number at field start: invalid count at start of ".toList ++ shown r) 2
    if c = 't' then
      match r with
      | [c] => s := { s with separator := some c }
      | ['\\', '0'] => s := { s with separator := some '\x00' }
      | [] => refuse "sort" "empty tab".toList 2
      | r => refuse "sort" ("multi-character tab ".toList ++ shown r) 2
  let mut ls : List Raw := []
  for file in (if files.isEmpty then [['-']] else files) do
    match ← contentOf file with
    | .ok r => ls := ls ++ (if has found 'z' then Text.splitAtChar '\x00' r |>.filter (!·.isEmpty) else Raw.lines r)
    | .error problem =>
      if problem = Exec.problem .isDirectory then
        refuse "sort" ("read failed: ".toList ++ file ++ ": ".toList ++ problem.toList) 2
      refuse "sort" ("cannot read: ".toList ++ shownIfNeeded file ++ ": ".toList ++ problem.toList) 2
  if has found 'c' || has found 'C' then
    let disorder := ((ls.zip ls.tail).zipIdx).find? fun ((a, b), _) =>
      match s.order a b with
      | .gt => true
      | .eq => s.isUnique
      | .lt => false
    match disorder with
    | none => return 0
    | some ((_, b), i) =>
      if !has found 'C' then
        let file := files.head?.getD ['-']
        complainAs "sort" (file ++ ':' :: Raw.ofNat (i + 2) ++ ": disorder: ".toList ++ b)
      return 1
  let ending := if has found 'z' then ['\x00'] else ['\n']
  let out := (s.apply ls).flatMap (· ++ ending)
  match valueOf? found 'o' with
  | none => put out
  | some file =>
    if let .error problem := ← writeFile file out then
      refuse "sort" ("open failed: ".toList ++ shownIfNeeded file ++ ": ".toList ++ problem.toList) 2
  return 0

end Stencil.Shell.Program
