import Stencil.Shell.Builtin.Condition
import Stencil.Shell.Builtin.Print
import Stencil.Shell.Program.Basic
import Stencil.Text.Letters

namespace Stencil.Shell.Program

/-!
# Writing

* `echo`, `printf`, `yes`, `tee` — texts;
* `seq` — numbers;
* `basename`, `dirname` — parts of paths;
* `true_`, `false_`, `test`, `bracket` — programs that only have an exit code.
-/

open Exec

/-! ### Texts -/

/-- Bytes with the marks in them replaced, and whether a mark ends all output. Numbers in base eight follow a zero,
those in base sixteen an x; `limit` bounds how many bytes there are. -/
def markedUpTo : Nat → Raw → Raw × Bool
  | 0, r => (r, false)
  | _, [] => ([], false)
  | _, ['\\'] => (['\\'], false)
  | limit + 1, '\\' :: c :: rest =>
    let goOn (before : Raw) (rest : Raw) : Raw × Bool :=
      let (r, ends) := markedUpTo limit rest
      (before ++ r, ends)
    if c = 'c' then ([], true)
    else if c = '0' then
      let (n, after) := octalDigits 3 rest
      goOn [Char.ofNat (n % 256)] after
    else if '1' ≤ c && c ≤ '7' then
      let (n, after) := octalDigits 3 (c :: rest)
      goOn [Char.ofNat (n % 256)] after
    else if c = 'x' then
      let digits := (rest.take 2).takeWhile fun c => (Text.hexValue? c).isSome
      if digits.isEmpty then goOn ['\\', 'x'] rest
      else
        let n := digits.foldl (fun n c => n * 16 + (Text.hexValue? c).getD 0) 0
        goOn [Char.ofNat n] (rest.drop digits.length)
    else match escapeOf? c with
      | some d => goOn [d] rest
      | none => goOn ['\\', c] rest
  | limit + 1, c :: rest =>
    let (r, ends) := markedUpTo limit rest
    (c :: r, ends)

/-- The options in front of the arguments of `echo`: whether the line end is left out, and whether marks are
replaced. -/
def echoOptions : Bool → Bool → List Raw → Bool × Bool × List Raw
  | isBare, isMarked, ('-' :: c :: letters) :: rest =>
    if (c :: letters).all "neE".toList.contains then
      let marks := (c :: letters).filter (· != 'n')
      let isMarked := match marks.getLast? with
        | some c => c = 'e'
        | none => isMarked
      echoOptions (isBare || (c :: letters).contains 'n') isMarked rest
    else (isBare, isMarked, ('-' :: c :: letters) :: rest)
  | isBare, isMarked, args => (isBare, isMarked, args)

/-- Write the arguments. -/
def echo : Program := fun _ args => do
  let (isBare, isMarked, args) := echoOptions false false args
  let r := Text.join [' '] args
  let (r, ends) := if isMarked then markedUpTo r.length r else (r, false)
  put (if isBare || ends then r else r ++ ['\n'])
  return 0

/-- Write arguments by a format. -/
def printf : Program := fun _ args => Builtin.printf args

/-- Write the same line again and again. -/
def yes : Program := fun _ args => do
  let l := (if args.isEmpty then ['y'] else Text.join [' '] args) ++ ['\n']
  let block := (List.replicate (8192 / l.length + 1) l).flatten
  for _ in List.range 1000 do put block
  return 0

/-- Write the input to the output and to files. -/
def tee : Program := fun _ args => do
  let o : Options := { name := "tee", plain := "aip", long := [("append", 'a'), ("ignore-interrupts", 'i')] }
  let (found, files) ← o.read args
  let r := (← readAll 0).toOption.getD []
  put r
  let mut code := 0
  for file in files do
    if file = ['-'] then put r
    else
      match ← openFile file true (!has found 'a') { channel := .nowhere, appends := has found 'a' } with
      | .ok number =>
        let _ ← writeTo number r
      | .error f =>
        complainOf "tee" file (Exec.problem f)
        code := 1
  return code

/-! ### Numbers -/

/-- A number with a fraction: its value in units of a power of ten, and how many places it has. -/
def decimal? (r : Raw) : Option (Int × Nat) := do
  let r := r.dropWhile (· = ' ')
  let (isNegative, r) := match r with
    | '-' :: rest => (true, rest)
    | '+' :: rest => (false, rest)
    | r => (false, r)
  let (whole, fraction) := Text.cut '.' r
  let fraction := fraction.getD []
  if (whole ++ fraction).isEmpty || !(whole ++ fraction).all Char.isDigit then none
  let n := Raw.digitsValue (whole ++ fraction)
  return (if isNegative then -(n : Int) else n, fraction.length)

/-- A number in units of a power of ten, written with some places. -/
def decimalText (places : Nat) (n : Int) : Raw :=
  let digits := Raw.ofNat n.natAbs
  let digits := List.replicate (places + 1 - digits.length) '0' ++ digits
  let whole := digits.take (digits.length - places)
  let fraction := digits.drop (digits.length - places)
  (if n < 0 then ['-'] else []) ++ whole ++ (if places = 0 then [] else '.' :: fraction)

/-- The numbers between two ones. -/
def progression (first step last : Int) : List Int :=
  if step = 0 then []
  else
    let distance := if 0 < step then last - first else first - last
    if distance < 0 then []
    else (List.range (distance.natAbs / step.natAbs + 1)).map fun i => first + step * Int.ofNat i

/-- Bytes with zeros behind the sign, up to a width. -/
def zeroPadded (width : Nat) (r : Raw) : Raw :=
  match r with
  | '-' :: digits => '-' :: List.replicate (width - r.length) '0' ++ digits
  | r => List.replicate (width - r.length) '0' ++ r

/-- The longest progression that is written. -/
def maxProgression : Nat := 1000000

/-- Arguments with a mark in front of the first one that is a negative number, so that it is not taken for an
option. -/
def withNegatives : List Raw → List Raw
  | [] => []
  | ('-' :: c :: r) :: rest =>
    if c.isDigit || c = '.' then ['-', '-'] :: ('-' :: c :: r) :: rest
    else if (c = 's' || c = 'f') && r.isEmpty then
      match rest with
      | value :: rest => ('-' :: c :: r) :: value :: withNegatives rest
      | [] => [('-' :: c :: r)]
    else ('-' :: c :: r) :: withNegatives rest
  | rest => rest

/-- Write the numbers of a progression. -/
def seq : Program := fun _ args => do
  let o : Options := {
    name := "seq", plain := "w", valued := "sft", leads := true
    long := [("equal-width", 'w'), ("separator", 's'), ("format", 'f')] }
  let (found, operands) ← o.read (withNegatives args)
  let number (r : Raw) : Exec (Int × Nat) := do
    match decimal? r with
    | some x => return x
    | none => o.refuse ("invalid floating point argument: ".toList ++ shown r)
  let (first, step, last) ← match operands with
    | [] => o.refuse "missing operand".toList
    | [last] => pure ((1, 0), (1, 0), ← number last)
    | [first, last] => pure (← number first, (1, 0), ← number last)
    | [first, step, last] => pure (← number first, ← number step, ← number last)
    | _ :: _ :: _ :: r :: _ => o.refuse ("extra operand ".toList ++ shown r)
  if step.1 = 0 then
    o.refuse ("invalid Zero increment value: ".toList ++ shown (operands.getD 1 []))
  let places := max first.2 step.2
  let units := max places last.2
  let scaled (x : Int × Nat) : Int := x.1 * Int.pow 10 (units - x.2)
  let numbers := (progression (scaled first) (scaled step) (scaled last)).take maxProgression
  let shownPlainly (n : Int) : Raw := decimalText places (n / Int.pow 10 (units - places))
  let texts ← match valueOf? found 'f' with
    | some format => numbers.mapM fun n => do
        let before := format.takeWhile (· != '%')
        let (source, after) := Directive.read (format.drop (before.length + 1))
        match after with
        | kind :: after =>
          let measure : Measure → Option Nat
            | .written n => some n
            | _ => none
          let d : Directive := {
            flags := source.flags, width := (measure source.width).getD 0, precision := measure source.precision, kind }
          let x := ((Decimal.readFloat? (decimalText units n)).getD 0)
          return before ++ d.real x ++ after
        | [] => refuse "seq" ("format ".toList ++ shown format ++ " has no % directive".toList)
    | none => pure (numbers.map shownPlainly)
  let width := [scaled first, scaled last].foldl (fun n x => max n (shownPlainly x).length) 0
  let texts := if has found 'w' then texts.map (zeroPadded width) else texts
  if !texts.isEmpty then put (Text.join ((valueOf? found 's').getD ['\n']) texts ++ ['\n'])
  return 0

/-! ### Paths -/

/-- A path without the slashes at its end. -/
def withoutSlashes (r : Raw) : Raw :=
  let kept := Text.trimRightOf (· = '/') r
  if kept.isEmpty && !r.isEmpty then ['/'] else kept

/-- The last name of a path. -/
def baseName (r : Raw) : Raw :=
  let r := withoutSlashes r
  if r = ['/'] then r
  else match Text.cutAtLast? '/' r with
    | some (_, name) => name
    | none => r

/-- A path without its last name. -/
def directoryName (r : Raw) : Raw :=
  let r := withoutSlashes r
  if r = ['/'] then r
  else match Text.cutAtLast? '/' r with
    | some (directory, _) => withoutSlashes (if directory.isEmpty then ['/'] else directory)
    | none => ['.']

/-- Write the last names of paths. -/
def basename : Program := fun _ args => do
  let o : Options := {
    name := "basename", plain := "az", valued := "s", leads := true
    long := [("multiple", 'a'), ("suffix", 's'), ("zero", 'z')] }
  let (found, operands) ← o.read args
  let ending := if has found 'z' then ['\x00'] else ['\n']
  let without (suffix name : Raw) : Raw :=
    if name != suffix && Text.endsWith suffix name then name.take (name.length - suffix.length) else name
  match operands with
  | [] => o.refuse "missing operand".toList
  | names =>
    if has found 'a' || has found 's' then
      put (names.flatMap fun name => without ((valueOf? found 's').getD []) (baseName name) ++ ending)
    else match names with
      | [name] => put (baseName name ++ ending)
      | [name, suffix] => put (without suffix (baseName name) ++ ending)
      | _ :: _ :: r :: _ => o.refuse ("extra operand ".toList ++ shown r)
      | [] => pure ()
    return 0

/-- Write paths without their last names. -/
def dirname : Program := fun _ args => do
  let o : Options := { name := "dirname", plain := "z", long := [("zero", 'z')] }
  let (found, names) ← o.read args
  if names.isEmpty then o.refuse "missing operand".toList
  put (names.flatMap fun name => directoryName name ++ (if has found 'z' then ['\x00'] else ['\n']))
  return 0

/-! ### Exit codes -/

/-- A program that succeeds. -/
def true_ : Program := fun _ _ => return 0

/-- A program that fails. -/
def false_ : Program := fun _ _ => return 1

/-- Check a condition. -/
def test : Program := fun _ args => Builtin.condition args

/-- Check a condition between brackets. -/
def bracket : Program := fun _ args => Builtin.bracketed args

end Stencil.Shell.Program
