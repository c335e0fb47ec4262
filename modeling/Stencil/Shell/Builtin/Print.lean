import Stencil.Shell.Arithmetic
import Stencil.Shell.Builtin.Basic
import Stencil.Shell.Format

namespace Stencil.Shell.Builtin

/-!
# Writing texts

* `echo` — arguments with marks in them replaced;
* `printf` — arguments written by a format, which is used again while there are arguments.
-/

open Exec

/-- Write the arguments. -/
def echo (args : List Raw) : Exec Nat := do
  let (isBare, args) := match args with
    | ['-', 'n'] :: rest => (true, rest)
    | args => (false, args)
  let (r, ends) := unescaped (Text.join [' '] args)
  if ← write 1 (if ends || isBare then r else r ++ ['\n']) then return 0
  warn "echo: I/O error".toList
  return 1

/-! ### Formats -/

/-- What a format is filled with. -/
structure Filling where
  left : List Raw
  /-- whether any value has been taken -/
  used : Bool := false
  code : Nat := 0
  /-- whether a value has ended all output -/
  ends : Bool := false
  /-- what is to be written, the last piece first -/
  out : List Raw := []
  deriving Inhabited

/-- Computations that fill a format. -/
abbrev Fill := StateT Filling Exec

/-- The next value, if there is one. -/
def take? : Fill (Option Raw) := do
  let f ← get
  match f.left with
  | [] => return none
  | a :: rest =>
    set { f with left := rest, used := true }
    return some a

/-- Complain about a value; the output goes on. -/
def badValue (r : Raw) (reason : String) : Fill Unit := do
  liftM (warn (r ++ ": ".toList ++ reason.toList) : Exec Unit)
  modify fun f => { f with code := 1 }

/-- Add a piece to what is to be written. -/
def emit (r : Raw) : Fill Unit :=
  modify fun f => { f with out := r :: f.out }

/-- Complain about the format; what has been made is still written. -/
def badFormat (reason : Raw) : Fill Unit := do
  let f ← get
  liftM (do
    warn reason
    put f.out.reverse.flatten
    throw (.failure 2) : Exec Unit)

/-- The number that a value stands for. A quote stands before a byte whose number is meant. -/
def takeWhole (isSigned : Bool) : Fill Int := do
  match ← take? with
  | none => return 0
  | some ('"' :: c :: _) => return c.toNat
  | some ('\x27' :: c :: _) => return c.toNat
  | some [] => return 0
  | some r =>
    let s := r.dropWhile Arithmetic.isBlank
    let (isNegative, unsigned) := match s with
      | '-' :: rest => (true, rest)
      | '+' :: rest => (false, rest)
      | s => (false, s)
    let (n, rest) := Arithmetic.readUnsigned unsigned
    if rest.length = unsigned.length then
      badValue r "expected numeric value"
      return 0
    if !rest.isEmpty then badValue r "not completely converted"
    let value : Int := if isNegative then -(n : Int) else n
    let (low, high) : Int × Int := if isSigned then (Arithmetic.smallest, Arithmetic.largest) else (-(Int.pow 2 64 - 1), Int.pow 2 64 - 1)
    if value < low then
      badValue r "Numerical result out of range"
      return low
    if high < value then
      badValue r "Numerical result out of range"
      return high
    return value

/-- The longest start of bytes that is a number with a fraction, and what follows it. -/
def realPrefix (r : Raw) : Raw × Raw :=
  let sign := (r.take 1).takeWhile fun c => c = '-' || c = '+'
  let rest := r.drop sign.length
  let digits := rest.takeWhile Char.isDigit
  let rest := rest.drop digits.length
  let fraction := match rest with
    | '.' :: after => '.' :: after.takeWhile Char.isDigit
    | _ => []
  let mantissa := digits ++ fraction
  if (mantissa.filter Char.isDigit).isEmpty then ([], r)
  else
    let rest := rest.drop fraction.length
    let exponent := match rest with
      | e :: after =>
        if e = 'e' || e = 'E' then
          let sign := (after.take 1).takeWhile fun c => c = '-' || c = '+'
          let ds := (after.drop sign.length).takeWhile Char.isDigit
          if ds.isEmpty then [] else e :: sign ++ ds
        else []
      | [] => []
    (sign ++ mantissa ++ exponent, rest.drop exponent.length)

/-- The number with a fraction that a value stands for. -/
def takeReal : Fill Float := do
  match ← take? with
  | none => return 0
  | some ('"' :: c :: _) => return Float.ofNat c.toNat
  | some ('\x27' :: c :: _) => return Float.ofNat c.toNat
  | some [] => return 0
  | some r =>
    let (found, rest) := realPrefix (r.dropWhile Arithmetic.isBlank)
    match Decimal.readFloat? found with
    | some x =>
      if !rest.isEmpty then badValue r "not completely converted"
      return x
    | none =>
      badValue r "expected numeric value"
      return 0

/-- The number that a part of a directive stands for. -/
def measured : Measure → Fill (Option Int)
  | .absent => return none
  | .written n => return some n
  | .taken => return some (← takeWhole true)

/-- The directive after a percent sign, its numbers known. -/
def directive (s : Directive.Source) (kind : Char) : Fill Directive := do
  let width := (← measured s.width).getD 0
  let precision := ← measured s.precision
  return {
    flags := if width < 0 then '-' :: s.flags else s.flags
    width := width.natAbs
    precision := precision.bind fun n => if n < 0 then none else some n.toNat
    kind }

/-- Write a value by a directive. -/
def fillDirective (d : Directive) : Fill Unit := do
  match d.kind with
  | 's' => emit (d.text ((← take?).getD []))
  | 'c' => emit (d.byte (((← take?).getD []).head?.getD '\x00'))
  | 'b' =>
    let (r, ends) := unescaped ((← take?).getD [])
    emit (d.text r)
    modify fun f => { f with ends }
  | kind =>
    if "diouxX".toList.contains kind then emit (d.whole (← takeWhole (kind = 'd' || kind = 'i')))
    else emit (d.real (← takeReal))

/-- Write a format once; `limit` bounds its length. -/
def fillUpTo : Nat → Raw → Fill Unit
  | 0, _ => return
  | _, [] => return
  | limit + 1, '\\' :: rest => do
    let (c, after) := escaped rest
    emit [c]
    fillUpTo limit after
  | limit + 1, '%' :: '%' :: rest => do
    emit ['%']
    fillUpTo limit rest
  | limit + 1, '%' :: rest => do
    let (source, after) := Directive.read rest
    match after with
    | [] => badFormat "missing format character".toList
    | kind :: after =>
      if !"diouxXcsbeEfFgGaA".toList.contains kind then
        badFormat ('%' :: source.text ++ [kind] ++ ": invalid directive".toList)
      fillDirective (← directive source kind)
      if (← get).ends then return
      fillUpTo limit after
  | limit + 1, c :: rest => do
    emit [c]
    fillUpTo limit rest

/-- Write a format again while values are left; `limit` bounds how often. -/
def fillAll (format : Raw) : Nat → Fill Unit
  | 0 => return
  | limit + 1 => do
    fillUpTo (format.length + 1) format
    let f ← get
    if f.ends || !f.used || f.left.isEmpty then return
    set { f with used := false }
    fillAll format limit

/-- Write arguments by a format. -/
def printf (args : List Raw) : Exec Nat := do
  match (← options "" args).2 with
  | [] => fail "usage: printf format [arg ...]".toList
  | format :: values =>
    let (_, f) ← (fillAll format (values.length + 1)).run { left := values }
    let r := f.out.reverse.flatten
    if !r.isEmpty then
      if !(← write 1 r) then
        warn "printf: I/O error".toList
        return 1
    return f.code

end Stencil.Shell.Builtin
