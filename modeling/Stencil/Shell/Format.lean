import Stencil.Decimal.Notation
import Stencil.Decimal.Reader
import Stencil.Shell.Raw

namespace Stencil.Shell

/-!
# Formats

A format is a text with directives that say how a value is written: flags, the least width, a precision and the
kind of the value.

* `Directive` — a directive;
* `Directive.read` — the directive after a percent sign;
* `Directive.text`, `Directive.whole`, `Directive.real` — values written by a directive.
-/

/-- How a value is written. -/
structure Directive where
  flags : List Char := []
  width : Nat := 0
  precision : Option Nat := none
  kind : Char := 's'
  deriving Repr, BEq, DecidableEq, Inhabited

/-- A number in a directive: written there, or taken from the values. -/
inductive Measure where
  | absent
  | written (n : Nat)
  | taken
  deriving Repr, BEq, DecidableEq, Inhabited

/-- A directive as it is written. -/
structure Directive.Source where
  flags : List Char := []
  width : Measure := .absent
  precision : Measure := .absent
  /-- the text up to the kind -/
  text : Raw := []
  deriving Repr, BEq, DecidableEq, Inhabited

namespace Directive

/-- A number at the start of bytes, and what follows it. -/
def measure (r : Raw) : Measure × Raw :=
  match r with
  | '*' :: rest => (.taken, rest)
  | r =>
    let digits := r.takeWhile Char.isDigit
    if digits.isEmpty then (.absent, r) else (.written (Raw.digitsValue digits), r.drop digits.length)

/-- The directive after a percent sign, up to its kind, and what follows from the kind on. -/
def read (r : Raw) : Source × Raw :=
  let flags := r.takeWhile "#-+ 0".toList.contains
  let (width, rest) := measure (r.drop flags.length)
  let (precision, rest) := match rest with
    | '.' :: rest =>
      match measure rest with
      | (.absent, rest) => (Measure.written 0, rest)
      | found => found
    | rest => (.absent, rest)
  ({ flags, width, precision, text := r.take (r.length - rest.length) }, rest)

/-- Whether a flag is given. -/
def has (d : Directive) (flag : Char) : Bool :=
  d.flags.contains flag

/-- Bytes with blanks up to the least width. -/
def pad (d : Directive) (r : Raw) : Raw :=
  let blanks := List.replicate (d.width - r.length) ' '
  if d.has '-' then r ++ blanks else blanks ++ r

/-- A text: at most as many bytes as the precision says. -/
def text (d : Directive) (r : Raw) : Raw :=
  d.pad (match d.precision with
    | some n => r.take n
    | none => r)

/-- A number given by its sign and its digits. -/
def signed (d : Directive) (sign digits : Raw) (mayZero : Bool) : Raw :=
  if d.has '0' && !d.has '-' && mayZero then
    sign ++ List.replicate (d.width - sign.length - digits.length) '0' ++ digits
  else d.pad (sign ++ digits)

/-- The sign of a number. -/
def signOf (d : Directive) (isNegative : Bool) : Raw :=
  if isNegative then ['-'] else if d.has '+' then ['+'] else if d.has ' ' then [' '] else []

/-- The digits of a number in a base, at least as many as the precision says. -/
def digits (d : Directive) (base n : Nat) : Raw :=
  let ds := if n = 0 && d.precision = some 0 then [] else Nat.toDigits base n
  List.replicate (d.precision.getD 0 - ds.length) '0' ++ ds

/-- A whole number; without a sign it is one of 64 bits. -/
def whole (d : Directive) (n : Int) : Raw :=
  let unsigned := (n.emod (Int.pow 2 64)).toNat
  let mayZero := d.precision.isNone
  match d.kind with
  | 'o' =>
    let ds := d.digits 8 unsigned
    d.signed [] (if d.has '#' && ds.head? != some '0' then '0' :: ds else ds) mayZero
  | 'x' => d.signed (if d.has '#' && unsigned != 0 then ['0', 'x'] else []) (d.digits 16 unsigned) mayZero
  | 'X' =>
    d.signed (if d.has '#' && unsigned != 0 then ['0', 'X'] else [])
      ((d.digits 16 unsigned).map Char.toUpper) mayZero
  | 'u' => d.signed [] (d.digits 10 unsigned) mayZero
  | _ => d.signed (d.signOf (n < 0)) (d.digits 10 n.natAbs) mayZero

/-- The digits of a number with zeros at the end kept, for a general notation that asks for them. -/
def generalDigits (d : Directive) (x : Float) (precision : Nat) : Raw :=
  let r := Decimal.general x (max precision 1)
  if !d.has '#' then r
  else
    let (mantissa, exponent) := (r.takeWhile (· != 'e'), r.dropWhile (· != 'e'))
    let known := ((mantissa.filter Char.isDigit).dropWhile (· = '0')).length
    let mantissa := if mantissa.contains '.' then mantissa else mantissa ++ ['.']
    mantissa ++ List.replicate (max precision 1 - known) '0' ++ exponent

/-- A number with a fraction. -/
def real (d : Directive) (x : Float) : Raw :=
  let lower := d.kind.toLower
  let precision := d.precision.getD 6
  let magnitude := x.abs
  let isFinite := x.isFinite
  let ds :=
    if x.isNaN then "nan".toList
    else if x.isInf then "inf".toList
    else match lower with
      | 'e' => Decimal.scientific magnitude precision
      | 'f' => Decimal.fixed magnitude precision
      | _ => d.generalDigits magnitude precision
  let ds := if d.has '#' && precision = 0 && lower = 'f' then ds ++ ['.'] else ds
  let ds := if d.kind.isUpper then ds.map Char.toUpper else ds
  d.signed (d.signOf (Decimal.isNegative x && !x.isNaN)) ds isFinite

/-- One byte. -/
def byte (d : Directive) (c : Char) : Raw :=
  d.pad [c]

end Directive

/-! ### Marks with a backslash -/

/-- The value of octal digits at the start of bytes, at most some, and what follows them. -/
def octalDigits (limit : Nat) (r : Raw) : Nat × Raw :=
  let ds := (r.take limit).takeWhile fun c => '0' ≤ c && c ≤ '7'
  (ds.foldl (fun n c => n * 8 + (c.toNat - 48)) 0, r.drop ds.length)

/-- The character that a letter after a backslash stands for. -/
def escapeOf? (c : Char) : Option Char :=
  match c with
  | 'a' => some '\x07'
  | 'b' => some '\x08'
  | 'e' => some '\x1b'
  | 'f' => some '\x0c'
  | 'n' => some '\n'
  | 'r' => some '\r'
  | 't' => some '\t'
  | 'v' => some '\x0b'
  | '\\' => some '\\'
  | _ => none

/-- What stands after a backslash: the byte that it stands for, and what follows; a backslash before any other
byte stands for itself. -/
def escaped (r : Raw) : Char × Raw :=
  match r with
  | [] => ('\\', [])
  | c :: rest =>
    match escapeOf? c with
    | some d => (d, rest)
    | none =>
      if '0' ≤ c && c ≤ '7' then
        let (n, after) := octalDigits 3 r
        (Char.ofNat (n % 256), after)
      else ('\\', r)

/-- Bytes with the marks in them replaced, and whether a mark ends all output. Octal digits may follow a zero;
`limit` bounds how many bytes there are. -/
def unescapedUpTo : Nat → Raw → Raw × Bool
  | 0, r => (r, false)
  | _, [] => ([], false)
  | limit + 1, c :: rest =>
    if c != '\\' then
      let (r, ends) := unescapedUpTo limit rest
      (c :: r, ends)
    else match rest with
      | 'c' :: _ => ([], true)
      | rest =>
        let rest := match rest with
          | '0' :: d :: more => if '0' ≤ d && d ≤ '7' then d :: more else rest
          | rest => rest
        let (d, after) := escaped rest
        let (r, ends) := unescapedUpTo limit after
        (d :: r, ends)

/-- Bytes with the marks in them replaced, and whether a mark ends all output. -/
def unescaped (r : Raw) : Raw × Bool :=
  unescapedUpTo r.length r

end Stencil.Shell
