import Stencil.Decimal.Binary
import Stencil.Text.Case
import Stencil.Text.Pieces

namespace Stencil.Decimal

/-!
# Reading numbers

* `readInt?` — an integer: blanks around it, a sign, and digits of any script with single underscores
  between them; `readBounded?` — one that is not too long;
* `readFloat?` — a decimal number with an optional fraction and exponent, or one of the words for infinity
  and not-a-number;
* `ofScientific` — the number nearest to a decimal fraction.
-/

open Text

/-- The value of a digit in a base up to thirty-six. -/
def digitValue? (base : Nat) (c : Char) : Option Nat :=
  let v :=
    if isDecimal c then some (decimalValue c)
    else if 'a' ≤ c && c ≤ 'z' then some (c.toNat - 87)
    else if 'A' ≤ c && c ≤ 'Z' then some (c.toNat - 55)
    else none
  v.filter (· < base)

/-- The value of a run of digits in a base, read from the left. -/
def ofDigits (base : Nat) (ds : List Nat) : Nat :=
  ds.foldl (fun n d => base * n + d) 0

/-- The digits of a run in which single underscores may stand between digits. -/
def groupedDigits? (base : Nat) : List Char → Option (List Nat)
  | [] => none
  | [c] => (digitValue? base c).map ([·])
  | c :: '_' :: rest => do
    let d ← digitValue? base c
    let ds ← groupedDigits? base rest
    return d :: ds
  | c :: rest => do
    let d ← digitValue? base c
    let ds ← groupedDigits? base rest
    return d :: ds

/-- Split off a leading sign. -/
def splitSign : List Char → Bool × List Char
  | '-' :: rest => (true, rest)
  | '+' :: rest => (false, rest)
  | s => (false, s)

/-- Whether a character may stand around a number: a blank, but no information separator. -/
def mayPad (c : Char) : Bool :=
  isBlank c && !(28 ≤ c.toNat && c.toNat ≤ 31)

/-- A text without the blanks that may stand around a number. -/
def unpadded (s : List Char) : List Char :=
  trimRightOf mayPad (trimLeftOf mayPad s)

/-- An integer in a base; `none` for any other text. -/
def readIntIn? (base : Nat) (s : List Char) : Option Int := do
  let (negative, body) := splitSign (unpadded s)
  let ds ← groupedDigits? base body
  let n := ofDigits base ds
  return if negative then -(n : Int) else n

/-- A decimal integer; `none` for any other text. -/
def readInt? (s : List Char) : Option Int :=
  readIntIn? 10 s

/-- The most digits that a number may have where its size is bounded. -/
def maxDigits : Nat := 4300

/-- A decimal integer that is not too long; `none` for any other text. -/
def readBounded? (s : List Char) : Option Int :=
  if s.countP isDecimal > maxDigits then none else readInt? s

/-- The base that a text says by a prefix, and the digits after it. -/
def prefixedBase? : List Char → Option (Nat × List Char)
  | '0' :: c :: rest =>
    if c = 'x' || c = 'X' then some (16, rest)
    else if c = 'o' || c = 'O' then some (8, rest)
    else if c = 'b' || c = 'B' then some (2, rest)
    else none
  | _ => none

/-- A text as a whole number in a base, possibly with the prefix of the base; base zero is the one that the
prefix says. -/
def readWhole? (base : Nat) (s : List Char) : Option Int := do
  let (negative, body) := splitSign (unpadded s)
  let signed (n : Int) : Int := if negative then -n else n
  let digits (b : Nat) (rest : List Char) : Option Int := do
    guard !(rest.head?.any fun c => c = '+' || c = '-' || isBlank c)
    -- The number of digits is bounded unless the base is a power of two.
    if b != 2 && b != 4 && b != 8 && b != 16 && b != 32 then
      guard (rest.countP (· != '_') ≤ maxDigits)
    readIntIn? b (match rest with | '_' :: rest => rest | rest => rest)
  match prefixedBase? body with
  | some (b, rest) =>
    if b = base || base = 0 then signed <$> digits b rest
    else
      guard (body.head? != some '_')
      signed <$> digits base body
  | none =>
    guard (body.head? != some '_')
    if base = 0 then
      -- Where the prefix says the base, zero alone may start with a zero.
      guard (body.head? != some '0' || body.all fun c => c = '0' || c = '_')
      signed <$> digits 10 body
    else signed <$> digits base body

/-- The number nearest to `digits * 10 ^ exponent`. -/
def ofScientific (negative : Bool) (digits : Nat) (exponent : Int) : Float :=
  if digits = 0 then nearest negative 0 1
  -- Beyond these exponents the result is infinity or zero whatever the digits are.
  else if exponent > 400 then nearest negative (Nat.pow 10 400) 1
  else if exponent + (digits.log2 : Int) < -1200 then nearest negative 0 1
  else if exponent ≥ 0 then nearest negative (digits * Nat.pow 10 exponent.toNat) 1
  else nearest negative digits (Nat.pow 10 (-exponent).toNat)

/-- A run of digits that may be empty. -/
def optionalDigits? (s : List Char) : Option (List Nat) :=
  if s.isEmpty then some [] else groupedDigits? 10 s

/-- A decimal number without blanks and sign. -/
def readUnsigned? (negative : Bool) (s : List Char) : Option Float := do
  let isMark (c : Char) := c == 'e' || c == 'E'
  let mantissa := s.takeWhile (!isMark ·)
  let exponent ← match s.dropWhile (!isMark ·) with
    | [] => some 0
    | _ :: e => do
      let (negative, body) := splitSign e
      let ds ← groupedDigits? 10 body
      let n := ofDigits 10 ds
      some (if negative then -(n : Int) else n)
  let whole ← optionalDigits? (mantissa.takeWhile (· != '.'))
  let fraction ← match mantissa.dropWhile (· != '.') with
    | [] => some []
    | _ :: f => optionalDigits? f
  if whole.isEmpty && fraction.isEmpty then none
  else some (ofScientific negative (ofDigits 10 (whole ++ fraction)) (exponent - fraction.length))

/-- Infinity, with a sign. -/
def infinity (negative : Bool) : Float :=
  if negative then -1.0 / 0.0 else 1.0 / 0.0

/-- The number that is none. -/
def notANumber : Float := 0.0 / 0.0

/-- A floating point number; `none` for any other text. -/
def readFloat? (s : List Char) : Option Float :=
  let (negative, body) := splitSign (unpadded s)
  let word := String.ofList (lower body)
  if word == "inf" || word == "infinity" then some (infinity negative)
  else if word == "nan" then some notANumber
  else readUnsigned? negative body

end Stencil.Decimal
