import Stencil.Decimal.Binary

namespace Stencil.Decimal

/-!
# Decimal notation of numbers

* `shortest` — the fewest significant digits that read back to a number, and of those the nearest;
* `Layout` — where positional notation ends and how exponents are written;
* `text` — the default text of a floating point number;
* `fixed`, `scientific` — a set number of places after the point;
* `Form`, `Style`, `styled` — styles, which say how many digits are written and whether an exponent follows them.
-/

/-- A decimal number: its significant digits and the power of ten of the last of them. -/
structure Digits where
  digits : Nat
  exponent : Int
  deriving Repr, BEq, DecidableEq

/-- Whether `d` lies strictly between `lo / scale` and `hi / scale` or, for an even mantissa, on one of
the ends; all three are multiples of `2 ^ e`. -/
def readsBack (d : Digits) (lo hi : Nat) (e : Int) (closed : Bool) : Bool :=
  let left := d.digits * Nat.pow 10 d.exponent.toNat * Nat.pow 2 (-e).toNat
  let bound (n : Nat) := n * Nat.pow 2 e.toNat * Nat.pow 10 (-d.exponent).toNat
  if closed then bound lo ≤ left && left ≤ bound hi else bound lo < left && left < bound hi

/-- The value `m * 2 ^ e` divided by `10 ^ k`, as a numerator and a denominator. -/
def overPowerOfTen (m : Nat) (e k : Int) : Nat × Nat :=
  (m * Nat.pow 2 e.toNat * Nat.pow 10 (-k).toNat, Nat.pow 2 (-e).toNat * Nat.pow 10 k.toNat)

/-- The number of decimal digits of a positive natural number. -/
def digitCount (n : Nat) : Nat :=
  (Nat.toDigits 10 n).length

/-- The least `k` with `m * 2 ^ e < 10 ^ k`, for positive `m`. -/
def magnitude (m : Nat) (e : Int) : Int :=
  if e ≥ 0 then digitCount (m * Nat.pow 2 e.toNat)
  else
    let whole := m / Nat.pow 2 (-e).toNat
    if whole > 0 then digitCount whole
    else
      -- Below one: scale by a power of ten that is surely large enough and count again.
      let shift := (-e).toNat
      (digitCount (m * Nat.pow 10 shift / Nat.pow 2 (-e).toNat) : Int) - shift

/-- The candidates with `n` digits around `m * 2 ^ e`: the two neighbours on the grid, the nearer one
first; on a tie the even one. -/
def candidates (m : Nat) (e k : Int) (n : Nat) : List Digits :=
  let grid := k - n
  let (num, den) := overPowerOfTen m e grid
  let below : Digits := ⟨num / den, grid⟩
  let above : Digits := ⟨num / den + 1, grid⟩
  let r := num % den
  if 2 * r < den || (2 * r = den && below.digits % 2 = 0) then [below, above] else [above, below]

/-- The fewest digits that read back to `m * 2 ^ e`, the nearest of those. -/
def shortestOf (m : Nat) (e : Int) (narrow : Bool) : Digits :=
  let lo := if narrow then 4 * m - 1 else 4 * m - 2
  let hi := 4 * m + 2
  let closed := m % 2 = 0
  let k := magnitude m e
  let hit := (List.range 17).findSome? fun i =>
    (candidates m e k (i + 1)).find? fun d => readsBack d lo hi (e - 2) closed
  hit.getD (if e ≥ 0 then ⟨m * Nat.pow 2 e.toNat, 0⟩ else ⟨m * Nat.pow 5 (-e).toNat, e⟩)

/-- The shortest digits of a positive finite number. -/
def shortest (x : Float) : Digits :=
  match Binary.ofFloat? x with
  | none => ⟨0, 0⟩
  | some b =>
    let m := b.mantissa.natAbs
    if m = 0 then ⟨0, 0⟩
    else shortestOf m b.exponent (m = Nat.pow 2 52 && b.exponent > -1074)

/-- Drop the trailing zeros of a list of digits. -/
def dropTrailingZeros (ds : List Char) : List Char :=
  (ds.reverse.dropWhile (· == '0')).reverse

/-- How the default text of a number is laid out: the decimal exponents from `low` to below `high` are
written positionally, and an exponent has at least two digits. -/
structure Layout where
  low : Int
  high : Int

/-- Numbers from `0.0001` to below `10 ^ 16` are written positionally. -/
def defaultLayout : Layout := ⟨-4, 16⟩

/-- The text of an exponent: a sign and at least two digits. -/
def exponentText (e : Int) : List Char :=
  let ds := Nat.toDigits 10 e.natAbs
  (if e < 0 then '-' else '+') :: (if ds.length < 2 then '0' :: ds else ds)

/-- Digits laid out with `point` of them before the decimal point; `whole` is the text that ends a number
without a fraction. -/
def positional (ds : List Char) (point : Int) (whole : List Char) : List Char :=
  if point ≤ 0 then '0' :: '.' :: List.replicate (-point).toNat '0' ++ ds
  else
    let n := point.toNat
    if ds.length ≤ n then ds ++ List.replicate (n - ds.length) '0' ++ whole
    else ds.take n ++ '.' :: ds.drop n

/-- The first digit, the rest after a point, and the exponent. -/
def scientificText (ds : List Char) (e : Int) : List Char :=
  match ds with
  | [] => []
  | [d] => d :: 'e' :: exponentText e
  | d :: rest => d :: '.' :: rest ++ 'e' :: exponentText e

/-- Significant digits in a layout; `whole` ends a number without a fraction. -/
def layOut (layout : Layout) (whole : List Char) (ds : List Char) (point : Int) : List Char :=
  if layout.low ≤ point - 1 && point - 1 < layout.high then positional ds point whole
  else scientificText ds (point - 1)

/-- The default text of a number: the fewest digits that read back to it. -/
def text (x : Float) : String :=
  if x.isNaN then "nan"
  else if x.isInf then (if x < 0 then "-inf" else "inf")
  else
    let sign := if isNegative x then ['-'] else []
    if x == 0 then .ofList (sign ++ ['0', '.', '0'])
    else
      let d := shortest x.abs
      let all := Nat.toDigits 10 d.digits
      let ds := dropTrailingZeros all
      .ofList (sign ++ layOut defaultLayout ['.', '0'] ds (d.exponent + all.length))

/-- A natural number with at least `width` digits. -/
def padDigits (width n : Nat) : List Char :=
  let ds := Nat.toDigits 10 n
  List.replicate (width - ds.length) '0' ++ ds

/-- `m * 2 ^ e` times `10 ^ places`, rounded to the nearest integer with ties to even. -/
def scaledRound (m : Nat) (e : Int) (places : Int) : Nat :=
  let (num, den) := overPowerOfTen m e (-places)
  roundQuotient num den

/-- The text of a finite number with a set number of places after the point. -/
def fixedOf (b : Binary) (negative : Bool) (places : Nat) : List Char :=
  let n := scaledRound b.mantissa.natAbs b.exponent places
  let ds := padDigits (places + 1) n
  let cut := ds.length - places
  (if negative then ['-'] else []) ++ ds.take cut ++
    (if places = 0 then [] else '.' :: ds.drop cut)

/-- The digits and decimal exponent of a positive value rounded to `n + 1` significant digits. -/
def significant (m : Nat) (e : Int) (n : Nat) : Nat × Int :=
  let k := magnitude m e
  let r := scaledRound m e ((n + 1 : Nat) - k)
  if digitCount r > n + 1 then (r / 10, k) else (r, k - 1)

/-- The text of a finite number with one digit before and a set number of places after the point. -/
def scientificOf (b : Binary) (negative : Bool) (places : Nat) : List Char :=
  let m := b.mantissa.natAbs
  let (r, e) := if m = 0 then (0, 0) else significant m b.exponent places
  let ds := padDigits (places + 1) r
  (if negative then ['-'] else []) ++
    (match ds with
     | [] => []
     | d :: rest => if rest.isEmpty then [d] else d :: '.' :: rest) ++
    'e' :: exponentText e

/-- The text of a finite number with at most `precision` significant digits, trailing zeros dropped. -/
def generalOf (b : Binary) (negative : Bool) (precision : Nat) : List Char :=
  let precision := max precision 1
  let m := b.mantissa.natAbs
  let sign := if negative then ['-'] else []
  if m = 0 then sign ++ ['0']
  else
    let (r, e) := significant m b.exponent (precision - 1)
    let ds := dropTrailingZeros (Nat.toDigits 10 r)
    sign ++ layOut ⟨-4, precision⟩ [] ds (e + 1)

/-- The text of a number that is not finite, if it is not. -/
def specialText? (x : Float) : Option (List Char) :=
  if x.isNaN then some "nan".toList
  else if x.isInf then some (if x < 0 then "-inf".toList else "inf".toList)
  else none

/-- A number with a set number of places after the point. -/
def fixed (x : Float) (places : Nat) : List Char :=
  (specialText? x).getD (fixedOf ((Binary.ofFloat? x).getD ⟨0, 0⟩) (isNegative x) places)

/-- A number in scientific notation with a set number of places after the point. -/
def scientific (x : Float) (places : Nat) : List Char :=
  (specialText? x).getD (scientificOf ((Binary.ofFloat? x).getD ⟨0, 0⟩) (isNegative x) places)

/-- A number with at most a set number of significant digits. -/
def general (x : Float) (precision : Nat) : List Char :=
  (specialText? x).getD (generalOf ((Binary.ofFloat? x).getD ⟨0, 0⟩) (isNegative x) precision)

/-- The number nearest to `x` that has at most `places` digits after the point; a negative count rounds
to tens, hundreds and so on. -/
def roundTo (x : Float) (places : Int) : Float :=
  match Binary.ofFloat? x with
  | none => x
  | some b =>
    let n := scaledRound b.mantissa.natAbs b.exponent places
    if places ≥ 0 then nearest (isNegative x) n (Nat.pow 10 places.toNat)
    else nearest (isNegative x) (n * Nat.pow 10 (-places).toNat) 1

/-! ### Styles -/

/-- What decides how many digits are written, and whether there is an exponent. -/
inductive Form where
  /-- a set number of digits after the point -/
  | fixed
  /-- one digit before the point, a set number after it, and an exponent -/
  | scientific
  /-- a set number of significant digits, with an exponent if there are not enough of them or many zeros -/
  | general
  /-- as many digits as are needed to read the number back -/
  | shortest
  deriving Repr, BEq, DecidableEq, Inhabited

/-- How a number is written. -/
structure Style where
  form : Form
  precision : Nat := 6
  /-- the point and the zeros after it are never dropped -/
  keepsPoint : Bool := false
  /-- without an exponent there is at least one digit after the point -/
  keepsFraction : Bool := false
  deriving Repr, BEq, DecidableEq, Inhabited

/-- The digits to write: how many of them stand before the point, how many are written at least, and whether
an exponent is used. -/
structure Figures where
  digits : List Char
  point : Int
  least : Int
  hasExponent : Bool

/-- The figures of a positive finite number or of zero. -/
def Style.figures (s : Style) (x : Float) (b : Binary) : Figures :=
  let m := b.mantissa.natAbs
  match s.form with
  | .fixed =>
    let ds := padDigits (s.precision + 1) (scaledRound m b.exponent s.precision)
    { digits := ds, point := (ds.length : Int) - s.precision, least := ds.length, hasExponent := false }
  | .scientific =>
    let (r, e) := if m = 0 then (0, 0) else significant m b.exponent s.precision
    { digits := padDigits (s.precision + 1) r, point := e + 1, least := s.precision + 1, hasExponent := true }
  | .general =>
    let p := max s.precision 1
    let (r, e) := if m = 0 then (0, 0) else significant m b.exponent (p - 1)
    let ds := if m = 0 then ['0'] else dropTrailingZeros (Nat.toDigits 10 r)
    let point := e + 1
    let limit : Int := if s.keepsFraction then (p : Int) - 1 else p
    { digits := ds, point, least := if s.keepsPoint then p else ds.length
      hasExponent := point ≤ -4 || point > limit }
  | .shortest =>
    if m = 0 then { digits := ['0'], point := 1, least := 1, hasExponent := false }
    else
      let d := shortest x.abs
      let all := Nat.toDigits 10 d.digits
      let ds := dropTrailingZeros all
      let point := d.exponent + all.length
      { digits := ds, point, least := ds.length, hasExponent := point ≤ -4 || point > 16 }

/-- Figures with a point and possibly an exponent. -/
def Style.layOut (s : Style) (f : Figures) : List Char :=
  let point : Int := if f.hasExponent then 1 else f.point
  let first : Int := if point ≤ 0 then point - 1 else 0
  let last := max f.least (if !f.hasExponent && s.keepsFraction then point + 1 else point)
  let digitAt (i : Int) : Char := if i < 0 then '0' else f.digits[i.toNat]?.getD '0'
  let run (a b : Int) : List Char := (List.range (b - a).toNat).map fun i => digitAt (a + (i : Nat))
  let fraction := run point last
  run first point ++ (if fraction.isEmpty && !s.keepsPoint then [] else '.' :: fraction) ++
    (if f.hasExponent then 'e' :: exponentText (f.point - 1) else [])

/-- A number in a style; one that is not finite is a word in every style. -/
def styled (s : Style) (x : Float) : List Char :=
  match specialText? x, Binary.ofFloat? x with
  | some word, _ => word
  | none, some b => (if isNegative x then ['-'] else []) ++ s.layOut (s.figures x b)
  | none, none => []

end Stencil.Decimal
