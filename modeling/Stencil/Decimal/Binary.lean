namespace Stencil.Decimal

/-!
# Binary floating point numbers as exact rationals

A finite floating point number is a mantissa times a power of two. Everything that must be exact
(printing, rounding, comparing with integers, remainders) is done on this form.

* `Binary.ofFloat?` — the exact value of a finite number;
* `Binary.toFloat` — the nearest floating point number of a mantissa and an exponent;
* `Binary.floor`, `Binary.truncate` — whole parts;
* `compareExact` — the order of two exact values.
-/

/-- The number `mantissa * 2 ^ exponent`. -/
structure Binary where
  mantissa : Int
  exponent : Int
  deriving Repr, BEq, DecidableEq, Inhabited

/-- The sign bit of a number, set also for the negative zero. -/
def isNegative (x : Float) : Bool :=
  x.toBits >>> 63 == 1

/-- The exact value of a finite number. -/
def Binary.ofFloat? (x : Float) : Option Binary :=
  let bits := x.toBits
  let scale := ((bits >>> 52) &&& 0x7FF).toNat
  let fraction := (bits &&& 0xFFFFFFFFFFFFF).toNat
  let sign : Int := if isNegative x then -1 else 1
  if scale == 2047 then none
  else if scale == 0 then some ⟨sign * fraction, -1074⟩
  else some ⟨sign * (Nat.pow 2 52 + fraction : Nat), (scale : Int) - 1075⟩

/-- The number of binary digits of a natural number. -/
def bitLength (n : Nat) : Nat :=
  if n = 0 then 0 else n.log2 + 1

/-- The quotient of two natural numbers, rounded to nearest with ties to even. -/
def roundQuotient (num den : Nat) : Nat :=
  let q := num / den
  let r := num % den
  if 2 * r < den then q
  else if 2 * r > den then q + 1
  else if q % 2 = 0 then q else q + 1

/-- The bits of the finite number nearest to `num / den`, or of infinity when it is too large. -/
def nearestBits (num den : Nat) : UInt64 :=
  if num = 0 then 0
  else
    -- The exponent of the last place of the result; subnormal numbers share the least one.
    let guess : Int := (bitLength num : Int) - (bitLength den : Int) - 53
    let place (e : Int) : Nat :=
      if e < 0 then roundQuotient (num * Nat.pow 2 (-e).toNat) den else roundQuotient num (den * Nat.pow 2 e.toNat)
    let first := max guess (-1074)
    let exponent := if place first ≥ Nat.pow 2 53 then first + 1 else first
    let mantissa := place exponent
    let (mantissa, exponent) :=
      if mantissa ≥ Nat.pow 2 53 then (mantissa / 2, exponent + 1) else (mantissa, exponent)
    if mantissa < Nat.pow 2 52 then mantissa.toUInt64
    else if exponent + 1075 ≥ 2047 then 0x7FF0000000000000
    else (((exponent + 1075).toNat.toUInt64) <<< 52) ||| (mantissa - Nat.pow 2 52).toUInt64

/-- The floating point number nearest to a quotient of natural numbers, with a sign. -/
def nearest (negative : Bool) (num den : Nat) : Float :=
  let bits := nearestBits num den
  Float.ofBits (if negative then bits ||| 0x8000000000000000 else bits)

/-- The floating point number nearest to an exact value. -/
def Binary.toFloat (x : Binary) : Float :=
  let m := x.mantissa.natAbs
  if x.exponent ≥ 0 then nearest (x.mantissa < 0) (m * Nat.pow 2 x.exponent.toNat) 1
  else nearest (x.mantissa < 0) m (Nat.pow 2 (-x.exponent).toNat)

/-- The floating point number nearest to an integer. -/
def ofInt (n : Int) : Float :=
  nearest (n < 0) n.natAbs 1

/-- The greatest integer that is not above the value. -/
def Binary.floor (x : Binary) : Int :=
  if x.exponent ≥ 0 then x.mantissa * Int.pow 2 x.exponent.toNat
  else Int.fdiv x.mantissa (Int.pow 2 (-x.exponent).toNat)

/-- The integer part of the value, towards zero. -/
def Binary.truncate (x : Binary) : Int :=
  if x.exponent ≥ 0 then x.mantissa * Int.pow 2 x.exponent.toNat
  else Int.tdiv x.mantissa (Int.pow 2 (-x.exponent).toNat)

/-- The integer nearest to the value, a tie going to the even neighbour. -/
def Binary.round (x : Binary) : Int :=
  if x.exponent ≥ 0 then x.mantissa * Int.pow 2 x.exponent.toNat
  else
    let q := roundQuotient x.mantissa.natAbs (Nat.pow 2 (-x.exponent).toNat)
    if x.mantissa < 0 then -(q : Int) else q

/-- Two values with the same exponent. -/
def align (x y : Binary) : Int × Int × Int :=
  let e := min x.exponent y.exponent
  (x.mantissa * Int.pow 2 (x.exponent - e).toNat, y.mantissa * Int.pow 2 (y.exponent - e).toNat, e)

/-- The order of two exact values. -/
def compareExact (x y : Binary) : Ordering :=
  let (a, b, _) := align x y
  compare a b

/-- An integer as an exact value. -/
def Binary.ofInt (n : Int) : Binary :=
  ⟨n, 0⟩

/-- The remainder of the division that rounds towards the floor; it has the sign of the divisor. -/
def floorRemainder (x y : Binary) : Binary :=
  let (a, b, e) := align x y
  ⟨Int.fmod a b, e⟩

/-- The quotient of the division that rounds towards the floor. -/
def floorQuotient (x y : Binary) : Int :=
  let (a, b, _) := align x y
  Int.fdiv a b

end Stencil.Decimal
