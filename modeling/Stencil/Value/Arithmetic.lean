import Stencil.Decimal.Reader
import Stencil.Fault
import Stencil.Value.Compare

namespace Stencil.Value

/-!
# Arithmetic on values

Truth values count as zero and one. Whole numbers stay exact; a fraction arises from a division, from a
negative power, or from a fraction among the operands, a complex number from a fractional power of a negative
one. Texts, lists and tuples can be put together and repeated, sets taken from each other, points in time
moved and their distances taken.

* `add`, `sub`, `mul`, `div`, `floorDiv`, `pow`, `negate`, `plus` — the operations;
* `ordered` — the comparisons that need an order;
* `sortBy` — sorting by keys that have an order.
-/

/-- The failure of an operation on values of the wrong kinds. -/
def wrongType {α : Type} : Except Fault α :=
  .error (.foreign .wrongType)

/-- A whole number or a fraction. -/
inductive Num where
  | int (n : Int)
  | float (x : Float)

/-- The number that a value is. -/
def num? : Value → Option Num
  | .bool b => some (.int (if b then 1 else 0))
  | .int n => some (.int n)
  | .float x => some (.float x)
  | _ => .none

/-- The whole number that a value is. -/
def int? : Value → Option Int
  | .bool b => some (if b then 1 else 0)
  | .int n => some n
  | _ => .none

/-- A result that is too large to be a fraction is a failure. -/
def finite (x : Float) : Except Fault Float :=
  if x.isInf then .error (.foreign .overflow) else .ok x

/-- A number as a fraction. -/
def Num.toFloat : Num → Except Fault Float
  | .int n => finite (Decimal.ofInt n)
  | .float x => .ok x

/-- Apply an operation on whole numbers or one on fractions. -/
def arithmetic (ints : Int → Int → Except Fault Value) (floats : Float → Float → Except Fault Value)
    (a b : Num) : Except Fault Value :=
  match a, b with
  | .int m, .int n => ints m n
  | a, b => do
    let x ← a.toFloat
    let y ← b.toFloat
    floats x y

/-- A text with the characters that markup uses replaced. -/
def escapeMarkup (s : String) : String :=
  .ofList (s.toList.flatMap fun c =>
    match c with
    | '&' => "&amp;".toList
    | '<' => "&lt;".toList
    | '>' => "&gt;".toList
    | '\x27' => "&#39;".toList
    | '"' => "&#34;".toList
    | c => [c])

/-! ### Complex numbers -/

/-- The parts of a complex number; a number of another kind has no imaginary part. -/
def complexParts? : Value → Except Fault (Option (Float × Float))
  | .complex re im => .ok (some (re, im))
  | v =>
    match v.num? with
    | some n => n.toFloat.map fun x => some (x, 0)
    | .none => .ok .none

/-- Whether a value is a complex number. -/
def isComplex : Value → Bool
  | .complex _ _ => true
  | _ => false

/-- An operation on complex numbers, of which at least one operand is one. -/
def complexArithmetic (f : Float × Float → Float × Float → Except Fault (Float × Float)) (a b : Value) :
    Except Fault Value := do
  match ← complexParts? a, ← complexParts? b with
  | some x, some y => return .complex (← f x y).1 (← f x y).2
  | _, _ => wrongType

/-- A power of a negative number with a fraction as its exponent. -/
def complexPower (x y : Float) : Value :=
  let length := x.abs.pow y
  let angle := Float.atan2 0 x * y
  .complex (length * angle.cos) (length * angle.sin)

/-! ### Points in time -/

/-- The number of microseconds of a day. -/
def dayLength : Int := 86400000000

/-- A day moved by a length of time, of which only whole days count. -/
def moveDate (d : Date) (microseconds : Int) : Except Fault Value :=
  let n := (d.ordinal : Int) + microseconds.fdiv dayLength
  if 1 ≤ n && n ≤ 3652059 then .ok (.date (Date.ofOrdinal n.toNat)) else .error (.foreign .overflow)

/-- A point in time moved by a length of time. -/
def moveDateTime (t : DateTime) (microseconds : Int) : Except Fault Value :=
  let total := t.seconds * 1000000 + t.microsecond + microseconds
  let seconds := total.fdiv 1000000
  if 86400 ≤ seconds && seconds < 3652060 * 86400 then
    .ok (.datetime (DateTime.ofSeconds seconds (total.fmod 1000000).toNat t.offset))
  else .error (.foreign .overflow)

/-- The length of time between two points in time, which both know their offset or both do not. -/
def timeBetween (a b : DateTime) : Except Fault Value :=
  let micros (t : DateTime) : Int := t.seconds * 1000000 + t.microsecond
  match a.offset, b.offset with
  | some x, some y => .ok (.duration (micros a - micros b - (x - y) * 1000000))
  | .none, .none => .ok (.duration (micros a - micros b))
  | _, _ => wrongType

/-! ### Sums and differences -/

/-- Sum of numbers, or two texts, lists or tuples put together. Text that counts as escaped stays so. -/
def add (a b : Value) : Except Fault Value :=
  match a, b with
  | .str s, .str t => .ok (.str (s ++ t))
  | .markup s, .markup t => .ok (.markup (s ++ t))
  | .markup s, .str t => .ok (.markup (s ++ escapeMarkup t))
  | .str s, .markup t => .ok (.markup (escapeMarkup s ++ t))
  | .list xs, .list ys => .ok (.list (xs ++ ys))
  | .tuple xs, .tuple ys => .ok (.tuple (xs ++ ys))
  | .bytes s, .bytes t => .ok (.bytes (s ++ t))
  | .date d, .duration n => moveDate d n
  | .duration n, .date d => moveDate d n
  | .datetime t, .duration n => moveDateTime t n
  | .duration n, .datetime t => moveDateTime t n
  | .duration m, .duration n => .ok (.duration (m + n))
  | a, b =>
    match a.num?, b.num? with
    | some m, some n =>
      arithmetic (fun m n => .ok (.int (m + n))) (fun x y => .ok (.float (x + y))) m n
    | _, _ =>
      if isComplex a || isComplex b then
        complexArithmetic (fun x y => .ok (x.1 + y.1, x.2 + y.2)) a b
      else wrongType

/-- The items that a set or the keys or entries of a mapping have, as a set has them. -/
def setItems? : Value → Option (List Value)
  | .set xs => some xs
  | .view .keys (.dict es) => some (es.map (·.1))
  | .view .items (.dict es) => some (es.map fun (k, v) => .tuple [k, v])
  | _ => .none

/-- The items that may be taken from those of a value: of a set only another set, of the keys or entries of a
mapping the items of any collection. -/
def takenItems? (owner taken : Value) : Option (List Value) :=
  match owner with
  | .set _ => setItems? taken
  | _ => taken.items?

/-- Difference of numbers, of sets, or of points in time. -/
def sub (a b : Value) : Except Fault Value :=
  match a, b with
  | .date d, .date e => .ok (.duration (((d.ordinal : Int) - e.ordinal) * dayLength))
  | .date d, .duration n => moveDate d (-n)
  | .datetime t, .datetime u => timeBetween t u
  | .datetime t, .duration n => moveDateTime t (-n)
  | .duration m, .duration n => .ok (.duration (m - n))
  | a, b =>
    match a.num?, b.num? with
    | some m, some n =>
      arithmetic (fun m n => .ok (.int (m - n))) (fun x y => .ok (.float (x - y))) m n
    | _, _ =>
      if isComplex a || isComplex b then
        complexArithmetic (fun x y => .ok (x.1 - y.1, x.2 - y.2)) a b
      else
        match setItems? a, takenItems? a b with
        | some xs, some ys =>
          if ys.all isHashable then .ok (.set (xs.filter fun x => !ys.any (same x))) else wrongType
        | _, _ => wrongType

/-! ### Products and quotients -/

/-- A list repeated; not at all for a negative number. -/
def repeated {α : Type} (xs : List α) (n : Int) : List α :=
  (List.replicate n.toNat xs).flatten

/-- The number of items that no sequence reaches. -/
def maxLength : Nat :=
  Nat.pow 2 32

/-- A list repeated, where a result of `maxLength` items or more, or a number of repetitions outside the
64 bits of a position, is a failure. -/
def repeatedWithin {α : Type} (xs : List α) (n : Int) : Except Fault (List α) :=
  if Int.pow 2 63 ≤ n || n < -Int.pow 2 63 || maxLength ≤ xs.length * n.toNat then .error (.foreign .overflow)
  else .ok (if xs.isEmpty then [] else repeated xs n)

/-- A text, list or tuple repeated. -/
def repeatValue (v : Value) (n : Int) : Except Fault Value :=
  match v with
  | .str s => return .str (.ofList (← repeatedWithin s.toList n))
  | .markup s => return .markup (.ofList (← repeatedWithin s.toList n))
  | .list xs => return .list (← repeatedWithin xs n)
  | .tuple xs => return .tuple (← repeatedWithin xs n)
  | .bytes b => return .bytes (← repeatedWithin b n)
  | .duration m => return .duration (m * n)
  | _ => wrongType

/-- Product, or a repetition. -/
def mul (a b : Value) : Except Fault Value :=
  match a.num?, b.num? with
  | some m, some n =>
    arithmetic (fun m n => .ok (.int (m * n))) (fun x y => .ok (.float (x * y))) m n
  | _, _ =>
    if isComplex a || isComplex b then
      complexArithmetic (fun x y => .ok (x.1 * y.1 - x.2 * y.2, x.1 * y.2 + x.2 * y.1)) a b
    else
      match a.int?, b.int? with
      | some n, .none => repeatValue b n
      | .none, some n => repeatValue a n
      | _, _ => wrongType

/-- The failure of a division by zero. -/
def zeroDivision {α : Type} : Except Fault α :=
  .error (.foreign .zeroDivision)

/-- Quotient of complex numbers, by the part of the divisor that is larger. -/
def complexQuotient (x y : Float × Float) : Except Fault (Float × Float) :=
  if y.1.abs ≥ y.2.abs then
    if y.1 == 0 then zeroDivision
    else
      let ratio := y.2 / y.1
      let denominator := y.1 + y.2 * ratio
      .ok ((x.1 + x.2 * ratio) / denominator, (x.2 - x.1 * ratio) / denominator)
  else
    let ratio := y.1 / y.2
    let denominator := y.1 * ratio + y.2
    .ok ((x.1 * ratio + x.2) / denominator, (x.2 * ratio - x.1) / denominator)

/-- Quotient of numbers as a fraction. -/
def divNumbers (a b : Value) : Except Fault Value :=
  match a.num?, b.num? with
  | some m, some n =>
    arithmetic
      (fun m n =>
        if n = 0 then zeroDivision
        else (finite (Decimal.nearest ((m < 0) != (n < 0)) m.natAbs n.natAbs)).map .float)
      (fun x y => if y == 0 then zeroDivision else .ok (.float (x / y))) m n
  | _, _ => if isComplex a || isComplex b then complexArithmetic complexQuotient a b else wrongType

/-- Quotient of numbers, or a path below another. -/
def div (a b : Value) : Except Fault Value :=
  match a, b with
  | .path p, .path q => .ok (.path (p / q))
  | .path p, .str s => .ok (.path (p / Path.ofString s))
  | .path p, .markup s => .ok (.path (p / Path.ofString s))
  | .str s, .path q => .ok (.path (Path.ofString s / q))
  | .markup s, .path q => .ok (.path (Path.ofString s / q))
  | a, b => divNumbers a b

/-- Zero with the sign of a number. -/
def zeroLike (x : Float) : Float :=
  if Decimal.isNegative x then -0.0 else 0.0

/-- Remainder of the quotient cut off towards zero, with the sign of the dividend. -/
def remainder (x y : Float) : Float :=
  match Decimal.Binary.ofFloat? x, Decimal.Binary.ofFloat? y with
  | some a, some b =>
    let (m, n, e) := Decimal.align a b
    let r := (⟨m.tmod n, e⟩ : Decimal.Binary).toFloat
    if r == 0 then zeroLike x else r
  | some _, .none => if y.isNaN then y else x
  | _, _ => Decimal.notANumber

/-- Remainder that goes with the floor of the quotient, with the sign of the divisor. -/
def modFloat (x y : Float) : Float :=
  let r := remainder x y
  if r == 0 then zeroLike y else if (y < 0) != (r < 0) then r + y else r

/-- Floor of the quotient of two fractions: what is left after the remainder divides evenly, up to rounding. -/
def floorDivFloat (x y : Float) : Float :=
  let r := remainder x y
  let q := (x - r) / y
  let q := if r != 0 && (y < 0) != (r < 0) then q - 1 else q
  if q == 0 then zeroLike (x / y)
  else
    let whole := q.floor
    if q - whole > 0.5 then whole + 1 else whole

/-- Floor of the quotient. -/
def floorDiv (a b : Value) : Except Fault Value :=
  match a.num?, b.num? with
  | some m, some n =>
    arithmetic
      (fun m n => if n = 0 then zeroDivision else .ok (.int (m.fdiv n)))
      (fun x y => if y == 0 then zeroDivision else .ok (.float (floorDivFloat x y))) m n
  | _, _ => wrongType

/-- Remainder, with the sign of the divisor. -/
def modNum (m n : Num) : Except Fault Value :=
  arithmetic
    (fun m n => if n = 0 then zeroDivision else .ok (.int (m.fmod n)))
    (fun x y => if y == 0 then zeroDivision else .ok (.float (modFloat x y))) m n

/-- Power of fractions. -/
def powFloat (x y : Float) : Except Fault Value :=
  if x == 0 && y < 0 && y.isFinite then zeroDivision
  else if x < 0 && x.isFinite && y.isFinite && y != y.floor then .ok (complexPower x y)
  else
    let z := x.pow y
    if z.isInf && x.isFinite && y.isFinite then .error (.foreign .overflow) else .ok (.float z)

/-- Power. -/
def pow (a b : Value) : Except Fault Value :=
  match a.num?, b.num? with
  | some m, some n =>
    arithmetic
      (fun m n =>
        if n < 0 then do
          let x ← finite (Decimal.ofInt m)
          let y ← finite (Decimal.ofInt n)
          powFloat x y
        else if m.natAbs > 1 && n > maxLength then .error (.foreign .overflow)
        else .ok (.int (Int.pow m n.toNat)))
      powFloat m n
  | _, _ => wrongType

/-- The number with the other sign. -/
def negate (a : Value) : Except Fault Value :=
  match a.num? with
  | some (.int n) => .ok (.int (-n))
  | some (.float x) => .ok (.float (-x))
  | .none =>
    match a with
    | .complex re im => .ok (.complex (-re) (-im))
    | .duration n => .ok (.duration (-n))
    | _ => wrongType

/-- The number itself. -/
def plus (a : Value) : Except Fault Value :=
  match a.num? with
  | some (.int n) => .ok (.int n)
  | some (.float x) => .ok (.float x)
  | .none =>
    match a with
    | .complex re im => .ok (.complex re im)
    | .duration n => .ok (.duration n)
    | _ => wrongType

/-! ### Order -/

/-- The order of sets by inclusion, where one of them includes the other. -/
def inclusion? (xs ys : List Value) : Option Ordering :=
  let below := eachIn xs ys
  let above := eachIn ys xs
  if below && above then some .eq else if below then some .lt else if above then some .gt else .none

/-- Whether two values stand in an order. Numbers and sets without an order do not; other values must have
one. -/
def ordered (holds : Ordering → Bool) (a b : Value) : Except Fault Bool :=
  match compare? a b with
  | some o => .ok (holds o)
  | .none =>
    match setItems? a, setItems? b with
    | some xs, some ys => .ok ((inclusion? xs ys).elim false holds)
    | _, _ =>
      match a.num?, b.num? with
      | some _, some _ => .ok false
      | _, _ => wrongType

/-- Values sorted by a key, equal ones in their order; all keys must have an order. -/
def sortBy {α : Type} (key : α → Value) (descending : Bool) (xs : List α) : Except Fault (List α) := do
  -- Insertion from the right keeps equal items in order.
  let before (x y : α) : Except Fault Bool :=
    if descending then ordered (· != .lt) (key x) (key y) else ordered (· != .gt) (key x) (key y)
  let rec insert (x : α) : List α → Except Fault (List α)
    | [] => .ok [x]
    | y :: ys => do
      if ← before x y then return x :: y :: ys
      return y :: (← insert x ys)
  xs.foldrM (fun x sorted => insert x sorted) []

end Stencil.Value
