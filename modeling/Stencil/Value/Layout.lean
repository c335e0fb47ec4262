import Stencil.Calendar.Pattern
import Stencil.Value.Conversion

namespace Stencil.Value

/-!
# Layouts of values in fields

A layout says how a value is put into a field: fill character, alignment, sign, width, grouping of digits,
precision and type, as in `*^+12,.3f`.

* `Layout` — the parts of a layout;
* `Layout.read` — reading one;
* `laidOut` — a value in a layout; every kind of value has rules of its own.
-/

/-- How digits are grouped. -/
inductive Grouping where
  | nothing
  | commas
  | underscores
  deriving Repr, BEq, DecidableEq, Inhabited

/-- The parts of a layout. -/
structure Layout where
  fill : Option Char := .none
  align : Option Char := .none
  sign : Option Char := .none
  /-- the negative zero counts as the positive one -/
  noNegativeZero : Bool := false
  alternate : Bool := false
  /-- a zero stands before the width -/
  zero : Bool := false
  width : Option Nat := .none
  grouping : Grouping := .nothing
  precision : Option Nat := .none
  letter : Option Char := .none

/-- The failure of a layout that is malformed or does not fit a value. -/
def badLayout {α : Type} : Except Fault α :=
  .error (.foreign .wrongValue)

/-! ### Reading -/

/-- Whether a character says how a field is aligned. -/
def isAlignment (c : Char) : Bool :=
  c = '<' || c = '>' || c = '^' || c = '='

/-- A number at the start of a text, if there is one. -/
def leadingNumber (s : List Char) : Except Fault (Option Nat × List Char) :=
  let ds := s.takeWhile Text.isDecimal
  if ds.isEmpty then .ok (.none, s)
  else
    let n := Decimal.ofDigits 10 (ds.map Text.decimalValue)
    if n < Nat.pow 2 63 then .ok (some n, s.drop ds.length) else badLayout

/-- Skip a character if it is the next. -/
def skipChar (c : Char) : List Char → Bool × List Char
  | [] => (false, [])
  | d :: rest => if c = d then (true, rest) else (false, d :: rest)

/-- The fill character and the alignment. -/
def readAlignment : List Char → Option Char × Option Char × List Char
  | f :: a :: rest =>
    if isAlignment a then (some f, some a, rest)
    else if isAlignment f then (.none, some f, a :: rest)
    else (.none, .none, f :: a :: rest)
  | [a] => if isAlignment a then (.none, some a, []) else (.none, .none, [a])
  | [] => (.none, .none, [])

/-- The grouping of digits, of which there is at most one. -/
def readGrouping (s : List Char) : Except Fault (Grouping × List Char) :=
  match s with
  | ',' :: '_' :: _ => badLayout
  | '_' :: ',' :: _ => badLayout
  | ',' :: rest => .ok (.commas, rest)
  | '_' :: rest => .ok (.underscores, rest)
  | s => .ok (.nothing, s)

/-- Whether digits can be grouped for a type. -/
def allowsGrouping (g : Grouping) (letter : Option Char) : Bool :=
  match g, letter with
  | .nothing, _ => true
  | _, .none => true
  | .underscores, some c => "defgEG%FboxX".toList.contains c
  | .commas, some c => "defgEG%F".toList.contains c

/-- Read a layout. -/
def Layout.read (s : List Char) : Except Fault Layout := do
  let (fill, align, s) := readAlignment s
  let (sign, s) := match s with
    | c :: rest => if c = '+' || c = '-' || c = ' ' then (some c, rest) else (.none, c :: rest)
    | [] => (.none, [])
  let (noNegativeZero, s) := skipChar 'z' s
  let (alternate, s) := skipChar '#' s
  let (zero, s) := if fill.isNone then skipChar '0' s else (false, s)
  let (width, s) ← leadingNumber s
  let (grouping, s) ← readGrouping s
  let (precision, s) ← match s with
    | '.' :: rest => do
      let (p, rest) ← leadingNumber rest
      if p.isNone then badLayout
      pure (p, rest)
    | s => pure (Option.none, s)
  let letter ← match s with
    | [] => pure Option.none
    | [c] => pure (some c)
    | _ => badLayout
  if !allowsGrouping grouping letter then badLayout
  let _ ← checkedWidth (width.getD 0)
  let _ ← checkedWidth (precision.getD 0)
  return { fill, align, sign, noNegativeZero, alternate, zero, width, grouping, precision, letter }

/-! ### Texts and numbers in fields -/

/-- A text in its field. -/
def Layout.text (l : Layout) (s : List Char) : Except Fault (List Char) :=
  if l.sign.isSome || l.noNegativeZero || l.alternate || l.align == some '=' || l.letter.getD 's' != 's' then
    badLayout
  else
    let s := match l.precision with
      | some p => s.take p
      | .none => s
    let room := l.width.getD 0 - s.length
    let fill := l.fill.getD (if l.zero then '0' else ' ')
    let left := match l.align.getD '<' with
      | '>' => room
      | '^' => room / 2
      | _ => 0
    .ok (List.replicate left fill ++ s ++ List.replicate (room - left) fill)

/-- Digits in groups of a size from the right, with zeros before them up to a least width. The widths are
counted down: what is left of the digits and of the width goes into the groups further left. -/
def grouped (size : Nat) (separator : Char) : Nat → List Char → Int → List Char
  | 0, digits, _ => digits.reverse
  | fuel + 1, digits, width =>
    let n := min size (max (max digits.length width.toNat) 1)
    let group := (digits.take n ++ List.replicate (n - digits.length) '0').reverse
    let rest := digits.drop n
    if rest.isEmpty && width - n ≤ 0 then group
    else grouped size separator fuel rest (width - n - 1) ++ separator :: group

/-- The parts of a number that is put into a field. -/
structure NumberParts where
  negative : Bool
  start : List Char := []
  digits : List Char
  rest : List Char := []

/-- A number in its field. -/
def Layout.number (l : Layout) (n : NumberParts) : List Char :=
  let fill := l.fill.getD (if l.zero then '0' else ' ')
  let align := l.align.getD (if l.zero then '=' else '>')
  let sign := if n.negative then ['-'] else
    match l.sign with
    | some '+' => ['+']
    | some ' ' => [' ']
    | _ => []
  let other := sign.length + n.start.length + n.rest.length
  let width : Int := l.width.getD 0
  -- Zeros that fill the field count as digits and are grouped with them.
  let least : Int := if fill = '0' && align = '=' then width - other else 0
  let size := match l.letter with
    | some 'b' | some 'o' | some 'x' | some 'X' => 4
    | _ => 3
  let digits :=
    if n.digits.isEmpty then []
    else match l.grouping with
      | .nothing => padded false '0' least.toNat n.digits
      | .commas => grouped size ',' (n.digits.length + least.toNat + 1) n.digits.reverse least
      | .underscores => grouped size '_' (n.digits.length + least.toNat + 1) n.digits.reverse least
  let room := (width - (other + digits.length : Nat)).toNat
  let pad (k : Nat) : List Char := List.replicate k fill
  let body := digits ++ n.rest
  match align with
  | '<' => sign ++ n.start ++ body ++ pad room
  | '^' => pad (room / 2) ++ sign ++ n.start ++ body ++ pad (room - room / 2)
  | '=' => sign ++ n.start ++ pad room ++ body
  | _ => pad room ++ sign ++ n.start ++ body

/-- A fraction in its field. -/
def Layout.float (l : Layout) (x : Float) : Except Fault (List Char) := do
  let style ← match l.letter with
    | some 'f' | some 'F' | some '%' => pure { form := .fixed : Decimal.Style }
    | some 'e' | some 'E' => pure { form := .scientific : Decimal.Style }
    | some 'g' | some 'G' | some 'n' => pure { form := .general : Decimal.Style }
    | .none =>
      pure { form := if l.precision.isSome then .general else .shortest, keepsFraction := true : Decimal.Style }
    | _ => badLayout
  let style := { style with precision := l.precision.getD 6, keepsPoint := l.alternate }
  let s := Decimal.styled style (if l.letter == some '%' then x * 100 else x)
  let s := if l.noNegativeZero && s.all fun c => !('1' ≤ c && c ≤ '9') && !c.isAlpha then
      s.dropWhile (· == '-')
    else s
  let s := match l.letter with
    | some 'F' | some 'E' | some 'G' => s.map Char.toUpper
    | some '%' => s ++ ['%']
    | _ => s
  let (negative, s) := match s with
    | '-' :: s => (true, s)
    | s => (false, s)
  let digits := s.takeWhile Char.isDigit
  return l.number { negative, digits, rest := s.drop digits.length }

/-- A whole number in its field. -/
def Layout.integer (l : Layout) (n : Int) : Except Fault (List Char) :=
  let inBase (base : Nat) (start : String) : Except Fault (List Char) :=
    if l.precision.isSome || l.noNegativeZero then badLayout
    else
      let parts : NumberParts :=
        { negative := n < 0, start := if l.alternate then start.toList else []
          digits := Nat.toDigits base n.natAbs }
      let upper (s : List Char) : List Char := if l.letter == some 'X' then s.map Char.toUpper else s
      .ok (l.number { parts with start := upper parts.start, digits := upper parts.digits })
  match l.letter with
  | .none | some 'd' | some 'n' => do
    let _ ← writable n
    inBase 10 ""
  | some 'b' => inBase 2 "0b"
  | some 'o' => inBase 8 "0o"
  | some 'x' => inBase 16 "0x"
  | some 'X' => inBase 16 "0x"
  | some 'c' =>
    if l.sign.isSome || l.alternate || l.precision.isSome || l.noNegativeZero then badLayout
    else if 0 ≤ n && n < 0x110000 then
      .ok (l.number { negative := false, digits := [], rest := [Char.ofNat n.toNat] })
    else .error (.foreign .overflow)
  | some c =>
    if "eEfFgG%".toList.contains c then do l.float (← finite (Decimal.ofInt n)) else badLayout

/-! ### Values in fields -/

/-- A value in a layout; an empty layout shows its text. -/
def laidOut (v : Value) (layout : List Char) : Except Fault (List Char) :=
  if layout.isEmpty then v.shown.map String.toList
  else match v with
    | .bool b => do (← Layout.read layout).integer (if b then 1 else 0)
    | .int n => do (← Layout.read layout).integer n
    | .float x => do (← Layout.read layout).float x
    | .str s => do (← Layout.read layout).text s.toList
    | .markup s => do (← Layout.read layout).text s.toList
    | .side s => do (← Layout.read layout).text (sideText s).toList
    | .kind k => do (← Layout.read layout).text (kindText k).toList
    | .date d => .ok (DatePattern.fill { date := d } layout)
    | .datetime t => .ok (DatePattern.fill t layout)
    | _ => wrongType

end Stencil.Value
