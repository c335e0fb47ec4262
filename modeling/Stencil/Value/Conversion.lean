import Stencil.Decimal.Notation
import Stencil.Value.Item

namespace Stencil.Value

/-!
# Conversions after a percent sign

A text in which conversions such as `%5.2f` stand for values. The values are taken one after the other from
a tuple, or by key from a mapping.

* `Conversion` — flags, width, precision and letter of a conversion;
* `Conversion.apply` — a value as a conversion shows it;
* `formatPercent` — a text with its conversions replaced;
* `mod` — the remainder of numbers, or a text with conversions.
-/

/-- Pad a text to a width. -/
def padded (left : Bool) (fill : Char) (width : Nat) (s : List Char) : List Char :=
  let pad := List.replicate (width - s.length) fill
  if left then s ++ pad else pad ++ s

/-- A width that a text can have. -/
def checkedWidth (width : Nat) : Except Fault Nat :=
  if width < maxLength then .ok width else .error (.foreign .overflow)

/-- The quoted form of a value without characters beyond the basic ones. -/
def asciiQuoted (v : Value) : Except Fault String := do
  let s ← v.shownQuoted
  return .ofList (s.toList.flatMap fun c =>
    let n := c.toNat
    if n < 0x80 then [c]
    else if n < 0x100 then '\\' :: 'x' :: Text.hexDigits 2 n
    else if n < 0x10000 then '\\' :: 'u' :: Text.hexDigits 4 n
    else '\\' :: 'U' :: Text.hexDigits 8 n)

/-! ### One conversion -/

/-- A conversion: flags, width, precision and letter. -/
structure Conversion where
  left : Bool := false
  zero : Bool := false
  signed : Bool := false
  spaced : Bool := false
  alternate : Bool := false
  width : Nat := 0
  precision : Option Nat := .none
  letter : Char := 's'

/-- The sign before a number. -/
def Conversion.signOf (c : Conversion) (negative : Bool) : List Char :=
  if negative then ['-'] else if c.signed then ['+'] else if c.spaced then [' '] else []

/-- A number with its sign, padded to the width with zeros or blanks. -/
def Conversion.number (c : Conversion) (negative : Bool) (start digits : List Char) : List Char :=
  let sign := c.signOf negative ++ start
  if c.zero && !c.left then sign ++ padded false '0' (c.width - sign.length) digits
  else padded c.left ' ' c.width (sign ++ digits)

/-- A whole number in a base. -/
def Conversion.integer (c : Conversion) (base : Nat) (start : String) (n : Int) : List Char :=
  let digits := padded false '0' (c.precision.getD 0) (Nat.toDigits base n.natAbs)
  c.number (n < 0) (if c.alternate then start.toList else []) digits

/-- A fraction in a form. -/
def Conversion.fraction (c : Conversion) (form : Decimal.Form) (x : Float) : List Char :=
  match Decimal.styled { form, precision := c.precision.getD 6, keepsPoint := c.alternate } x with
  | '-' :: digits => c.number true [] digits
  | digits => c.number false [] digits

/-- A fraction with its digits cut off. -/
def truncateFloat (x : Float) : Except Fault Int :=
  match Decimal.Binary.ofFloat? x with
  | some b => .ok b.truncate
  | .none => .error (.foreign (if x.isNaN then .wrongValue else .overflow))

/-- A number as a whole number, fractions being cut off. -/
def truncated (v : Value) : Except Fault Int :=
  match v.num? with
  | some (.int n) => .ok n
  | some (.float x) => truncateFloat x
  | .none => wrongType

/-- A number as a fraction. -/
def fractionOf (v : Value) : Except Fault Float :=
  match v.num? with
  | some n => n.toFloat
  | .none => wrongType

/-- A value that a conversion reads as a number: inside markup, a text may be one, too. -/
def readNumber (inMarkup : Bool) (v : Value) (whole : Bool) : Except Fault Value :=
  match inMarkup, v.asText? with
  | true, some s =>
    let read := if whole then (Decimal.readBounded? s.toList).map Value.int
      else (Decimal.readFloat? s.toList).map Value.float
    match read with
    | some n => .ok n
    | .none => .error (.foreign .wrongValue)
  | _, _ => .ok v

/-- A number that can be written in decimal digits. -/
def writable (n : Int) : Except Fault Int :=
  if n.natAbs < longNumber then .ok n else .error (.foreign .wrongValue)

/-- The text of a value in a conversion; inside markup it is escaped unless it counts as escaped. -/
def Conversion.shown (c : Conversion) (inMarkup : Bool) (v : Value) : Except Fault String := do
  let escaped (s : String) : String := if inMarkup then escapeMarkup s else s
  match c.letter, v with
  | 's', .markup s => return s
  | 's', v => return escaped (← v.shown)
  | 'r', v => return escaped (← v.shownQuoted)
  | _, v => return escaped (← v.asciiQuoted)

/-- The character that a value stands for. -/
def characterOf (inMarkup : Bool) (v : Value) : Except Fault Char :=
  match v.asText?, v.int? with
  | some s, _ =>
    match s.toList with
    | [c] => if inMarkup then wrongType else .ok c
    | _ => wrongType
  | .none, some n =>
    if inMarkup then wrongType
    else if 0 ≤ n && n < 0x110000 then .ok (Char.ofNat n.toNat)
    else .error (.foreign .overflow)
  | .none, .none => wrongType

/-- A value as a conversion shows it. -/
def Conversion.apply (c : Conversion) (inMarkup : Bool) (v : Value) : Except Fault (List Char) := do
  let _ ← checkedWidth c.width
  let _ ← checkedWidth (c.precision.getD 0)
  let text (s : String) : List Char :=
    let s := s.toList
    padded c.left ' ' c.width (match c.precision with | some p => s.take p | .none => s)
  let upper (s : List Char) : List Char := s.map Char.toUpper
  let whole : Except Fault Int :=
    match v.int? with
    | some n => if inMarkup then wrongType else .ok n
    | .none => wrongType
  let fraction : Except Fault Float := do fractionOf (← readNumber inMarkup v false)
  match c.letter with
  | 's' | 'r' | 'a' => return text (← c.shown inMarkup v)
  | 'd' | 'i' | 'u' => return c.integer 10 "" (← writable (← truncated (← readNumber inMarkup v true)))
  | 'x' => return c.integer 16 "0x" (← whole)
  | 'X' => return upper (c.integer 16 "0x" (← whole))
  | 'o' => return c.integer 8 "0o" (← whole)
  | 'f' => return c.fraction .fixed (← fraction)
  | 'F' => return upper (c.fraction .fixed (← fraction))
  | 'e' => return c.fraction .scientific (← fraction)
  | 'E' => return upper (c.fraction .scientific (← fraction))
  | 'g' => return c.fraction .general (← fraction)
  | 'G' => return upper (c.fraction .general (← fraction))
  | 'c' =>
    let ch ← characterOf inMarkup v
    return text ch.toString
  | _ => throw (.foreign .wrongValue)

/-! ### All conversions of a text -/

/-- The values that conversions take: one after the other, or by key. -/
structure FormatValues where
  rest : List Value
  byKey : Option Value := .none

/-- The next value, and those after it. -/
def FormatValues.next (vs : FormatValues) : Except Fault (Value × FormatValues) :=
  match vs.rest with
  | v :: rest => .ok (v, { vs with rest })
  | [] => wrongType

/-- The flags of a conversion. -/
def readFlags (c : Conversion) : List Char → Conversion × List Char
  | '-' :: s => readFlags { c with left := true } s
  | '+' :: s => readFlags { c with signed := true } s
  | ' ' :: s => readFlags { c with spaced := true } s
  | '#' :: s => readFlags { c with alternate := true } s
  | '0' :: s => readFlags { c with zero := true } s
  | s => (c, s)

/-- A number that is written out, or a value for an asterisk. -/
def readCount (vs : FormatValues) (s : List Char) :
    Except Fault (Int × FormatValues × List Char) :=
  match s with
  | '*' :: rest => do
    let (v, vs) ← vs.next
    match v.int? with
    | some n => return (n, vs, rest)
    | .none => wrongType
  | s =>
    let ds := s.takeWhile Char.isDigit
    .ok (Decimal.ofDigits 10 (ds.filterMap (Decimal.digitValue? 10)), vs, s.drop ds.length)

/-- The text up to the parenthesis that closes one that is open, and what follows it. -/
def untilParenthesis : Nat → List Char → Option (List Char × List Char)
  | _, [] => .none
  | depth, c :: rest =>
    if c = ')' && depth = 0 then some ([], rest)
    else
      let depth := if c = '(' then depth + 1 else if c = ')' then depth - 1 else depth
      (untilParenthesis depth rest).map fun (name, after) => (c :: name, after)

/-- The values of a conversion that names a key. -/
def FormatValues.atKey (vs : FormatValues) (key : List Char) : Except Fault FormatValues :=
  match vs.byKey with
  | .none => wrongType
  | some v =>
    match item? v (.str (.ofList key)) with
    | some v => .ok { vs with rest := [v] }
    | .none => .error (.foreign .missingKey)

/-- One conversion, from what follows the percent sign. -/
def formatOne (inMarkup : Bool) (vs : FormatValues) (s : List Char) :
    Except Fault (List Char × FormatValues × List Char) := do
  let (vs, s) ← match s with
    | '(' :: rest =>
      if vs.byKey.isNone then wrongType
      match untilParenthesis 0 rest with
      | some (key, rest) => pure (← vs.atKey key, rest)
      | .none => throw (.foreign .wrongValue)
    | s => pure (vs, s)
  let (c, s) := readFlags {} s
  let (width, vs, s) ← readCount vs s
  let c := if width < 0 then { c with left := true, width := width.natAbs } else { c with width := width.toNat }
  let (c, vs, s) ← match s with
    | '.' :: rest => do
      let (p, vs, rest) ← readCount vs rest
      pure ({ c with precision := some p.toNat }, vs, rest)
    | s => pure (c, vs, s)
  let s := match s with
    | l :: rest => if l = 'h' || l = 'l' || l = 'L' then rest else l :: rest
    | [] => []
  match s with
  | [] => throw (.foreign .wrongValue)
  | '%' :: rest => return (['%'], vs, rest)
  | letter :: rest =>
    let (v, vs) ← vs.next
    return (← { c with letter }.apply inMarkup v, vs, rest)

/-- A text with its conversions applied; `fuel` bounds their number. All values have to be used unless there is
a mapping. -/
def formatFrom (inMarkup : Bool) : Nat → FormatValues → List Char → Except Fault (List Char)
  | 0, _, s => .ok s
  | fuel + 1, vs, s =>
    let plain := s.takeWhile (· != '%')
    match s.drop plain.length with
    | [] =>
      if vs.rest.isEmpty || vs.byKey.isSome then .ok plain else wrongType
    | _ :: rest => do
      let (converted, vs, rest) ← formatOne inMarkup vs rest
      return plain ++ converted ++ (← formatFrom inMarkup fuel vs rest)

/-- Whether a value has items that conversions can name by key. -/
def hasKeys : Value → Bool
  | .dict _ | .list _ | .range .. | .bytes _ | .undefined => true
  | .object (.blocks _) => true
  | _ => false

/-- A text with conversions for a value, or for the items of a tuple. -/
def formatPercent (inMarkup : Bool) (s : String) (v : Value) : Except Fault String := do
  let vs : FormatValues := match v with
    | .tuple xs => { rest := xs }
    | v => { rest := [v], byKey := if v.hasKeys then some v else .none }
  return .ofList (← formatFrom inMarkup (s.length + 1) vs s.toList)

/-- Remainder of numbers, or a text with conversions. -/
def mod (a b : Value) : Except Fault Value :=
  match a with
  | .str s => (formatPercent false s b).map .str
  | .markup s => (formatPercent true s b).map .markup
  | a =>
    match a.num?, b.num? with
    | some m, some n => modNum m n
    | _, _ => wrongType

end Stencil.Value
