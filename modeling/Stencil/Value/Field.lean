import Stencil.Value.Attribute
import Stencil.Value.Layout

namespace Stencil.Value

/-!
# Fields between braces

A text in which fields between braces stand for values: `{}` for the next one, `{0}` for one by its number,
`{name.part[key]!r:>8}` for a part of a named one in a layout.

* `Field` — a field: its name, conversion and layout;
* `Field.value` — the value that a field stands for;
* `formatBraces` — a text with its fields filled in.
-/

/-- A field as it is written. -/
structure Field where
  name : List Char
  conversion : Option Char
  layout : List Char

/-- How the fields of a text find their values: none has been read, they are taken in order, or by
number. -/
inductive Numbering where
  | unknown
  | inOrder (next : Nat)
  | byNumber
  deriving Repr, BEq, DecidableEq, Inhabited

/-- The values that fields stand for. -/
structure FieldValues where
  args : List Value
  named : List (String × Value)
  /-- fields with numbers are allowed -/
  hasPositions : Bool := true
  /-- texts are escaped -/
  inMarkup : Bool := false

/-! ### Reading fields -/

/-- The name at the start of a field: it ends at a colon, an exclamation mark or a brace outside of brackets. The
result has the character that ends it. The flag says whether a bracket is open. -/
def fieldName : Bool → List Char → Option (List Char × Char × List Char)
  | _, [] => .none
  | inBrackets, c :: rest =>
    if !inBrackets && c = '{' then .none
    else if !inBrackets && (c = '}' || c = ':' || c = '!') then some ([], c, rest)
    else
      let isOpen := if inBrackets then c != ']' else c = '['
      (fieldName isOpen rest).map fun (name, mark, rest) => (c :: name, mark, rest)

/-- The text up to the brace that closes a field, braces inside being balanced. -/
def untilBrace : Nat → List Char → Option (List Char × List Char)
  | _, [] => .none
  | depth, c :: rest =>
    if c = '}' && depth = 0 then some ([], rest)
    else
      let depth := if c = '{' then depth + 1 else if c = '}' then depth - 1 else depth
      (untilBrace depth rest).map fun (s, after) => (c :: s, after)

/-- Read a field after its opening brace; `none` if it is malformed. -/
def Field.read? (s : List Char) : Option (Field × List Char) := do
  let (name, mark, rest) ← fieldName false s
  if mark = '}' then return (⟨name, .none, []⟩, rest)
  else if mark = ':' then
    let (layout, rest) ← untilBrace 0 rest
    return (⟨name, .none, layout⟩, rest)
  else
    match rest with
    | [] => .none
    | c :: '}' :: rest => return (⟨name, some c, []⟩, rest)
    | c :: ':' :: rest =>
      let (layout, rest) ← untilBrace 0 rest
      return (⟨name, some c, layout⟩, rest)
    | _ => .none

/-! ### Values of fields -/

/-- A number that is written with digits only. -/
def fieldNumber? (s : List Char) : Except Fault (Option Nat) :=
  if !s.isEmpty && s.all Text.isDecimal then
    let n := Decimal.ofDigits 10 (s.map Text.decimalValue)
    if n < Nat.pow 2 63 then .ok (some n) else badLayout
  else .ok .none

/-- An item that must exist. -/
def itemOrFail (v key : Value) : Except Fault Value :=
  match item? v key with
  | some x => .ok x
  | .none => .error (.foreign .missingKey)

/-- Follow the attributes and items that are written after the first name of a field; `fuel` bounds their
number. -/
def followParts : Nat → Value → List Char → Except Fault Value
  | 0, v, _ => .ok v
  | _, v, [] => .ok v
  | fuel + 1, v, '.' :: rest => do
    let name := rest.takeWhile fun c => c != '.' && c != '['
    if name.isEmpty then badLayout
    match v.attribute? (.ofList name) with
    | some x => followParts fuel x (rest.drop name.length)
    | .none => throw (.foreign .missingAttribute)
  | fuel + 1, v, '[' :: rest => do
    let key := rest.takeWhile (· != ']')
    let after := rest.drop key.length
    if after.isEmpty || key.isEmpty then badLayout
    let x ← match ← fieldNumber? key with
      | some n => itemOrFail v (.int n)
      | .none => itemOrFail v (.str (.ofList key))
    followParts fuel x after.tail
  | _, _, _ => badLayout

/-- A value by its position. -/
def FieldValues.at_ (vs : FieldValues) (i : Nat) : Except Fault Value :=
  if !vs.hasPositions then badLayout
  else match vs.args[i]? with
    | some v => .ok v
    | .none => .error (.foreign .outOfRange)

/-- The value that a field stands for, and how fields find their values from here on. Fields in order and by
number do not mix. -/
def Field.value (f : Field) (vs : FieldValues) (n : Numbering) : Except Fault (Value × Numbering) := do
  let first := f.name.takeWhile fun c => c != '.' && c != '['
  let rest := f.name.drop first.length
  let (v, n) ← match ← fieldNumber? first, first.isEmpty, n with
    | .none, true, .unknown => pure (← vs.at_ 0, Numbering.inOrder 1)
    | .none, true, .inOrder i => pure (← vs.at_ i, Numbering.inOrder (i + 1))
    | .none, true, .byNumber => badLayout
    | some _, _, .inOrder _ => badLayout
    | some i, _, _ => pure (← vs.at_ i, Numbering.byNumber)
    | .none, false, n =>
      match vs.named.lookup (.ofList first) with
      | some v => pure (v, n)
      | .none => throw (.foreign .missingKey)
  return (← followParts (rest.length + 1) v rest, n)

/-- A value after the conversion of a field. -/
def convert (conversion : Option Char) (v : Value) : Except Fault Value :=
  match conversion with
  | .none => .ok v
  | some 'r' => v.shownQuoted.map .str
  | some 's' => v.shown.map .str
  | some 'a' => v.asciiQuoted.map .str
  | some _ => badLayout

/-- A value in the layout of a field, escaped where texts are. -/
def FieldValues.show (vs : FieldValues) (v : Value) (layout : List Char) : Except Fault (List Char) :=
  match vs.inMarkup, v with
  | true, .markup s => if layout.isEmpty then .ok s.toList else badLayout
  | true, v => (laidOut v layout).map fun s => (escapeMarkup (.ofList s)).toList
  | false, v => laidOut v layout

/-! ### Texts with fields -/

/-- A text with its fields filled in. `depth` says how deep fields may stand inside the layouts of others, and
`fuel` bounds the length. -/
def fillFields (vs : FieldValues) : Nat → Nat → Numbering → List Char →
    Except Fault (List Char × Numbering)
  | 0, _, _, _ => badLayout
  | _, 0, n, s => .ok (s, n)
  | _, _, n, [] => .ok ([], n)
  | depth + 1, fuel + 1, n, '{' :: rest => do
    match rest with
    | [] => badLayout
    | '{' :: rest =>
      let (s, n) ← fillFields vs (depth + 1) fuel n rest
      return ('{' :: s, n)
    | rest =>
      let some (field, rest) := Field.read? rest | badLayout
      let (v, n) ← field.value vs n
      let v ← convert field.conversion v
      -- Fields inside the layout are filled in first and take numbers from the same count.
      let (layout, n) ←
        if field.layout.contains '{' then fillFields vs depth (field.layout.length + 1) n field.layout
        else pure (field.layout, n)
      let shown ← vs.show v layout
      let (s, n) ← fillFields vs (depth + 1) fuel n rest
      return (shown ++ s, n)
  | depth + 1, fuel + 1, n, '}' :: rest => do
    match rest with
    | '}' :: rest =>
      let (s, n) ← fillFields vs (depth + 1) fuel n rest
      return ('}' :: s, n)
    | _ => badLayout
  | depth + 1, fuel + 1, n, c :: rest => do
    let (s, n) ← fillFields vs (depth + 1) fuel n rest
    return (c :: s, n)

/-- A text with fields between braces for values. -/
def formatBraces (s : String) (vs : FieldValues) : Except Fault String := do
  let (s, _) ← fillFields vs 2 (s.length + 1) .unknown s.toList
  return .ofList s

end Stencil.Value
