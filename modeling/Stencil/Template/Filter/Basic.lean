import Stencil.Template.Stream
import Stencil.Value.Json

namespace Stencil.Template.Filter

/-!
# Numbers and texts in filters

* `toInt`, `toFloat` — values read as numbers, with a default for what is none;
* `round` — rounding to places;
* `titleText`, `wordCount` — words of texts;
* `indentText`, `truncateText` — lines moved to the right, and texts cut to a length;
* `safeJson` — JSON that can stand inside markup.
-/

open Value

/-! ### Numbers -/

/-- The whole part of a fraction, if it has one. -/
def wholeOf? (x : Float) : Option Value :=
  (Decimal.Binary.ofFloat? x).map fun b => .int b.truncate

/-- A value as a whole number, or a default. A text that is no whole number may be a fraction. -/
def toInt (v default base : Value) : Except Fault Value :=
  match v with
  | .undefined => .error (.foreign .missingAttribute)
  | .int n => .ok (.int n)
  | .bool b => .ok (.int (if b then 1 else 0))
  | .float x => if x.isInf then .error (.foreign .overflow) else .ok ((wholeOf? x).getD default)
  | v =>
    match v.asText? with
    | .none => .ok default
    | some s =>
      let whole := match base.int? with
        | some b => if b = 0 || (2 ≤ b && b ≤ 36) then Decimal.readWhole? b.toNat s.toList else .none
        | .none => .none
      match whole with
      | some n => .ok (.int n)
      | .none => .ok (((Decimal.readFloat? s.toList).bind wholeOf?).getD default)

/-- A value as a fraction, or a default. -/
def toFloat (v default : Value) : Except Fault Value :=
  match v with
  | .undefined => .error (.foreign .missingAttribute)
  | v =>
    match v.asText? with
    | some s => .ok (((Decimal.readFloat? s.toList).map Value.float).getD default)
    | .none =>
      match v.num? with
      | some n => n.toFloat.map .float
      | .none => .ok default

/-- A whole number rounded to tens, hundreds and so on, halves to the even side. -/
def roundWhole (n : Int) (places : Int) : Int :=
  if places ≥ 0 then n
  else if (Nat.toDigits 10 n.natAbs).length < (-places).toNat then 0
  else
    let unit : Nat := Nat.pow 10 (-places).toNat
    let q := Decimal.roundQuotient n.natAbs unit
    if n < 0 then -((q * unit : Nat) : Int) else ((q * unit : Nat) : Int)

/-- A fraction rounded to a number of places; beyond the digits that it has, nothing changes, and far before
them nothing is left. -/
def roundFraction (x : Float) (places : Int) : Except Fault Float :=
  if !x.isFinite || places > 323 then .ok x
  else if places < -309 then .ok (zeroLike x)
  else
    let r := Decimal.roundTo x places
    if r.isInf then .error (.foreign .overflow) else .ok r

/-- The whole number nearest to a fraction, halves to the even side. -/
def nearestWhole (x : Float) : Except Fault Int :=
  match Decimal.Binary.ofFloat? x with
  | some b => .ok b.round
  | .none => .error (.foreign .overflow)

/-- A number rounded to a number of places, to the nearest or in one direction. -/
def round (v places : Value) (method : String) : Except Fault Value := do
  match method with
  | "common" =>
    match v.num?, places with
    | some (.int n), .none => return .int n
    | some (.float x), .none => return .int (← nearestWhole x)
    | some (.int n), places => return .int (roundWhole n (← theInt places))
    | some (.float x), places => return .float (← roundFraction x (← theInt places))
    | .none, _ => wrongType
  | "ceil" | "floor" =>
    let scale ← pow (.int 10) places
    let scaled ← mul v scale
    let whole ← match scaled.num? with
      | some (.int n) => pure n
      | some (.float x) =>
        match Decimal.Binary.ofFloat? x with
        | some b =>
          -- The ceiling is the floor of the negated number, negated.
          pure (if method = "floor" then b.floor
            else -(Decimal.Binary.floor { b with mantissa := -b.mantissa }))
        | .none => throw (.foreign .overflow)
      | .none => wrongType
    div (.int whole) scale
  | _ => wrongType

/-! ### Texts -/

/-- A text broken at a set of characters: runs of these characters alternate with the rest. -/
def alternating (isBreak : Char → Bool) : List Char → List (List Char)
  | [] => []
  | c :: rest =>
    match alternating isBreak rest with
    | [] => [[c]]
    | [] :: pieces => [c] :: pieces
    | (d :: piece) :: pieces =>
      if isBreak c == isBreak d then (c :: d :: piece) :: pieces else [c] :: (d :: piece) :: pieces

/-- Every word with its first character in upper case and the others in lower case; words end at blanks,
hyphens and opening brackets. -/
def titleText (s : List Char) : List Char :=
  let isBreak (c : Char) : Bool := Text.isBlank c || c = '-' || c = '(' || c = '{' || c = '[' || c = '<'
  (alternating isBreak s).flatMap fun piece =>
    match piece with
    | [] => []
    | c :: rest => Text.upperChar c ++ Text.lower rest

/-- The number of runs of word characters. -/
def wordCount (s : List Char) : Nat :=
  (alternating Text.isWordChar s).countP fun piece => piece.head?.any Text.isWordChar

/-- Lines with an indention before all but the first, or before all; blank lines get one only if asked. -/
def indentText (s indention : List Char) (first blank : Bool) : List Char :=
  let lines := Text.lines (s ++ ['\n'])
  let indented (line : List Char) : List Char :=
    if line.isEmpty && !blank then line else indention ++ line
  let body := match lines with
    | [] => []
    | line :: rest => Text.join ['\n'] (line :: rest.map indented)
  if first then indention ++ body else body

/-- The indention that a filter is given: a text, or a number of blanks. -/
def indentionOf (width : Value) : Except Fault (List Char) :=
  match width.asText? with
  | some s => .ok s.toList
  | .none => do
    let n ← checkedWidth (← theInt width).toNat
    return List.replicate n ' '

/-- A value whose length is cut, with an ending that marks the cut; a value that is short enough stays as it is.
Of a text, words may be cut or not. -/
def truncateText (v length : Value) (killsWords : Bool) (ending leeway : Value) : Except Fault Value := do
  let leeway := match leeway with
    | .none => .int 5
    | w => w
  let endLength ← match ending.length? with
    | some n => pure (.int n)
    | .none => wrongType
  if ← ordered (· == .lt) length endLength then throw (.foreign .unexpected)
  if ← ordered (· == .lt) leeway (.int 0) then throw (.foreign .unexpected)
  let size ← match v.length? with
    | some n => pure (.int n)
    | .none => wrongType
  if ← ordered (· != .gt) size (← add length leeway) then return v
  let head ← slice v .none (← sub length endLength) .none
  if killsWords then add head ending
  else
    match head.asText? with
    | some s =>
      let chars := s.toList
      let kept := String.ofList ((Text.findLast? [' '] chars).elim chars chars.take)
      add (if head matches .markup _ then .markup kept else .str kept) ending
    | .none => wrongType

/-- A value as strict JSON with the keys of its mappings sorted. -/
def strictJson : Nat → Value → Except Fault Json
  | 0, _ => .error (.foreign .tooDeep)
  | fuel + 1, v =>
    match v with
    | .none => .ok .null
    | .bool b => .ok (.bool b)
    | .int n => (writable n).map .int
    | .float x => .ok (.float x)
    | .str s => .ok (.str s)
    | .markup s => .ok (.str s)
    | .list xs => do return .arr (← xs.mapM (strictJson fuel))
    | .tuple xs => do return .arr (← xs.mapM (strictJson fuel))
    | .dict entries => do
      let sorted ← sortBy (·.1) false entries
      let fields ← sorted.mapM fun (k, v) => do return (← jsonKey k, ← strictJson fuel v)
      return .obj fields
    | _ => wrongType

/-- JSON text that is safe inside markup: only basic characters, and none that markup uses. -/
def safeJson (v indent : Value) : Except Fault String := do
  let unit ← unitFor v indent
  let j ← strictJson maxNesting v
  let safe (c : Char) : List Char :=
    let n := c.toNat
    if c = '<' || c = '>' || c = '&' || c = '\x27' || (127 ≤ n && n < 0x10000) then
      '\\' :: 'u' :: Text.hexDigits 4 n
    else if n ≥ 0x10000 then
      let m := n - 0x10000
      '\\' :: 'u' :: Text.hexDigits 4 (0xD800 + m / 0x400) ++
        '\\' :: 'u' :: Text.hexDigits 4 (0xDC00 + m % 0x400)
    else [c]
  return .ofList ((j.toText unit).toList.flatMap safe)

end Stencil.Template.Filter
