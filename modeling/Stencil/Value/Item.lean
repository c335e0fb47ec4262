import Stencil.Value.Arithmetic

namespace Stencil.Value

/-!
# Items of values

* `item?` — the item at a position or key; positions count from the end if they are negative;
* `slice` — the items in a range of positions;
* `contains` — whether a value is among the items of another.
-/

/-- The position that a number means in a sequence. -/
def position? (length : Nat) (i : Int) : Option Nat :=
  let j := if i < 0 then i + length else i
  if 0 ≤ j && j < length then some j.toNat else .none

/-- The item of a list at a position. -/
def at? {α : Type} (xs : List α) (i : Int) : Option α :=
  (position? xs.length i).bind fun j => xs[j]?

/-- The number of a range at a position. -/
def rangeItem? (start stop step : Int) (key : Value) : Option Value := do
  let i ← position? (rangeLength start stop step) (← key.int?)
  return .int (← rangeAt? start stop step i)

/-- The item at a position or under a key, if there is one. -/
def item? (v key : Value) : Option Value :=
  match v with
  | .dict entries => if key.isHashable then lookup? entries key else .none
  | .list xs => key.int?.bind (at? xs)
  | .tuple xs => key.int?.bind (at? xs)
  | .str s => (key.int?.bind (at? s.toList)).map fun c => .str c.toString
  | .markup s => (key.int?.bind (at? s.toList)).map fun c => .markup c.toString
  | .bytes b => (key.int?.bind (at? b)).map fun x => .int x.toNat
  | .range start stop step => rangeItem? start stop step key
  | _ => .none

/-- A bound of a range of positions. -/
def bound : Value → Except Fault (Option Int)
  | .none => .ok .none
  | v =>
    match v.int? with
    | some n => .ok (some n)
    | .none => wrongType

/-- The first position, the end and the step of a range of positions in a sequence of some length. -/
def sliceBounds (length : Nat) (start stop step : Option Int) : Except Fault (Int × Int × Int) :=
  let step := step.getD 1
  if step = 0 then .error (.foreign .wrongValue)
  else
    let n : Int := length
    -- Backwards, a range may start at the last item and end before the first one.
    let low : Int := if step < 0 then -1 else 0
    let high : Int := if step < 0 then n - 1 else n
    let clamp (i : Int) : Int :=
      let j := if i < 0 then i + n else i
      if j < low then low else if j > high then high else j
    let first := match start with
      | some i => clamp i
      | .none => if step < 0 then high else low
    let last := match stop with
      | some i => clamp i
      | .none => if step < 0 then low else high
    .ok (first, last, step)

/-- The positions of a range in a sequence, in order. -/
def slicePositions (length : Nat) (start stop step : Option Int) : Except Fault (List Nat) := do
  let (first, last, step) ← sliceBounds length start stop step
  return (rangeItems first last step).filterMap fun v => v.int?.map Int.toNat

/-- The items of a list in a range of positions. -/
def sliceList {α : Type} (xs : List α) (start stop step : Option Int) : Except Fault (List α) := do
  let items := xs.toArray
  return (← slicePositions xs.length start stop step).filterMap fun i => items[i]?

/-- The items of a sequence in a range of positions. -/
def slice (v start stop step : Value) : Except Fault Value := do
  let a ← bound start
  let b ← bound stop
  let c ← bound step
  match v with
  | .list xs => return .list (← sliceList xs a b c)
  | .tuple xs => return .tuple (← sliceList xs a b c)
  | .str s => return .str (.ofList (← sliceList s.toList a b c))
  | .markup s => return .markup (.ofList (← sliceList s.toList a b c))
  | .bytes xs => return .bytes (← sliceList xs a b c)
  | .range first last by_ =>
    let (i, j, k) ← sliceBounds (rangeLength first last by_) a b c
    return .range (first + i * by_) (first + j * by_) (by_ * k)
  | _ => wrongType

/-- Whether a value is among the items of another; a text is in a text if it is a part of it. -/
def contains (v key : Value) : Except Fault Bool :=
  match v, key.asText? with
  | .str s, some part => .ok (Text.occursIn part.toList s.toList)
  | .markup s, some part => .ok (Text.occursIn part.toList s.toList)
  | .str _, .none => wrongType
  | .markup _, .none => wrongType
  | v, _ =>
    match v with
    | .dict _ | .set _ | .view .keys _ =>
      if key.isHashable then .ok ((v.items?.getD []).any (same key)) else wrongType
    | .range start stop step =>
      match key.int? with
      | some n => .ok (rangePosition? start stop step n).isSome
      | .none => .ok ((rangeItems start stop step).any (same key))
    | v =>
      match v.items? with
      | some items => .ok (items.any (same key))
      | .none => wrongType

end Stencil.Value
