import Stencil.Template.Stream

namespace Stencil.Template

/-!
# Assignments and loops

The items of a loop are taken one by one, and its condition is tested when an item is taken or looked at.
A computation that decides about an item gives it as the loop shows it, or nothing.

* `Target.assign` — give a target a value, several names the items of a value;
* `Target.value` — the value that a target has;
* `Loop.advance` — take the next item;
* `Loop.attribute?` — what the body of a loop sees of it.
-/

namespace Target

mutual

/-- Give a target a value in a frame. -/
def assign (cb : Callbacks) (f : Frame) : Target → Value → Run Unit
  | .name id, v => Run.assign f id v
  | .field record_ id, v => do
    match ← Run.lookUp f record_ with
    | .object (.record i) =>
      match ← Run.cell i with
      | .record fields => Run.setCell i (.record (fields.put id v))
      | _ => Run.wrongType
    | _ => Run.wrongType
  | .tuple targets, v => do assignAll cb f targets (← cb.items v)

/-- Give each of several targets its value; there must be as many values as targets. -/
def assignAll (cb : Callbacks) (f : Frame) : List Target → List Value → Run Unit
  | [], [] => return ()
  | t :: ts, v :: vs => do
    assign cb f t v
    assignAll cb f ts vs
  | _, _ => throw (.foreign .wrongValue)

end

mutual

/-- The value of a target in a frame. -/
def value (f : Frame) : Target → Run Value
  | .name id => Run.lookUp f id
  | .field record_ id => do Run.getAttribute (← Run.lookUp f record_) id
  | .tuple targets => do return .tuple (← values f targets)

/-- The values of targets in a frame. -/
def values (f : Frame) : List Target → Run (List Value)
  | [] => return []
  | t :: ts => do return (← value f t) :: (← values f ts)

end

/-- Make the names of a target visible to other templates. -/
def publish (f : Frame) (t : Target) : Run Unit :=
  t.names.forM fun name => do Run.publish f name (← Run.lookUp f name) true

end Target

namespace Loop

/-- A decision about an item of a loop of some form. -/
abbrev Decision := LoopForm → Value → Run (Option Value)

/-- The first item after a cursor that a decision keeps, with the cursor after it. Where there is none the loop
has ended for good. `fuel` bounds the number of items that are passed over. -/
def firstKept (cb : Callbacks) (decide : Value → Run (Option Value)) : Nat → Cursor → Run (Option Value × Cursor)
  | 0, c => return (none, c)
  | fuel + 1, c => do
    match ← c.next cb with
    | none => return (none, .fixed [])
    | some (x, c) =>
      match ← decide x with
      | some y => return (some y, c)
      | none => firstKept cb decide fuel c

/-- Look at the next item of a loop without taking it. -/
def peek (cb : Callbacks) (decide : Decision) (i : Nat) : Run (Option Value) := do
  let l ← Run.loop i
  match l.ahead with
  | some v => return some v
  | none =>
    let (v, source) ← firstKept cb (decide l.form) maxSteps l.source
    Run.setCell i (.loop { ← Run.loop i with ahead := v, source })
    return v

/-- Take the next item of a loop. -/
def advance (cb : Callbacks) (decide : Decision) (i : Nat) : Run (Option Value) := do
  match ← peek cb decide i with
  | none => return none
  | some v =>
    let l ← Run.loop i
    let taken : Loop := { l with ahead := none, before := l.current, current := some v, taken := l.taken + 1 }
    Run.setCell i (.loop taken)
    return some v

/-- The number of items of a loop. If they cannot be counted without looking at them, the items that are left
are decided about now. -/
def length (cb : Callbacks) (decide : Decision) (i : Nat) : Run Nat := do
  let l ← Run.loop i
  match l.total with
  | some n => return n
  | none =>
    if l.isSized then
      let n := (← Run.opened l.iterable).length?.getD 0
      Run.setCell i (.loop { l with total := some n })
      return n
    let rest ← (← l.source.rest cb).filterMapM (decide l.form)
    let l ← Run.loop i
    let total := l.taken + (if l.ahead.isSome then 1 else 0) + rest.length
    let form : LoopForm := { l.form with condition := .absent }
    Run.setCell i (.loop { l with source := .fixed rest, total := some total, form })
    return total

/-- What the body of a loop sees of it. -/
def attribute? (cb : Callbacks) (decide : Decision) (i : Nat) (name : String) : Run (Option Value) := do
  let l ← Run.loop i
  match name with
  | "index" => return some (.int l.taken)
  | "index0" => return some (.int ((l.taken : Int) - 1))
  | "revindex" => return some (.int ((← length cb decide i : Nat) - (l.taken : Int) + 1))
  | "revindex0" => return some (.int ((← length cb decide i : Nat) - (l.taken : Int)))
  | "first" => return some (.bool (l.taken = 1))
  | "last" => return some (.bool (← peek cb decide i).isNone)
  | "length" => return some (.int (← length cb decide i))
  | "depth" => return some (.int (l.depth + 1))
  | "depth0" => return some (.int l.depth)
  | "previtem" => return some (l.before.getD .undefined)
  | "nextitem" => return some ((← peek cb decide i).getD .undefined)
  | "cycle" => return some (.method (.object (.loop i)) "cycle")
  | "changed" => return some (.method (.object (.loop i)) "changed")
  | _ => return none

/-- The text of a loop: how far it has come. -/
def text (cb : Callbacks) (decide : Decision) (i : Nat) : Run String := do
  let n ← length cb decide i
  return "<LoopContext " ++ toString (← Run.loop i).taken ++ "/" ++ toString n ++ ">"

/-- The value of a round at the current item of a loop. -/
def cycle (i : Nat) (values : List Value) : Run Value := do
  match values[((← Run.loop i).taken - 1) % values.length]? with
  | some v => return v
  | none => Run.wrongType

/-- Whether values differ from those of the call before. -/
def changed (i : Nat) (values : List Value) : Run Value := do
  let l ← Run.loop i
  if let some before := l.last then
    if ← Run.same (.tuple before) (.tuple values) then return .bool false
  Run.setCell i (.loop { l with last := some values })
  return .bool true

/-- Run a computation for the items of a loop; `fuel` bounds their number. -/
def forEach (cb : Callbacks) (decide : Decision) (i : Nat) (act : Value → Run Unit) : Nat → Run Unit
  | 0 => return ()
  | fuel + 1 => do
    match ← advance cb decide i with
    | none => return ()
    | some v =>
      act v
      forEach cb decide i act fuel

end Loop

end Stencil.Template
