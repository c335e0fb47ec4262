import Stencil.Template.Store

namespace Stencil.Template

/-!
# Collections in cells

A collection that a template can change is kept in a cell, and values refer to it. So two names can refer to one
list, and a list can contain itself.

* `Run.intern` — a plain value with its collections put into cells;
* `Run.opened` — a value whose own collection is taken out of its cell;
* `Run.whole` — a value with all collections taken out; where it contains itself, the reference stays;
* `Run.textOf`, `Run.attribute?`, `Run.getItem` — texts, attributes and items of values.
-/

/-- How deep values may be nested. -/
def maxNesting : Nat := 900

/-- What a value looks like whose collection is in a cell. -/
def Cell.content? : Cell → Option Value
  | .list items => some (.list items.toList)
  | .dict entries => some (.dict entries.toList)
  | .set items => some (.set items.toList)
  | _ => none

/-- The collection in a cell. -/
def Store.content? (s : Store) (i : Nat) : Option Value :=
  s.cells[i]?.bind Cell.content?

/-- A value with all collections taken out of their cells, given the cells that it is inside of. `fuel` bounds
the depth. -/
def Store.whole (s : Store) : Nat → List Nat → Value → Except Fault Value
  | 0, _, _ => .error (.foreign .tooDeep)
  | fuel + 1, inside, v =>
    match v with
    | .ref i _ =>
      if inside.contains i then .ok v
      else match s.content? i with
        | some c => s.whole fuel (i :: inside) c
        | none => .ok v
    | .list xs => do return .list (← xs.mapM (s.whole fuel inside))
    | .tuple xs => do return .tuple (← xs.mapM (s.whole fuel inside))
    | .set xs => do return .set (← xs.mapM (s.whole fuel inside))
    | .dict entries => do
      return .dict (← entries.mapM fun (k, v) => do
        return (← s.whole fuel inside k, ← s.whole fuel inside v))
    | .view part m => do return .view part (← s.whole fuel inside m)
    | v => .ok v

namespace Run

/-! ### In and out of cells -/

/-- Put the collections of a value into cells; `fuel` bounds the depth. -/
def internWithin : Nat → Value → Run Value
  | 0, _ => throw (.foreign .tooDeep)
  | fuel + 1, v =>
    match v with
    | .list xs => do
      let xs ← xs.mapM (internWithin fuel)
      return .ref (← alloc (.list xs.toArray)) .list
    | .tuple xs => do return .tuple (← xs.mapM (internWithin fuel))
    | .set xs => do return .ref (← alloc (.set xs.toArray)) .set
    | .dict entries => do
      let entries ← entries.mapM fun (k, v) => do return (k, ← internWithin fuel v)
      return .ref (← alloc (.dict entries.toArray)) .dict
    | .view part m => do return .view part (← internWithin fuel m)
    | v => return v

/-- Put the collections of a value into cells. -/
def intern (v : Value) : Run Value :=
  internWithin maxNesting v

/-- A list in a new cell. -/
def newList (xs : List Value) : Run Value := do
  return .ref (← alloc (.list xs.toArray)) .list

/-- A mapping in a new cell. -/
def newDict (entries : List (Value × Value)) : Run Value := do
  return .ref (← alloc (.dict entries.toArray)) .dict

/-- A value whose own collection is taken out of its cell; its items stay as they are. -/
def opened (v : Value) : Run Value := fun s =>
  let out (v : Value) : Value :=
    match v with
    | .ref i _ => (s.content? i).getD v
    | v => v
  match v with
  | .view part m => .ok (.view part (out m), s)
  | v => .ok (out v, s)

/-- A value with all collections taken out of their cells. -/
def whole (v : Value) : Run Value := fun s =>
  (s.whole maxNesting [] v).map fun v => (v, s)

/-- Values with all collections taken out of their cells. -/
def wholeAll (vs : List Value) : Run (List Value) :=
  vs.mapM whole

/-- Named values with all collections taken out of their cells. -/
def wholeNamed (named : List (String × Value)) : Run (List (String × Value)) :=
  named.mapM fun (k, v) => do return (k, ← whole v)

/-- The result of a computation on plain values, with its collections put into cells. -/
def ofPlain (x : Except Fault Value) : Run Value := do
  intern (← ofExcept x)

/-! ### Truth and equality -/

/-- The truth value that a condition sees. -/
def isTrue (v : Value) : Run Bool := do
  match v with
  | .str s => return s != ""
  | .bool b => return b
  | v => return (← opened v).isTrue

/-- Equality of values. -/
def same (a b : Value) : Run Bool := do
  return (← whole a).same (← whole b)

/-! ### Texts -/

/-- The name of a template as it is shown. -/
def shownName : Option String → String
  | some name => Text.quoted name
  | none => "None"

/-- The text of a thing that is known by its identity, inside other values and by itself. -/
def objectText (o : Object) : Run String := do
  match o with
  | .global .range => return "<class 'range'>"
  | .global .dict => return "<class 'dict'>"
  | .global .cycler => return "<class 'jinja2.utils.Cycler'>"
  | .global .joiner => return "<class 'jinja2.utils.Joiner'>"
  | .global .namespaceOf => return "<class 'jinja2.utils.Namespace'>"
  | .module i =>
    match ← cell i with
    | .module _ _ text => return text
    | _ => return ""
  | .routine i =>
    match ← cell i with
    | .routine r =>
      return "<Macro " ++ (match r.name with | some n => Text.quoted n | none => "anonymous") ++ ">"
    | _ => return ""
  | .record i =>
    match ← cell i with
    | .record fields => do
      let v ← whole (Value.ofFields fields)
      return "<Namespace " ++ (← ofExcept v.shownQuoted) ++ ">"
    | _ => return ""
  | .blocks c => return "<TemplateReference " ++ shownName (← context c).name ++ ">"
  | o => return (Value.object o).text

/-- The text of a value where it is printed. -/
def textOf (v : Value) : Run String := do
  match v with
  | .str s => return s
  | .markup s => return s
  | .object o => objectText o
  | v => ofExcept (← whole v).shown

/-- The text of a value where texts are escaped. -/
def escapedText (v : Value) : Run String := do
  match v with
  | .markup s => return s
  | .object (.module i) => textOf (.object (.module i))
  | v => return Value.escapeMarkup (← textOf v)

/-! ### Items and attributes -/

/-- The attribute of a value, if it has one. -/
def attribute? (v : Value) (name : String) : Run (Option Value) := do
  match v with
  | .object (.record i) =>
    match ← cell i with
    | .record fields => return fields.get? name
    | _ => return none
  | .object (.module i) =>
    match ← cell i with
    | .module own exported _ =>
      return (exported.get? name).or (if name = "__name__" then some (Value.ofText? own) else none)
    | _ => return none
  | .object (.routine i) =>
    match ← cell i with
    | .routine r =>
      if name = "name" then return some (Value.ofText? r.name)
      else if name = "arguments" then return some (.tuple (Value.texts r.parameters))
      else if name = "catch_kwargs" then return some (.bool r.usesNamed)
      else if name = "catch_varargs" then return some (.bool r.usesRest)
      else if name = "caller" then return some (.bool r.usesCaller)
      else return none
    | _ => return none
  | .object (.block c name_ depth) =>
    if name = "super" then
      let versions := ((← context c).blocks.get? name_).getD []
      if depth + 1 < versions.length then return some (.object (.block c name_ (depth + 1)))
      return some .undefined
    return none
  | v =>
    match v.attribute? name with
    | some a => some <$> intern a
    | none => return none

/-- The item of a value at a position or key, if there is one. -/
def item? (v key : Value) : Run (Option Value) := do
  match v, key with
  | .object (.blocks c), .str name =>
    if (← context c).blocks.contains name then return some (.object (.block c name 0))
    return none
  | v, key => return (← opened v).item? key

/-- An attribute, or else an item with its name. -/
def getAttribute (v : Value) (name : String) : Run Value := do
  if v matches .undefined then missing
  match ← attribute? v name with
  | some a => return a
  | none => return (← item? v (.str name)).getD .undefined

/-- An item, or else an attribute with its name. -/
def getItem (v key : Value) : Run Value := do
  if v matches .undefined then missing
  match ← item? v key with
  | some a => return a
  | none =>
    match key.asText? with
    | some name => return (← attribute? v name).getD .undefined
    | none => return .undefined

end Run

end Stencil.Template
