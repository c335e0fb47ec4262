import Stencil.Template.Stream

namespace Stencil.Template.Collection

/-!
# Operations of collections in cells

* `Collection.call` — the operations that change a list, mapping or set, or look at it as it is;
* `Collection.entries` — the entries that a mapping, or pairs, give;
* `Collection.callPlain` — the operations of other values, which change nothing.
-/

open Value Arguments

/-! ### Lists -/

/-- The position that a number means where an item is put into a list. -/
def insertion (length : Nat) (i : Int) : Nat :=
  let j := if i < 0 then i + length else i
  min j.toNat length

/-- Sort the items of a list by keys. -/
def sortItems (call : Value → List Value → Run Value) (items : List Value)
    (named : List (String × Value)) : Run (List Value) := do
  if named.any fun (k, _) => k != "key" && k != "reverse" then Run.wrongType
  let descending ← match named.lookup "reverse" with
    | Option.none => pure false
    | some v =>
      match v.int? with
      | some n => pure (n != 0)
      | Option.none => Run.wrongType
  let keyOf (x : Value) : Run Value := do
    match (named.lookup "key").getD .none with
    | .none => Run.whole x
    | f => Run.whole (← call f [x])
  let keyed ← items.mapM fun x => do return (← keyOf x, x)
  return (← Run.ofExcept (sortBy (·.1) descending keyed)).map (·.2)

/-- Call an operation of the list in a cell; nothing if it is none that changes or copies the list. -/
def callList? (cb : Callbacks) (call : Value → List Value → Run Value) (i : Nat) (items : Array Value)
    (name : String) (args : List Value) (named : List (String × Value)) : Run (Option Value) := do
  let become (items : Array Value) : Run (Option Value) := do
    Run.setCell i (.list items)
    return some .none
  if name = "sort" then
    if !args.isEmpty then Run.wrongType
    return ← become (← sortItems call items.toList named).toArray
  let whole (v : Value) : Run Int := Run.ofExcept (theInt v)
  match name, ← Run.ofExcept (positional 0 3 args named) with
  | "append", [v] => become (items.push v)
  | "extend", [v] =>
    let more ← cb.items v
    match ← Run.cell i with
    | .list items => become (items ++ more.toArray)
    | _ => Run.wrongType
  | "insert", [position, v] => become (items.insertIdxIfInBounds (insertion items.size (← whole position)) v)
  | "pop", args =>
    let position ← match args with
      | [] => pure (-1)
      | [p] => whole p
      | _ => Run.wrongType
    match position? items.size position with
    | some p =>
      let _ ← become (items.eraseIdxIfInBounds p)
      return items[p]?
    | Option.none => throw (.foreign .outOfRange)
  | "remove", [v] =>
    let v ← Run.whole v
    match (← items.toList.mapM Run.whole).findIdx? fun x => x.same v with
    | some p => become (items.eraseIdxIfInBounds p)
    | Option.none => throw (.foreign .wrongValue)
  | "clear", [] => become #[]
  | "reverse", [] => become items.reverse
  | "copy", [] => return some (← Run.newList items.toList)
  | _, _ => return Option.none

/-! ### Mappings -/

/-- The entries that a value gives: its own, if it is a mapping, or else the pairs that are its items. -/
def entries (cb : Callbacks) (v : Value) : Run (List (Value × Value)) := do
  match ← Run.opened v with
  | .dict entries => return entries
  | .undefined => Run.missing
  | v =>
    (← cb.items v).mapM fun pair => do
      match ← cb.items pair with
      | [k, v] => if k.isHashable then return (k, v) else Run.wrongType
      | _ => throw (.foreign .wrongValue)

/-- The entries that the arguments of a function give which makes or changes a mapping. -/
def argumentEntries (cb : Callbacks) (args : List Value) (named : List (String × Value)) :
    Run (List (Value × Value)) := do
  let given ← match args with
    | [] => pure []
    | [v] => entries cb v
    | _ => Run.wrongType
  return given ++ named.map fun (k, v) => (.str k, v)

/-- Entries with more entries put into them. -/
def merged (old new : List (Value × Value)) : List (Value × Value) :=
  new.foldl (fun d (k, v) => insert d k v) old

/-- A mapping that gives one value to every item of a value. -/
def fromKeys (cb : Callbacks) (args : List Value) (named : List (String × Value)) : Run Value := do
  let (keys, v) ← match ← Run.ofExcept (positional 1 2 args named) with
    | [keys] => pure (keys, Value.none)
    | [keys, v] => pure (keys, v)
    | _ => Run.wrongType
  let keys ← cb.items keys
  if !keys.all isHashable then Run.wrongType
  Run.newDict (merged [] (keys.map fun k => (k, v)))

/-- Call an operation of the mapping in a cell; nothing if it has no such operation. -/
def callDict? (cb : Callbacks) (i : Nat) (old : List (Value × Value)) (name : String) (args : List Value)
    (named : List (String × Value)) : Run (Option Value) := do
  let become (new : List (Value × Value)) : Run Unit := Run.setCell i (.dict new.toArray)
  let without (key : Value) : List (Value × Value) := old.filter fun (k, _) => !k.same key
  match name with
  | "update" =>
    become (merged old (← argumentEntries cb args named))
    return some .none
  | "fromkeys" => return some (← fromKeys cb args named)
  | name =>
    match name, ← Run.ofExcept (positional 0 2 args named) with
    | "items", [] => return some (.view .items (.ref i .dict))
    | "keys", [] => return some (.view .keys (.ref i .dict))
    | "values", [] => return some (.view .values (.ref i .dict))
    | "copy", [] => return some (← Run.newDict old)
    | "clear", [] =>
      become []
      return some .none
    | "popitem", [] =>
      match old.getLast? with
      | some (k, v) =>
        become (without k)
        return some (.tuple [k, v])
      | Option.none => throw (.foreign .missingKey)
    | name, key :: rest =>
      if !key.isHashable then Run.wrongType
      let default := rest.head?.getD .none
      match name, lookup? old key with
      | "get", found => return some (found.getD default)
      | "setdefault", some v => return some v
      | "setdefault", Option.none =>
        become (merged old [(key, default)])
        return some default
      | "pop", some v =>
        become (without key)
        return some v
      | "pop", Option.none => if rest.isEmpty then throw (.foreign .missingKey) else return some default
      | _, _ => return Option.none
    | _, _ => return Option.none

/-! ### Sets -/

/-- The operations of sets whose results the set itself takes, with those that give the results. -/
def updates : List (String × String) :=
  [("update", "union"), ("difference_update", "difference"), ("intersection_update", "intersection"),
   ("symmetric_difference_update", "symmetric_difference")]

/-- Call an operation of the set in a cell that changes it; nothing if it is none of these. Arguments are plain
values. -/
def callSet? (i : Nat) (items : List Value) (name : String) (args : List Value)
    (named : List (String × Value)) : Run (Option Value) := do
  let become (items : List Value) : Run (Option Value) := do
    Run.setCell i (.set items.toArray)
    return some .none
  match updates.lookup name with
  | some pure_ =>
    match ← Run.ofExcept (callSet items pure_ args named) with
    | .set items => become items
    | _ => Run.wrongType
  | Option.none =>
    if !named.isEmpty then Run.wrongType
    match name, args with
    | "clear", [] => become []
    | "pop", [] =>
      match items with
      | x :: rest =>
        let _ ← become rest
        return some x
      | [] => throw (.foreign .missingKey)
    | name, [v] =>
      if !v.isHashable then return Option.none
      let isThere := items.any fun x => x.same v
      let others := items.filter fun x => !x.same v
      match name with
      | "add" => become (if isThere then items else items ++ [v])
      | "discard" => become others
      | "remove" => if isThere then become others else throw (.foreign .missingKey)
      | _ => return Option.none
    | _, _ => return Option.none

/-! ### All operations -/

/-- A value with all collections taken out of their cells; items that are given one by one become a list. -/
def drained (cb : Callbacks) (v : Value) : Run Value := do
  match v with
  | .object (.stream _) => Run.whole (.list (← cb.items v))
  | v => Run.whole v

/-- Call an operation that changes nothing. -/
def callPlain (cb : Callbacks) (self : Value) (name : String) (args : List Value)
    (named : List (String × Value)) : Run Value := do
  let plain ← Run.whole self
  let args ← args.mapM (drained cb)
  Run.ofPlain (plain.callMethod name args (← Run.wholeNamed named))

/-- Call an operation of a collection in a cell. -/
def call (cb : Callbacks) (callValue : Value → List Value → Run Value) (i : Nat) (self : Value)
    (name : String) (args : List Value) (named : List (String × Value)) : Run Value := do
  let otherwise (args : List Value) (changed : Option Value) : Run Value :=
    match changed with
    | some v => return v
    | Option.none => callPlain cb self name args named
  match ← Run.cell i with
  | .list items => otherwise args (← callList? cb callValue i items name args named)
  | .dict entries => otherwise args (← callDict? cb i entries.toList name args named)
  | .set items =>
    let args ← args.mapM (drained cb)
    otherwise args (← callSet? i items.toList name args named)
  | _ => callPlain cb self name args named

end Stencil.Template.Collection
