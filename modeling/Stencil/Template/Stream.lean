import Stencil.Template.Content

namespace Stencil.Template

/-!
# Taking items one by one

A cursor stands before an item of a collection. A stream makes new items from those of a cursor when they are
asked for, and gives each of them once.

* `Callbacks` — what streams and filters use of the evaluation of templates;
* `Cursor.start`, `Cursor.next` — the cursor before the first item of a value, and the next item;
* `Stream.advance` — the next item of a stream in a cell;
* `Callbacks.items` — all items of a value.
-/

/-- What streams and filters use of the evaluation of templates. -/
structure Callbacks where
  filter : String → Value → List Value → List (String × Value) → Run Value
  test : String → Value → List Value → List (String × Value) → Run Bool
  /-- an item of a value, or else an attribute -/
  getItem : Value → Value → Run Value
  /-- an attribute of a value, or else an item -/
  getAttribute : Value → Value → Run Value
  /-- the next item of the stream in a cell -/
  advance : Nat → Run (Option Value)
  /-- texts are escaped where the filter is applied -/
  escapes : Bool

/-- More steps than any run of a template takes. -/
def maxSteps : Nat := Nat.pow 2 40

/-! ### Cursors -/

namespace Cursor

/-- The cursor before the first item of a value. -/
def start (v : Value) : Run Cursor := do
  match v with
  | .object (.stream i) => return .stream i
  | .ref i .list => return .list i 0
  | .ref i .dict =>
    match ← Run.cell i with
    | .dict entries => return .mapping .keys i 0 entries.size
    | _ => Run.wrongType
  | .ref i .set =>
    match ← Run.cell i with
    | .set items => return .set i 0 items.size
    | _ => Run.wrongType
  | .view part (.ref i .dict) =>
    match ← Run.cell i with
    | .dict entries => return .mapping part i 0 entries.size
    | _ => Run.wrongType
  | .range first stop step => return .numbers first step (Value.rangeLength first stop step)
  | v =>
    match v.items? with
    | some xs => return .fixed xs
    | none => Run.wrongType

/-- The part of an entry of a mapping. -/
def partOf (part : Part) (entry : Value × Value) : Value :=
  match part with
  | .keys => entry.1
  | .values => entry.2
  | .items => .tuple [entry.1, entry.2]

/-- The next item and the cursor after it, unless there is none. A mapping or set must not have changed its
size. -/
def next (cb : Callbacks) (c : Cursor) : Run (Option (Value × Cursor)) := do
  match c with
  | .fixed [] => return none
  | .fixed (x :: xs) => return some (x, .fixed xs)
  | .numbers n step (k + 1) => return some (.int n, .numbers (n + step) step k)
  | .numbers _ _ 0 => return none
  | .list i p =>
    match ← Run.cell i with
    | .list items => return items[p]?.map fun x => (x, .list i (p + 1))
    | _ => Run.wrongType
  | .backwards _ 0 => return none
  | .backwards i (p + 1) =>
    match ← Run.cell i with
    | .list items => return items[p]?.map fun x => (x, .backwards i p)
    | _ => Run.wrongType
  | .mapping part i p size =>
    match ← Run.cell i with
    | .dict entries =>
      if entries.size != size then throw (.foreign .unexpected)
      return entries[p]?.map fun e => (partOf part e, .mapping part i (p + 1) size)
    | _ => Run.wrongType
  | .set i p size =>
    match ← Run.cell i with
    | .set items =>
      if items.size != size then throw (.foreign .unexpected)
      return items[p]?.map fun x => (x, .set i (p + 1) size)
    | _ => Run.wrongType
  | .stream i => return (← cb.advance i).map fun x => (x, .stream i)

/-- All items from a cursor on, after those that have been taken; `fuel` bounds their number. -/
def collect (cb : Callbacks) : Nat → Cursor → Array Value → Run (Array Value)
  | 0, _, taken => return taken
  | fuel + 1, c, taken => do
    match ← c.next cb with
    | none => return taken
    | some (x, c) => collect cb fuel c (taken.push x)

/-- All items from a cursor on. -/
def rest (cb : Callbacks) (c : Cursor) : Run (List Value) := do
  match c with
  | .fixed xs => return xs
  | c => return (← c.collect cb maxSteps #[]).toList

end Cursor

/-- All items of a value. -/
def Callbacks.items (cb : Callbacks) (v : Value) : Run (List Value) := do
  (← Cursor.start v).rest cb

/-- Whether a value is among those of another; items of a stream are taken up to the first that equals it. -/
def Callbacks.isAmong (cb : Callbacks) (v items : Value) : Run Bool := do
  match items with
  | .object (.stream _) =>
    let v ← Run.whole v
    let rec look : Nat → Cursor → Run Bool
      | 0, _ => return false
      | fuel + 1, c => do
        match ← c.next cb with
        | none => return false
        | some (x, c) => if (← Run.whole x).same v then return true else look fuel c
    look maxSteps (← Cursor.start items)
  | items => Run.ofExcept ((← Run.whole items).contains (← Run.whole v))

/-! ### Attributes of items -/

/-- The steps from an item to an attribute: numbers are positions. -/
def stepsTo (part : Value) : Run (List Value) :=
  match part with
  | .none => return []
  | part =>
    match part.asText? with
    | some s => (Text.piecesAt '.' s).mapM fun piece => do
      if !piece.isEmpty && piece.toList.all Text.isDigit then
        match Decimal.readBounded? piece.toList with
        | some n => return .int n
        | none => throw (.foreign .wrongValue)
      else return .str piece
    | none => return [part]

/-- Follow steps from an item; a default stands for what does not exist. -/
def Callbacks.follow (cb : Callbacks) (steps : List Value) (default : Value) (v : Value) : Run Value :=
  steps.foldlM
    (fun v step => do
      let next ← cb.getItem v step
      if (next matches .undefined) && !(default matches .none) then return default
      return next)
    v

/-- A text in lower case; other values as they are. -/
def foldCase : Value → Value
  | .str s => .str (Text.lowercase s)
  | .markup s => .markup (Text.lowercase s)
  | v => v

/-- The key by which an item is compared, without references. -/
def Callbacks.keyOf (cb : Callbacks) (isSensitive : Bool) (part : Value) (v : Value) : Run Value := do
  let k ← Run.whole (← cb.follow (← stepsTo part) .none v)
  return if isSensitive then k else foldCase k

/-! ### Streams -/

namespace Stream

/-- The sieve of a filter that keeps or drops items. -/
def sieveOf (name : String) (args : List Value) (named : List (String × Value)) : Run Sieve := do
  let byAttribute := name = "selectattr" || name = "rejectattr"
  let (steps, args) ← match byAttribute, args with
    | true, part :: rest => pure (← stepsTo part, rest)
    | true, [] => Run.wrongType
    | false, args => pure ([], args)
  let test ← match args with
    | [] => pure none
    | t :: rest =>
      match t.asText? with
      | some t => pure (some (t, rest, named))
      | none => Run.wrongType
  return { keeps := name.startsWith "select", steps, test }

/-- The change that a filter makes to items. -/
def changeOf (args : List Value) (named : List (String × Value)) : Run Change := do
  match args, named.lookup "attribute" with
  | [], some a =>
    if named.any fun (k, _) => k != "attribute" && k != "default" then Run.wrongType
    return .attribute (← stepsTo a) ((named.lookup "default").getD .none)
  | f :: rest, _ =>
    match f.asText? with
    | some f => return .filter f rest named
    | none => Run.wrongType
  | [], none => Run.wrongType

/-- Columns of a fixed number, which the items fill from the first on. -/
def columns (count : Value) (fill : Value) (xs : List Value) : Run (List Value) := do
  let count ← Run.ofExcept (Value.theInt count)
  if count = 0 then throw (.foreign .zeroDivision)
  let n := count.toNat
  let size := xs.length / n
  let extra := xs.length % n
  (List.range n).mapM fun i => do
    let start := i * size + min i extra
    let width := size + (if i < extra then 1 else 0)
    let items := (xs.drop start).take width
    Run.newList (if !(fill matches .none) && i ≥ extra then items ++ [fill] else items)

/-- The stream of a filter whose first item is asked for. -/
def begin (cb : Callbacks) (name : String) (v : Value) (args : List Value)
    (named : List (String × Value)) : Run Stream := do
  let params (names : List String) : Run (List (Option Value)) :=
    Run.ofExcept (Arguments.bind names args named)
  match name with
  | "map" =>
    if !(← Run.isTrue v) then return .finished
    return .changed (← changeOf args named) (← Cursor.start v)
  | "batch" =>
    match ← params ["linecount", "fill_with"] with
    | [some n, fill] => return .rows n (fill.getD .none) [] (← Cursor.start v)
    | _ => Run.wrongType
  | "slice" =>
    match ← params ["slices", "fill_with"] with
    | [some n, fill] => return .plain (.fixed (← columns n (fill.getD .none) (← cb.items v)))
    | _ => Run.wrongType
  | "unique" =>
    match ← params ["case_sensitive", "attribute"] with
    | [isSensitive, part] =>
      let isSensitive ← Run.isTrue (isSensitive.getD (.bool false))
      return .distinct isSensitive (part.getD .none) [] (← Cursor.start v)
    | _ => Run.wrongType
  | "items" =>
    match v with
    | .undefined => return .finished
    | .ref _ .dict => return .plain (← Cursor.start (.view .items v))
    | _ => Run.wrongType
  | name =>
    if !(← Run.isTrue v) then return .finished
    return .kept (← sieveOf name args named) (← Cursor.start v)

/-- Whether a sieve keeps an item. -/
def passes (cb : Callbacks) (s : Sieve) (x : Value) : Run Bool := do
  let y ← cb.follow s.steps .none x
  let passed ← match s.test with
    | none => Run.isTrue y
    | some (t, args, named) => cb.test t y args named
  return passed == s.keeps

/-- What a change makes of an item. -/
def change (cb : Callbacks) (c : Change) (x : Value) : Run Value :=
  match c with
  | .attribute steps default => cb.follow steps default x
  | .filter f args named => cb.filter f x args named

/-- A row that has been begun, as the last one. -/
def lastRow (count fill : Value) (row : List Value) : Run Value := do
  if fill matches .none then return ← Run.newList row
  if ← Run.ofExcept (Value.ordered (· == .lt) (.int row.length) count) then
    let missing ← Run.ofExcept (Value.sub count (.int row.length))
    Run.newList (row ++ (← Run.ofExcept (Value.repeatedWithin [fill] (← Run.ofExcept (Value.theInt missing)))))
  else Run.newList row

/-- The next item of the stream in a cell; `fuel` bounds the number of items that are passed over. -/
def advanceWithin (cb : Callbacks) (i : Nat) : Nat → Stream → Run (Option Value)
  | 0, _ => return none
  | fuel + 1, s => do
    let state (s : Stream) : Run Unit := Run.setCell i (.stream s)
    match s with
    | .finished => return none
    | .waiting name v args named =>
      -- While a stream makes its first item it has none to give.
      state .finished
      let s ← begin cb name v args named
      state s
      advanceWithin cb i fuel s
    | .plain c =>
      match ← c.next cb with
      | none => state .finished; return none
      | some (x, c) => state (.plain c); return some x
    | .kept sieve c =>
      match ← c.next cb with
      | none => state .finished; return none
      | some (x, c) =>
        let s := Stream.kept sieve c
        state s
        if ← passes cb sieve x then return some x else advanceWithin cb i fuel s
    | .changed how c =>
      match ← c.next cb with
      | none => state .finished; return none
      | some (x, c) =>
        state (.changed how c)
        return some (← change cb how x)
    | .distinct isSensitive part seen c =>
      match ← c.next cb with
      | none => state .finished; return none
      | some (x, c) =>
        let key ← cb.keyOf isSensitive part x
        if !key.isHashable then Run.wrongType
        if seen.any key.same then
          let s := Stream.distinct isSensitive part seen c
          state s
          advanceWithin cb i fuel s
        else
          state (.distinct isSensitive part (key :: seen) c)
          return some x
    | .rows count fill row c =>
      match ← c.next cb with
      | none =>
        state .finished
        if row.isEmpty then return none
        return some (← lastRow count fill row)
      | some (x, c) =>
        if count.same (.int row.length) then
          state (.rows count fill [x] c)
          return some (← Run.newList row)
        else
          let s := Stream.rows count fill (row ++ [x]) c
          state s
          advanceWithin cb i fuel s

/-- The next item of the stream in a cell. -/
def advance (cb : Callbacks) (i : Nat) : Run (Option Value) := do
  match ← Run.cell i with
  | .stream s => advanceWithin cb i maxSteps s
  | _ => Run.wrongType

end Stream

end Stencil.Template
