import Stencil.OrderedMap
import Stencil.Path
import Stencil.Template.Names
import Stencil.Value.Method

namespace Stencil.Template

/-!
# The state of a rendering

While a template is rendered, names, collections, loops, functions and records are kept in numbered cells, and
the output is collected in pieces.

* `Store`, `Run` — the state, and computations on it;
* `Cursor`, `Stream` — where items are taken from one by one;
* `Frame` — where a statement runs: its scopes, its context, and what becomes of its output;
* `Run.enter` — open the scope of a body;
* `Run.lookUp`, `Run.assign` — reading and writing names.
-/

/-- Where a statement runs. -/
structure Frame where
  /-- the cells of the scopes, the own one first -/
  scopes : List Nat := []
  /-- the cell of the context -/
  context : Nat := 0
  /-- the cell of the parent of the running template -/
  parent : Nat := 0
  /-- assignments are visible to other templates -/
  isTop : Bool := false
  /-- output is dropped once the template has a parent -/
  isGuarded : Bool := false
  /-- the text that the statement around an expression has collected -/
  captured : Value := .str ""
  /-- the number of texts that are being collected since the running function or template started -/
  collecting : Nat := 0
  deriving Inhabited

/-- A function that a template defines. -/
structure Routine where
  name : Option String
  parameters : List String
  defaults : List Expr
  body : List Stmt
  frame : Frame
  usesCaller : Bool
  usesNamed : Bool
  usesRest : Bool
  deriving Inhabited

/-! ### Items one by one -/

/-- Where items are taken from one by one. -/
inductive Cursor where
  /-- the items of something that cannot change -/
  | fixed (rest : List Value)
  /-- a number of numbers in steps -/
  | numbers (next step : Int) (count : Nat)
  /-- the items of a list in a cell from a position on; a list that grows gives more of them -/
  | list (cell position : Nat)
  /-- the items of a list in a cell before a position, from the last to the first -/
  | backwards (cell position : Nat)
  /-- the parts of a mapping in a cell, which must keep its size -/
  | mapping (part : Part) (cell position size : Nat)
  /-- the items of a set in a cell, which must keep its size -/
  | set (cell position size : Nat)
  /-- the items of a stream in a cell -/
  | stream (cell : Nat)
  deriving Inhabited

/-- What decides which items are kept: a test of the items or of one of their attributes. -/
structure Sieve where
  keeps : Bool
  steps : List Value
  test : Option (String × List Value × List (String × Value))
  deriving Inhabited

/-- What is made of an item: one of its attributes, or the result of a filter. -/
inductive Change where
  | attribute (steps : List Value) (default : Value)
  | filter (name : String) (args : List Value) (named : List (String × Value))
  deriving Inhabited

/-- Items that can be taken once. -/
inductive Stream where
  | plain (source : Cursor)
  | kept (sieve : Sieve) (source : Cursor)
  | changed (change : Change) (source : Cursor)
  /-- items without those whose key has been seen -/
  | distinct (isSensitive : Bool) (part : Value) (seen : List Value) (source : Cursor)
  /-- rows of a number of items, of which one has been begun -/
  | rows (count fill : Value) (row : List Value) (source : Cursor)
  /-- a filter that starts when the first item is asked for -/
  | waiting (filter : String) (v : Value) (args : List Value) (named : List (String × Value))
  | finished
  deriving Inhabited

/-! ### Loops -/

/-- A loop statement with what belongs to it. -/
structure LoopForm where
  target : Target
  condition : Expr
  isRecursive : Bool
  body : List Stmt
  otherwise : List Stmt
  frame : Frame
  deriving Inhabited

/-- The state of a loop. -/
structure Loop where
  form : LoopForm
  /-- what the loop runs over -/
  iterable : Value
  /-- the items that have not been looked at -/
  source : Cursor
  /-- the items are counted without looking at them -/
  isSized : Bool
  /-- the number of all items, once it is known -/
  total : Option Nat := none
  /-- the number of items that have been taken -/
  taken : Nat := 0
  before : Option Value := none
  current : Option Value := none
  /-- an item that has been looked at but not taken -/
  ahead : Option Value := none
  depth : Nat := 0
  last : Option (List Value) := none
  deriving Inhabited

/-! ### Cells -/

/-- What templates see outside of their own names. -/
structure ContextCell where
  /-- the name of the template -/
  name : Option String := none
  /-- the names that the template has set at its top -/
  own : OrderedMap Value := []
  /-- the names that it was given -/
  given : OrderedMap Value := []
  exported : List String := []
  /-- the versions of every block, the one of the youngest template first -/
  blocks : OrderedMap (List Block) := []
  /-- texts are escaped where they are printed -/
  escapes : Bool := false
  deriving Inhabited

/-- What a cell holds. -/
inductive Cell where
  | scope (values : OrderedMap (Option Value)) (assigned : List String)
  | context (c : ContextCell)
  | parent (template : Option Template)
  | routine (r : Routine)
  | record (fields : OrderedMap Value)
  | list (items : Array Value)
  | dict (entries : Array (Value × Value))
  | set (items : Array Value)
  | loop (l : Loop)
  | stream (s : Stream)
  | cycler (items : List Value) (position : Nat)
  | joiner (separator : Value) (isUsed : Bool)
  | module (name : Option String) (exported : OrderedMap Value) (text : String)
  deriving Inhabited

/-- A template that has been read from a file. -/
structure Loaded where
  path : Path
  text : List Char
  template : Template
  /-- the cell of the module of its exported names, once it has been imported -/
  exports : Option Nat := none
  deriving Inhabited

/-- The state of a rendering. -/
structure Store where
  cells : Array Cell := #[]
  /-- the pieces of the output, the last one first -/
  output : List String := []
  /-- the outputs around the running one, the innermost first -/
  around : List (List String) := []
  /-- the templates that have been read, by name -/
  loaded : OrderedMap Loaded := []
  deriving Inhabited

/-- Computations on the state of a rendering. -/
abbrev Run := StateT Store (Except Fault)

namespace Run

variable {α : Type}

/-- A computation that needs no state. -/
def ofExcept (x : Except Fault α) : Run α :=
  fun s => x.map fun a => (a, s)

/-- The failure of an operation on values of the wrong kinds. -/
def wrongType : Run α :=
  throw (.foreign .wrongType)

/-- The failure of a use of something that does not exist. -/
def missing : Run α :=
  throw (.foreign .missingAttribute)

/-- A new cell. -/
def alloc (c : Cell) : Run Nat := fun s =>
  .ok (s.cells.size, { s with cells := s.cells.push c })

/-- The content of a cell. -/
def cell (i : Nat) : Run Cell := fun s =>
  match s.cells[i]? with
  | some c => .ok (c, s)
  | none => .error (.foreign .unexpected)

/-- Replace the content of a cell. -/
def setCell (i : Nat) (c : Cell) : Run Unit := fun s =>
  .ok ((), { s with cells := s.cells.setIfInBounds i c })

/-- A context. -/
def context (i : Nat) : Run ContextCell := do
  match ← cell i with
  | .context c => return c
  | _ => throw (.foreign .unexpected)

/-- A loop. -/
def loop (i : Nat) : Run Loop := do
  match ← cell i with
  | .loop l => return l
  | _ => throw (.foreign .unexpected)

/-- A new stream. -/
def stream (s : Stream) : Run Value := do
  return .object (.stream (← alloc (.stream s)))

/-! ### Output -/

/-- Add to the output. -/
def emit (text : String) : Run Unit :=
  modify fun s => { s with output := text :: s.output }

/-- Add to the output of the running function or template, although texts may be collected in it. -/
def emitPast (f : Frame) (text : String) : Run Unit :=
  match f.collecting with
  | 0 => emit text
  | n + 1 => modify fun s => { s with around := s.around.modify n (text :: ·) }

/-- The output of a computation, which does not get into the output around it. -/
def capture (act : Run Unit) : Run String := do
  modify fun s => { s with output := [], around := s.output :: s.around }
  act
  let s ← get
  set { s with output := s.around.headD [], around := s.around.tail }
  return String.join s.output.reverse

/-! ### Names -/

/-- A name in the outermost environment of a template: what the template has set, else what it was given. -/
def resolve (context_ : Nat) (name : String) : Run (Option Value) := do
  let c ← context context_
  return (c.own.get? name).or (c.given.get? name)

/-- The value of a name in scopes; nothing if no scope has it, `some none` if it has no value yet. -/
def search (name : String) : List Nat → Run (Option (Option Value))
  | [] => return none
  | i :: rest => do
    match ← cell i with
    | .scope values _ =>
      match values.get? name with
      | some v => return some v
      | none => search name rest
    | _ => search name rest

/-- The names in scopes. -/
def visible : List Nat → Run (List String)
  | [] => return []
  | i :: rest => do
    let outer ← visible rest
    match ← cell i with
    | .scope values _ => return values.keys ++ outer
    | _ => return outer

/-- The value of a name; a name without a value is undefined. -/
def lookUp (f : Frame) (name : String) : Run Value := do
  match ← search name f.scopes with
  | some v => return v.getD .undefined
  | none => throw (.foreign .unexpected)

/-- Set a name in the own scope of a frame. -/
def assign (f : Frame) (name : String) (v : Value) : Run Unit := do
  match f.scopes with
  | [] => throw (.foreign .unexpected)
  | i :: _ =>
    match ← cell i with
    | .scope values assigned => setCell i (.scope (values.put name (some v)) assigned)
    | _ => throw (.foreign .unexpected)

/-- The names of a body inside a frame. -/
def namesOf (f : Frame) (parameters : List String) (body : List Stmt)
    (before after : List String := []) : Run Names := do
  let around ← visible f.scopes
  return .ofBody around.contains parameters body before after

/-- Open a scope inside a frame. -/
def enter (f : Frame) (names : Names) : Run Frame := do
  let values ← names.origins.mapM fun (name, origin) => do
    let v ← match origin with
      | .parameter => pure none
      | .outer => do pure (((← search name f.scopes).getD none))
      | .context => resolve f.context name
      | .nothing => pure none
    return (name, v)
  let i ← alloc (.scope values names.given)
  return { f with scopes := i :: f.scopes, isTop := false }

/-- The names that scopes have been assigned, with their values, inner ones winning. -/
def locals : List Nat → Run (OrderedMap Value)
  | [] => return []
  | i :: rest => do
    let outer ← locals rest
    match ← cell i with
    | .scope values assigned =>
      return values.foldl
        (fun m (name, v) =>
          match v with
          | some v => if assigned.contains name then m.put name v else m
          | none => if assigned.contains name then m.erase name else m)
        outer
    | _ => return outer

/-- All names that a context offers. -/
def offered (i : Nat) : Run (OrderedMap Value) := do
  let c ← context i
  return c.own.foldl (fun m (k, v) => m.put k v) c.given

/-- Make a name visible to other templates if the frame is at the top; `isExported` says whether imports of
the template see it. -/
def publish (f : Frame) (name : String) (v : Value) (isExported : Bool) : Run Unit := do
  if f.isTop then
    let c ← context f.context
    let exported := c.exported.filter (· != name)
    let exported := if isExported && !name.startsWith "_" then name :: exported else exported
    setCell f.context (.context { c with own := c.own.put name v, exported })

/-- Whether the template of a frame has a parent by now. -/
def hasParent (f : Frame) : Run Bool := do
  match ← cell f.parent with
  | .parent (some _) => return true
  | _ => return false

/-- Whether texts are escaped in a frame. -/
def escapes (f : Frame) : Run Bool := do
  return (← context f.context).escapes

/-- A text that a template has made, as it is used in a frame: it counts as escaped where texts are escaped. -/
def made (f : Frame) (s : String) : Run Value := do
  return if ← escapes f then .markup s else .str s

end Run

end Stencil.Template
