import Stencil.Calendar
import Stencil.Fault
import Stencil.Path
import Stencil.Prompt
import Stencil.Schema.Basic

namespace Stencil

/-!
# Values

The values that templates, documents and answers are made of. Most constructors are plain data;
`undefined`, `markup`, `object`, `method` and `ref` arise only while a template is rendered.

* `Value` — the type of values;
* `Collection`, `Part` — collections that can change, and the parts of a mapping;
* `Object` — the things a template can call or keep state in;
* `Value.IsData` — values without such things in any part;
* `Arguments.bind`, `Arguments.single` — the values that the parameters of a function get from its arguments;
* `Value.rangeLength`, `Value.rangeAt?`, `Value.rangePosition?`, `Value.rangeItems` — the numbers from a start to before a
  stop, in steps of a size that is not zero.
-/

/-- The functions that helper scripts may define. -/
inductive ScriptFunction where
  /-- the text of the argument in upper case -/
  | upper
  /-- the text of the argument between two backquotes -/
  | backquote
  /-- the text of the argument between two other texts -/
  | wrap
  /-- a function that fails whenever it is called -/
  | failing
  deriving Repr, BEq, DecidableEq, Inhabited

/-- The helper functions that every template engine offers. -/
inductive Helper where
  | snakeCase
  | kebabCase
  | constantCase
  | pascalCase
  | camelCase
  | pluralize
  | singularize
  | inflect
  | titleCase
  | json
  | concat
  | script (f : ScriptFunction)
  deriving Repr, BEq, DecidableEq, Inhabited

/-- The functions that templates can call without any registration. -/
inductive GlobalFunction where
  | range
  | dict
  | cycler
  | joiner
  | namespaceOf
  | lipsum
  deriving Repr, BEq, DecidableEq, Inhabited

/-- The kinds of collections that can change. -/
inductive Collection where
  | list
  | dict
  | set
  deriving Repr, BEq, DecidableEq, Inhabited

/-- The parts of a mapping that can be looked at as a collection of their own. -/
inductive Part where
  | keys
  | values
  | items
  deriving Repr, BEq, DecidableEq, Inhabited

/-- The name of a part. -/
def Part.name : Part → String
  | .keys => "keys"
  | .values => "values"
  | .items => "items"

/-- Things that are known by their identity: functions, and cells of the store of a rendering. -/
inductive Object where
  | helper (h : Helper)
  | global (f : GlobalFunction)
  /-- the type that values of a kind have -/
  | type (name : String)
  /-- a template function, whose definition is kept in a cell -/
  | routine (cell : Nat)
  /-- a mutable record -/
  | record (cell : Nat)
  /-- the state of a running loop -/
  | loop (cell : Nat)
  /-- values that can be taken once -/
  | stream (cell : Nat)
  /-- a function that renders the next texts of a round or a separator -/
  | ticker (cell : Nat)
  /-- the exported names of an imported template -/
  | module (cell : Nat)
  /-- the blocks of the template that runs in a context -/
  | blocks (context : Nat)
  /-- a block of such a template, at a depth of inheritance -/
  | block (context : Nat) (name : String) (depth : Nat)
  deriving Repr, BEq, DecidableEq, Inhabited

/-- The values of templates, documents and answers. -/
inductive Value where
  | none
  | bool (b : Bool)
  | int (n : Int)
  | float (x : Float)
  | complex (re im : Float)
  | str (s : String)
  | list (xs : List Value)
  | tuple (xs : List Value)
  | set (xs : List Value)
  /-- a mapping in insertion order, with pairwise different keys -/
  | dict (entries : List (Value × Value))
  | date (d : Date)
  | datetime (t : DateTime)
  /-- a length of time in microseconds -/
  | duration (microseconds : Int)
  | side (s : Side)
  | kind (k : PromptKind)
  | path (p : Path)
  | column (c : Column)
  | index (i : Index)
  | constraint (c : Constraint)
  | table (t : Table)
  | database (d : Database)
  /-- bytes, as binary documents hold them -/
  | bytes (b : List UInt8)
  /-- the numbers from `start` to before `stop` in steps -/
  | range (start stop step : Int)
  /-- the keys, values or entries of a mapping, as they are at any time -/
  | view (part : Part) (mapping : Value)
  /-- a collection that is kept in a cell, where it can change; inside a plain value, the place where the
  value contains itself -/
  | ref (cell : Nat) (kind : Collection)
  /-- a name, item or attribute that does not exist -/
  | undefined
  /-- a text that counts as escaped -/
  | markup (s : String)
  | object (o : Object)
  /-- an operation of a value, not called yet -/
  | method (self : Value) (name : String)
  deriving Inhabited

namespace Value

/-- The tuple of texts. -/
def texts (xs : List String) : List Value :=
  xs.map .str

/-- A text that may be absent. -/
def ofText? : Option String → Value
  | some s => .str s
  | .none => .none

/-- The value as a text, if it is one. -/
def asText? : Value → Option String
  | .str s => some s
  | .markup s => some s
  | _ => .none

/-- What a column list shows of an entry. -/
def ofColumnEntry : ColumnEntry → Value
  | .column c => .column c
  | .bare s => .str s

/-- A mapping from texts. -/
def ofFields (fields : List (String × Value)) : Value :=
  .dict (fields.map fun (k, v) => (.str k, v))

/-- The fields of a column in the order of their declaration. -/
def columnFields (c : Column) : List (String × Value) :=
  [("name", .str c.name), ("table", .str c.table), ("data_type", .str c.dataType),
   ("nullable", .bool c.nullable), ("default", ofText? c.default),
   ("primary_key", .bool c.primaryKey), ("autoincrement", .bool c.autoincrement),
   ("comment", ofText? c.comment)]

/-- The fields of an index in the order of their declaration. -/
def indexFields (i : Index) : List (String × Value) :=
  [("name", ofText? i.name), ("columns", .tuple (texts i.columns)), ("unique", .bool i.unique)]

/-- The fields of a foreign key in the order of their declaration. -/
def constraintFields (c : Constraint) : List (String × Value) :=
  [("name", .str c.name), ("local_table", .str c.localTable),
   ("local_columns", .tuple (texts c.localColumns)), ("foreign_table", .str c.foreignTable),
   ("foreign_columns", .tuple (texts c.foreignColumns)), ("on_update", ofText? c.onUpdate),
   ("on_delete", ofText? c.onDelete)]

/-- The fields of a table in the order of their declaration. -/
def tableFields (t : Table) : List (String × Value) :=
  [("name", .str t.name), ("columns", .tuple (t.columns.map ofColumnEntry)),
   ("primary_key", .tuple (texts t.primaryKey)), ("indexes", .tuple (t.indexes.map .index)),
   ("comment", ofText? t.comment)]

/-- The fields of a database in the order of their declaration. -/
def databaseFields (d : Database) : List (String × Value) :=
  [("name", .str d.name), ("tables", ofFields (d.tables.map fun (k, t) => (k, .table t))),
   ("constraints", .tuple (d.constraints.map .constraint))]

/-- The fields of a schema value, if it is one. -/
def schemaFields? : Value → Option (String × List (String × Value))
  | .column c => some ("Column", columnFields c)
  | .index i => some ("Index", indexFields i)
  | .constraint c => some ("Constraint", constraintFields c)
  | .table t => some ("Table", tableFields t)
  | .database d => some ("Database", databaseFields d)
  | _ => .none

/-- Plain data: no part is tied to a rendering. -/
inductive IsData : Value → Prop
  | none : IsData .none
  | bool (b) : IsData (.bool b)
  | int (n) : IsData (.int n)
  | float (x) : IsData (.float x)
  | str (s) : IsData (.str s)
  | list {xs} : (∀ x ∈ xs, IsData x) → IsData (.list xs)
  | tuple {xs} : (∀ x ∈ xs, IsData x) → IsData (.tuple xs)
  | set {xs} : (∀ x ∈ xs, IsData x) → IsData (.set xs)
  | dict {es} : (∀ e ∈ es, IsData e.1) → (∀ e ∈ es, IsData e.2) → IsData (.dict es)
  | date (d) : IsData (.date d)
  | datetime (t) : IsData (.datetime t)
  | side (s) : IsData (.side s)
  | kind (k) : IsData (.kind k)
  | path (p) : IsData (.path p)
  | column (c) : IsData (.column c)
  | index (i) : IsData (.index i)
  | constraint (c) : IsData (.constraint c)
  | table (t) : IsData (.table t)
  | database (d) : IsData (.database d)

/-! ### Ranges of numbers -/

/-- How many numbers a range has. -/
def rangeLength (start stop step : Int) : Nat :=
  if step > 0 then ((stop - start + step - 1).fdiv step).toNat
  else if step < 0 then ((start - stop - step - 1).fdiv (-step)).toNat
  else 0

/-- The number of a range at a position. -/
def rangeAt? (start stop step : Int) (i : Nat) : Option Int :=
  if i < rangeLength start stop step then some (start + step * i) else .none

/-- The position of a number in a range. -/
def rangePosition? (start stop step n : Int) : Option Nat :=
  if step = 0 then .none
  else
    let i := (n - start).fdiv step
    if (n - start).fmod step = 0 && 0 ≤ i && i < rangeLength start stop step then some i.toNat else .none

/-- The numbers of a range. -/
def rangeItems (start stop step : Int) : List Value :=
  (List.range (rangeLength start stop step)).map fun i => .int (start + step * (i : Nat))

/-- Whether two ranges have the same numbers. -/
def sameRange (start stop step start' stop' step' : Int) : Bool :=
  let n := rangeLength start stop step
  n == rangeLength start' stop' step' &&
    (n == 0 || (start == start' && (n == 1 || step == step')))

end Value

namespace Arguments

/-- Arguments bound to the parameters of a function: the values of the parameters in order, absent ones
without a value. A function takes no more arguments than it has parameters, and none twice. -/
def bind (parameters : List String) (args : List Value) (named : List (String × Value)) :
    Except Fault (List (Option Value)) :=
  if args.length > parameters.length then .error (.foreign .wrongType)
  else if named.any fun (k, _) => (parameters.take args.length).contains k || !parameters.contains k then
    .error (.foreign .wrongType)
  else
    .ok (args.map some ++ (parameters.drop args.length).map fun p => named.lookup p)

/-- The only argument of a function. -/
def single (args : List Value) (named : List (String × Value)) : Except Fault Value := do
  match ← bind ["value"] args named with
  | [some v] => .ok v
  | _ => .error (.foreign .wrongType)

/-- The positional arguments of a function without named ones, if their number is within bounds. -/
def positional (least most : Nat) (args : List Value) (named : List (String × Value)) :
    Except Fault (List Value) :=
  if named.isEmpty && least ≤ args.length && args.length ≤ most then .ok args
  else .error (.foreign .wrongType)

end Arguments

end Stencil
