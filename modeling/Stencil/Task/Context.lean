import Stencil.Fault
import Stencil.OrderedMap
import Stencil.Value.Basic

namespace Stencil

/-!
# The context of templates

A context starts without a schema. It is bound to a schema and a table once; after that only the answers
change.

* `Binding` — a schema with its subject table;
* `Context.bind`, `Context.setAnswer` — the changes;
* `Context.data` — the names that templates see.
-/

/-- The version that templates see. -/
def version : String := "0.1.5"

/-- A reflected schema and the table that templates are about. -/
structure Binding where
  database : Database
  tableName : String
  table : Table
  constraintsLocal : List Constraint
  constraintsForeign : List Constraint
  timestamp : String
  version : String
  deriving Repr, BEq, DecidableEq, Inhabited

/-- The binding of a table of a schema at a time. -/
def Binding.create (database : Database) (tableName : String) (now : DateTime) : Except Fault Binding :=
  match database.table? tableName with
  | none => .error (.validation ("Table not found: " ++ tableName))
  | some table => .ok
    { database, tableName, table
      constraintsLocal := database.constraintsOf tableName (some .localSide)
      constraintsForeign := database.constraintsOf tableName (some .foreignSide)
      timestamp := now.toUniversal.text
      version := Stencil.version }

/-- The schema, once it is known, and the answers so far. -/
structure Context where
  binding? : Option Binding := none
  prompts : OrderedMap Value := []
  deriving Inhabited

namespace Context

/-- Whether the schema is known. -/
def isBound (c : Context) : Bool :=
  c.binding?.isSome

/-- The binding; it is a failure to ask for it too early. -/
def binding (c : Context) : Except Fault Binding :=
  match c.binding? with
  | some b => .ok b
  | none => .error (.runtime "Context is not bound to a schema yet")

/-- Bind a schema and a table; this succeeds only once. -/
def bind (c : Context) (database : Database) (tableName : String) (now : DateTime) :
    Except Fault Context :=
  match c.binding? with
  | some b => .error (.runtime ("Context already bound to table " ++ b.tableName))
  | none => (Binding.create database tableName now).map fun b => { c with binding? := some b }

/-- Record an answer. -/
def setAnswer (c : Context) (id : String) (answer : Value) : Context :=
  { c with prompts := c.prompts.put id answer }

/-- The names that templates see; none before the schema is known. -/
def data (c : Context) : OrderedMap Value :=
  match c.binding? with
  | none => []
  | some b =>
    [("database", .database b.database), ("table_name", .str b.tableName), ("table", .table b.table),
     ("constraints_local", .list (b.constraintsLocal.map .constraint)),
     ("constraints_foreign", .list (b.constraintsForeign.map .constraint)),
     ("prompts", Value.ofFields c.prompts), ("timestamp", .str b.timestamp),
     ("ctgen_ver", .str b.version)]

end Context

end Stencil
