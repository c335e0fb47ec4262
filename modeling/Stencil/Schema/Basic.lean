namespace Stencil

/-!
# Database schema

What is known of a database once it has been reflected: its tables with their columns, keys and
indexes, and the foreign keys between tables.

* `Column`, `Index`, `Constraint`, `Table`, `Database` — the parts of a schema;
* `Side` — the two ends of a foreign key;
* `Database.constraintsOf` — the foreign keys that touch a table.
-/

/-- Which end of a foreign key a table sits on: it owns the referencing columns, or it is
referenced. -/
inductive Side where
  | localSide
  | foreignSide
  deriving Repr, BEq, DecidableEq, Inhabited

/-- A column of a table. -/
structure Column where
  name : String
  table : String
  dataType : String
  nullable : Bool := true
  default : Option String := none
  primaryKey : Bool := false
  autoincrement : Bool := false
  comment : Option String := none
  deriving Repr, BEq, DecidableEq, Inhabited

/-- An index or unique constraint. -/
structure Index where
  name : Option String
  columns : List String
  unique : Bool := false
  deriving Repr, BEq, DecidableEq, Inhabited

/-- A foreign key between two tables. -/
structure Constraint where
  name : String
  localTable : String
  localColumns : List String
  foreignTable : String
  foreignColumns : List String
  onUpdate : Option String := none
  onDelete : Option String := none
  deriving Repr, BEq, DecidableEq, Inhabited

/-- What a table lists as a column: a full description, or a name alone. -/
inductive ColumnEntry where
  | column (c : Column)
  | bare (name : String)
  deriving Repr, BEq, DecidableEq, Inhabited

/-- A reflected table. -/
structure Table where
  name : String
  columns : List ColumnEntry := []
  primaryKey : List String := []
  indexes : List Index := []
  comment : Option String := none
  deriving Repr, BEq, DecidableEq, Inhabited

/-- The reflection of one database; the tables stand in the order in which they were listed, under
pairwise different names. -/
structure Database where
  name : String
  tables : List (String × Table) := []
  constraints : List Constraint := []
  deriving Repr, BEq, DecidableEq, Inhabited

/-- The name of a side. -/
def Side.name : Side → String
  | .localSide => "local"
  | .foreignSide => "foreign"

/-- The side with a name. -/
def Side.ofName? (s : String) : Option Side :=
  if s == "local" then some .localSide else if s == "foreign" then some .foreignSide else none

/-- Whether a table sits on a side of a foreign key; without a side, whether it sits on any. -/
def Constraint.touches (c : Constraint) (table : String) : Option Side → Bool
  | some .localSide => c.localTable == table
  | some .foreignSide => c.foreignTable == table
  | none => c.localTable == table || c.foreignTable == table

/-- The name of what a table lists as a column. -/
def ColumnEntry.name : ColumnEntry → String
  | .column c => c.name
  | .bare s => s

/-- The first column with a name. -/
def Table.column? (t : Table) (name : String) : Option ColumnEntry :=
  t.columns.find? (·.name == name)

namespace Database

/-- The table with a name. -/
def table? (d : Database) (name : String) : Option Table :=
  d.tables.lookup name

/-- The names of the tables, in order. -/
def tableNames (d : Database) : List String :=
  d.tables.map (·.1)

/-- The foreign keys that touch a table, possibly limited to one side, in order. -/
def constraintsOf (d : Database) (table : String) (side : Option Side := none) : List Constraint :=
  d.constraints.filter (·.touches table side)

end Database

end Stencil
