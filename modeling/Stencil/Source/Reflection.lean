import Stencil.OrderedMap
import Stencil.Text.Pieces
import Stencil.Value.Compare
import Stencil.Value.Text

namespace Stencil

/-!
# Reflection

The schema that a catalogue describes. A catalogue is what a server tells about the tables of a database. Servers differ
in how they tell it: a truth may be a number, a default any value, a name may be missing.

* `Catalog.Column`, `Catalog.Index`, `Catalog.Unique`, `Catalog.ForeignKey`, `Catalog.Table` — the parts of a catalogue;
* `Column.reflect`, `Index.reflect`, `Constraint.reflect`, `Table.reflect` — its parts;
* `Index.merge` — a unique constraint becomes an index unless a unique one has its columns;
* `Database.ofTables` — the schema of a list of tables.
-/

/-! ### Catalogues -/

namespace Catalog

/-- The type of a column: its text, or, where the server has no text for it, the name of its kind. -/
inductive ColumnType where
  | text (text : String)
  | kind (name : String)
  deriving Repr, BEq, DecidableEq, Inhabited

/-- A column. -/
structure Column where
  name : String
  type : ColumnType
  nullable : Value := .bool true
  default : Value := .none
  autoincrement : Value := .none
  comment : Option String := none
  deriving Inhabited

/-- An index; a part of its key that is no column has no name. -/
structure Index where
  name : Option String := none
  columns : List (Option String)
  unique : Value := .none
  deriving Inhabited

/-- A unique constraint. -/
structure Unique where
  name : Option String := none
  columns : List String
  deriving Repr, BEq, DecidableEq, Inhabited

/-- A foreign key. -/
structure ForeignKey where
  name : Option String := none
  columns : List String
  referredTable : String
  referredColumns : List String
  onUpdate : Option String := none
  onDelete : Option String := none
  deriving Repr, BEq, DecidableEq, Inhabited

/-- A table. -/
structure Table where
  name : String
  primaryKey : List String := []
  columns : List Column := []
  indexes : List Index := []
  /-- indexes that the server made for constraints -/
  hiddenIndexes : List Index := []
  uniques : List Unique := []
  foreignKeys : List ForeignKey := []
  comment : Option String := none
  deriving Inhabited

end Catalog

/-! ### The schema -/

/-- The text of a column type. -/
def Catalog.ColumnType.name : Catalog.ColumnType → String
  | .text s => s
  | .kind s => s

/-- The text of a default. -/
def Column.defaultText : Value → Option String
  | .none => none
  | v => some v.text

/-- A column of a table with a primary key. -/
def Column.reflect (table : String) (primaryKey : List String) (c : Catalog.Column) : Column where
  name := c.name
  table := table
  dataType := c.type.name
  nullable := c.nullable.isTrue
  default := defaultText c.default
  primaryKey := primaryKey.contains c.name
  autoincrement := match c.autoincrement with
    | .bool b => b
    | _ => false
  comment := c.comment

/-- An index; the parts of its key without a name are left out. -/
def Index.reflect (i : Catalog.Index) : Index where
  name := i.name
  columns := (i.columns.filterMap id).filter (· != "")
  unique := i.unique.isTrue

/-- Add a unique constraint to the indexes unless a unique one has its columns. -/
def Index.merge (indexes : List Index) (u : Catalog.Unique) : List Index :=
  if indexes.any fun i => i.unique && i.columns == u.columns then indexes
  else indexes ++ [{ name := some (u.name.getD ""), columns := u.columns, unique := true }]

/-- The name of a foreign key; one without a name is named for its table and columns. -/
def Constraint.nameFor (table : String) (k : Catalog.ForeignKey) : String :=
  match k.name with
  | some name => if name = "" then unnamed else name
  | none => unnamed
where
  unnamed : String := "fk_" ++ table ++ "_" ++ Text.joined "_" k.columns

/-- A foreign key of a table. -/
def Constraint.reflect (table : String) (k : Catalog.ForeignKey) : Constraint where
  name := nameFor table k
  localTable := table
  localColumns := k.columns
  foreignTable := k.referredTable
  foreignColumns := k.referredColumns
  onUpdate := k.onUpdate
  onDelete := k.onDelete

/-- What a table lists as its columns: all columns, or, if it has unique constraints, the names of the columns
of the last one. -/
def Table.columnEntries (t : Catalog.Table) : List ColumnEntry :=
  match t.uniques.getLast? with
  | some u => u.columns.map .bare
  | none => t.columns.map fun c => .column (Column.reflect t.name t.primaryKey c)

/-- A table, with the hidden indexes if they are asked for. -/
def Table.reflect (withHidden : Bool) (t : Catalog.Table) : Table where
  name := t.name
  columns := columnEntries t
  primaryKey := t.primaryKey
  indexes :=
    let indexes := (if withHidden then t.hiddenIndexes else []) ++ t.indexes
    t.uniques.foldl Index.merge (indexes.map Index.reflect)
  comment := t.comment

/-- The schema of a list of tables; of two tables with one name the later one counts. -/
def Database.ofTables (name : String) (withHidden : Bool) (tables : List Catalog.Table) : Database where
  name := name
  tables := tables.foldl (fun m t => OrderedMap.put m t.name (Table.reflect withHidden t)) []
  constraints := tables.flatMap fun t => t.foreignKeys.map (Constraint.reflect t.name)

end Stencil
