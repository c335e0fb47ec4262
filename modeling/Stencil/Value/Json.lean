import Stencil.Fault
import Stencil.Json.Writer
import Stencil.Value.Arithmetic

namespace Stencil.Value

/-!
# Values as JSON

Lists, tuples and sets are arrays, mappings and schema values are objects, dates are in their standard
form, sides and kinds are their names, and any other value is its text.

* `Value.toJson` — the document of a value; it fails for a mapping with a key that is no text, number,
  truth value or nothing, and for a value that contains itself;
* `Value.jsonText` — its text, possibly indented.
-/

/-- A list of texts as an array. -/
def jsonTexts (xs : List String) : Json :=
  .arr (xs.map .str)

/-- A column with all its fields. -/
def columnJson (c : Column) : Json :=
  .obj
    [("name", .str c.name), ("table", .str c.table), ("data_type", .str c.dataType),
     ("nullable", .bool c.nullable), ("default", .ofText? c.default),
     ("primary_key", .bool c.primaryKey), ("autoincrement", .bool c.autoincrement),
     ("comment", .ofText? c.comment)]

/-- What a table lists as a column. -/
def columnEntryJson : ColumnEntry → Json
  | .column c => columnJson c
  | .bare s => .str s

/-- An index with all its fields. -/
def indexJson (i : Index) : Json :=
  .obj
    [("name", .ofText? i.name), ("columns", jsonTexts i.columns), ("unique", .bool i.unique)]

/-- A foreign key with all its fields. -/
def constraintJson (c : Constraint) : Json :=
  .obj
    [("name", .str c.name), ("local_table", .str c.localTable),
     ("local_columns", jsonTexts c.localColumns), ("foreign_table", .str c.foreignTable),
     ("foreign_columns", jsonTexts c.foreignColumns), ("on_update", .ofText? c.onUpdate),
     ("on_delete", .ofText? c.onDelete)]

/-- A table with all its fields. -/
def tableJson (t : Table) : Json :=
  .obj
    [("name", .str t.name), ("columns", .arr (t.columns.map columnEntryJson)),
     ("primary_key", jsonTexts t.primaryKey), ("indexes", .arr (t.indexes.map indexJson)),
     ("comment", .ofText? t.comment)]

/-- A database with all its fields. -/
def databaseJson (d : Database) : Json :=
  .obj
    [("name", .str d.name), ("tables", .obj (d.tables.map fun (k, t) => (k, tableJson t))),
     ("constraints", .arr (d.constraints.map constraintJson))]

/-- The text of a key of a JSON object. -/
def jsonKey : Value → Except Fault String
  | .str s => .ok s
  | .markup s => .ok s
  | .none => .ok "null"
  | .bool b => .ok (if b then "true" else "false")
  | .int n => .ok (intText n)
  | .float x => .ok (.ofList (Json.renderFloat x))
  | _ => .error (.foreign .wrongType)

mutual

/-- The document of a value. -/
def toJson : Value → Except Fault Json
  | .none => .ok .null
  | .bool b => .ok (.bool b)
  | .int n => .ok (.int n)
  | .float x => .ok (.float x)
  | .str s => .ok (.str s)
  | .markup s => .ok (.str s)
  | .list xs => (toJsonAll xs).map .arr
  | .tuple xs => (toJsonAll xs).map .arr
  | .set xs => (toJsonAll xs).map .arr
  | .dict entries => (toJsonEntries entries).map .obj
  | .date d => .ok (.str d.toString)
  | .datetime t => .ok (.str t.text)
  | .side s => .ok (.str s.name)
  | .kind k => .ok (.str k.name)
  | .column c => .ok (columnJson c)
  | .index i => .ok (indexJson i)
  | .constraint c => .ok (constraintJson c)
  | .table t => .ok (tableJson t)
  | .database d => .ok (databaseJson d)
  | .ref _ _ => .error (.foreign .wrongValue)
  | v => .ok (.str v.text)

/-- The documents of a list of values. -/
def toJsonAll : List Value → Except Fault (List Json)
  | [] => .ok []
  | x :: xs => do
    let j ← toJson x
    let js ← toJsonAll xs
    return j :: js

/-- The fields of the entries of a mapping. -/
def toJsonEntries : List (Value × Value) → Except Fault (List (String × Json))
  | [] => .ok []
  | (k, v) :: rest => do
    let key ← jsonKey k
    let j ← toJson v
    let fields ← toJsonEntries rest
    return (key, j) :: fields

end

/-- The unit of indentation that a value asks for: nothing for one line, a number of spaces, or a
text. -/
def indentUnit : Value → Except Fault (Option (List Char))
  | .none => .ok .none
  | .bool b => .ok (some (if b then [' '] else []))
  | .int n =>
    if n.toNat < maxLength then .ok (some (List.replicate n.toNat ' ')) else .error (.foreign .overflow)
  | .str s => .ok (some s.toList)
  | .markup s => .ok (some s.toList)
  | _ => .error (.foreign .wrongType)

/-- The unit of indentation for a value. Nobody looks at what is asked for when the value is a text, which has no lines
to be indented. -/
def unitFor (v indent : Value) : Except Fault (Option (List Char)) :=
  if v.asText?.isSome then .ok .none else indentUnit indent

/-- The JSON text of a value, indented as a second value asks for. -/
def jsonText (v indent : Value) : Except Fault String := do
  let unit ← unitFor v indent
  if v.hasLongNumber then throw (.foreign .wrongValue)
  let j ← v.toJson
  return j.toText unit

end Stencil.Value
