import Stencil.OrderedMap
import Stencil.Source.Basic

namespace Stencil

/-!
# Schemas in memory

* `Memory` — a source that holds its schemas, and counts how often it is asked for one.
-/

/-- Schemas by the names of their databases. -/
structure Memory where
  databases : OrderedMap Database := []
  /-- the database that new connections bind; empty for none -/
  bound : String := ""
  /-- the name that was connected to last -/
  dsn : Option String := none
  reflections : Nat := 0
  closed : Bool := false
  deriving Inhabited

namespace Memory

/-- Bind a database by its name. -/
def bind (name : String) : Action Memory String := do
  if !(← get).databases.contains name then throw (.database ("Unknown database " ++ name))
  return name

/-- The schema of a database; there is none before a database is bound. -/
def database (name : String) : Action Memory Database := do
  match (← get).databases.get? name with
  | some d => return d
  | none => throw (.foreign .missingKey)

/-- Nothing is known before a database is bound. -/
def checkBound (name : String) : Action Memory Unit := do
  if name = "" then throw (.database "No database selected")

instance : Source Memory String where
  connect dsn := do
    modify fun m => { m with dsn := some dsn }
    return (← get).bound
  databaseName name := name
  bind _ name := bind name
  bindReport _ := []
  listDatabases _ := return (← get).databases.keys
  listTables name := do
    checkBound name
    return (← database name).tableNames
  reflect name := do
    checkBound name
    modify fun m => { m with reflections := m.reflections + 1 }
    database name
  close _ := modify fun m => { m with closed := true }

end Memory

end Stencil
