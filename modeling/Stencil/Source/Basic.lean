import Stencil.Fault
import Stencil.Log
import Stencil.Schema.Basic

namespace Stencil

/-!
# Sources of schemas

* `Source` — where connections come from, and what can be asked over one.
-/

/-- A source `σ` hands out connections `κ`. It keeps what has been asked of it; a connection only tells which
database is bound. -/
class Source (σ : Type) (κ : outParam Type) where
  /-- open a connection for a data source name -/
  connect : String → Action σ κ
  /-- the name of the bound database, empty if none is bound -/
  databaseName : κ → String
  /-- the connection with another database bound -/
  bind : κ → String → Action σ κ
  /-- what is reported when a database has been bound -/
  bindReport : String → List LogRecord
  /-- the names of the databases that can be bound -/
  listDatabases : κ → Action σ (List String)
  /-- the names of the tables of the bound database -/
  listTables : κ → Action σ (List String)
  /-- the schema of the bound database -/
  reflect : κ → Action σ Database
  /-- give a connection up -/
  close : κ → Action σ Unit

end Stencil
