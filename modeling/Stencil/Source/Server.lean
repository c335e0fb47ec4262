import Stencil.Source.Basic
import Stencil.Source.Dsn
import Stencil.Source.Reflection

namespace Stencil

/-!
# Database servers

A server is known by its catalogue and by the requests that it refuses. A connection to it is a pool; binding
another database opens a new pool and closes the old one.

* `Server`, `Server.Refusal` — what a server answers;
* `Server.Pool`, `Server.Event`, `Exchange` — connections, and what happened between program and server;
* `Exchange.openPool`, `Exchange.bind`, `Exchange.reflect` — what is asked of a server.
-/

/-- Why a server does not answer. -/
inductive Server.Refusal where
  /-- the server reports an error -/
  | database (text : String)
  /-- the driver for the server is not installed -/
  | driverMissing (text : String)
  /-- anything else -/
  | other (text : String)
  deriving Repr, BEq, DecidableEq, Inhabited

/-- What a server is asked. -/
inductive Server.Request where
  | engine
  | connect
  | catalog
  | tables
  | schemas
  | columns
  deriving Repr, BEq, DecidableEq, Inhabited

/-- The name of a request. -/
def Server.Request.name : Server.Request → String
  | .engine => "engine"
  | .connect => "connect"
  | .catalog => "catalog"
  | .tables => "tables"
  | .schemas => "schemas"
  | .columns => "columns"

/-- What a server answers. Refusals are found by the name of a request, alone or followed by a colon and what
the request is about. -/
structure Server where
  databases : OrderedMap (List Catalog.Table) := []
  schemas : List String := []
  catalog : List String := []
  refusals : OrderedMap Server.Refusal := []
  deriving Inhabited

/-- A pool of connections to a server. Pools have different numbers. -/
structure Server.Pool where
  number : Nat
  dsn : Dsn
  deriving Repr, BEq, DecidableEq, Inhabited

/-- What happens between the program and a server. -/
inductive Server.Event where
  /-- a pool is opened -/
  | opened (pool : Server.Pool)
  /-- no pool can be opened -/
  | refused (dsn : Dsn)
  | closed (pool : Server.Pool)
  | queried (query : String)
  deriving Repr, BEq, DecidableEq, Inhabited

/-- A server, the options for new pools, and what happened so far. -/
structure Exchange where
  server : Server := {}
  options : OrderedMap Value := []
  events : List Server.Event := []
  deriving Inhabited

namespace Server

/-- The failure that a refusal means for the program. -/
def Refusal.fault (action : String) : Refusal → Fault
  | .database text => .database ("Failed to " ++ action ++ ": " ++ text)
  | .driverMissing text =>
    .database ("Failed to " ++ action ++ ": database driver not installed (" ++ text ++ ")")
  | .other text => .foreign (.other text)

/-- The refusal of a request; one that names what the request is about comes first. -/
def refusal? (s : Server) (r : Request) (subject : String) : Option Refusal :=
  (s.refusals.get? (r.name ++ ":" ++ subject)).or (s.refusals.get? r.name)

/-- Whether a request is refused. -/
def check (s : Server) (r : Request) (subject : String) : Except Refusal Unit :=
  match s.refusal? r subject with
  | some refusal => .error refusal
  | none => .ok ()

/-- The kind of server whose database is a file. -/
def fileBackend : String := "sqlite"

/-- The kind of server whose catalogue has to be queried for its databases. -/
def catalogBackend : String := "postgresql"

/-- The kinds of servers for which there are dialects. -/
def backends : List String := [fileBackend, "mysql", "mariadb", catalogBackend, "oracle", "mssql"]

/-- Whether a pool can be made for a data source name. -/
def checkPool (s : Server) (d : Dsn) : Except Refusal Unit := do
  s.check .engine (d.database.getD "")
  if !backends.contains d.backend then
    throw (.database ("Can't load plugin: sqlalchemy.dialects:" ++ Text.replaced "+" "." d.driver))

/-- Whether a connection can be made for a data source name. -/
def checkConnect (s : Server) (d : Dsn) : Except Refusal Unit := do
  let name := d.database.getD ""
  s.check .connect name
  if d.backend != fileBackend && name != "" && !s.databases.contains name then
    throw (.database ("Unknown database '" ++ name ++ "'"))

/-- The tables of the database of a data source name. -/
def tablesOf (s : Server) (d : Dsn) : List Catalog.Table :=
  (d.database.bind s.databases.get?).getD []

/-- The names of the schemas. -/
def schemaNames (s : Server) (d : Dsn) : Except Refusal (List String) := do
  s.check .schemas (d.database.getD "")
  return s.schemas

/-- The names of the tables. -/
def tableNames (s : Server) (d : Dsn) : Except Refusal (List String) := do
  s.check .tables (d.database.getD "")
  return (s.tablesOf d).map (·.name)

/-- The name of the database of a data source name; a file always holds the same one. -/
def databaseName (d : Dsn) : String :=
  if d.backend = fileBackend then "main" else d.database.getD ""

/-- The schema of the database of a data source name. -/
def database (s : Server) (d : Dsn) : Except Refusal Database := do
  let _ ← s.tableNames d
  let tables := s.tablesOf d
  tables.forM fun t => s.check .columns t.name
  return .ofTables (databaseName d) (d.backend = fileBackend) tables

end Server

namespace Exchange

open Server

/-- Something happens. -/
def record (e : Event) : Action Exchange Unit :=
  modify fun x => { x with events := x.events ++ [e] }

/-- Ask the server; a refusal fails the action. -/
def ask {α : Type} (action : String) (question : Server → Except Refusal α) : Action Exchange α := do
  match question (← get).server with
  | .ok answer => return answer
  | .error refusal => throw (refusal.fault action)

/-- Open a pool and try it; a pool that does not connect is closed again. -/
def openPool (d : Dsn) : Action Exchange Pool := do
  let action := "connect to " ++ d.shown
  let x ← get
  match x.server.checkPool d with
  | .error refusal =>
    record (.refused d)
    throw (refusal.fault action)
  | .ok () =>
    let pool : Pool := { number := x.events.length, dsn := d }
    record (.opened pool)
    match x.server.checkConnect d with
    | .ok () => return pool
    | .error refusal =>
      record (.closed pool)
      throw (refusal.fault action)

/-- Open a pool for a text. -/
def connect (text : String) : Action Exchange Pool := do
  match Dsn.parse text with
  | .ok d => openPool d
  | .error .malformed => throw (.database ("Failed to parse DSN: " ++ detail))
  | .error .badPort => throw (.foreign .wrongValue)

/-- A pool for another database in place of one; if none can be opened, the old one stays. -/
def bind (pool : Pool) (name : String) : Action Exchange Pool := do
  let fresh ← openPool (pool.dsn.withDatabase name)
  record (.closed pool)
  return fresh

/-- The query for the databases of a server. -/
def databasesQuery : String :=
  "SELECT datname FROM pg_database WHERE NOT datistemplate AND datallowconn ORDER BY datname"

/-- The databases that can be bound. -/
def listDatabases (pool : Pool) : Action Exchange (List String) := do
  let action := "list databases"
  if pool.dsn.backend = catalogBackend then
    ask action (·.checkConnect pool.dsn)
    record (.queried databasesQuery)
    ask action (·.check .catalog (pool.dsn.database.getD ""))
    return (← get).server.catalog
  else
    ask action (·.schemaNames pool.dsn)

/-- The tables of the bound database. -/
def listTables (pool : Pool) : Action Exchange (List String) :=
  ask "list tables" (·.tableNames pool.dsn)

/-- The schema of the bound database. -/
def reflect (pool : Pool) : Action Exchange Database :=
  ask ("reflect database " ++ databaseName pool.dsn) (·.database pool.dsn)

instance : Source Exchange Pool where
  connect := connect
  databaseName pool := databaseName pool.dsn
  bind := bind
  bindReport name := [.info ("Bound database " ++ name)]
  listDatabases := listDatabases
  listTables := listTables
  reflect := reflect
  close pool := record (.closed pool)

end Exchange

end Stencil
