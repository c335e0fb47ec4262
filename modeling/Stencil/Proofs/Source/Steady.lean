import Stencil.Proofs.Action
import Stencil.Proofs.OrderedMap
import Stencil.Source.Memory
import Stencil.Source.Reflection
import Stencil.Source.Server

namespace Stencil

/-!
# What tasks expect of their sources

A source answers at will, and its answers may change from one question to the next. What a task can promise about
its context depends on what its source keeps to: these are the expectations, and both sources of the program meet
them while nobody else changes their databases.

* `Database.mem_tableNames_ofTables`, `Database.table?_ofTables` — a reflected schema has the tables of the catalogue
  and no others, and of two tables of one name, the later one is the one that is found;
* `Source.Keeps` — states that no question leads out of;
* `Source.Steady` — the schema behind a connection does not change;
* `Source.Agreeing` — the listed tables are those of the schema, and neither question fails as bad input;
* `Source.BindsNamed` — a database that is bound by a name has one;
* `Memory.steady`, `Memory.agreeing`, `Exchange.steady`, `Exchange.agreeing` — schemas in memory and servers;
* `Source.Serves`, `Source.Opens` — a connection that always answers, and always in the same way, and a source that always
  opens such ones: it makes no difference to a task whether one was opened for a database or bound it later;
* `Memory.serves`, `Memory.opens`, `Exchange.serves`, `Exchange.opens` — schemas in memory, and servers that do not
  refuse what they are asked.
-/

namespace Database

/-! ### Look-ups in reflected schemas -/

theorem table?_eq_none {d : Database} {name : String} : d.table? name = none ↔ name ∉ d.tableNames := by
  constructor
  · intro h hm
    obtain ⟨t, ht⟩ := OrderedMap.contains_iff_get?.mp (OrderedMap.contains_iff_mem_keys.mpr hm)
    exact absurd (h.symm.trans ht) (by simp)
  · exact OrderedMap.get?_eq_none_of_not_mem

/-! ### Schemas of lists of tables -/

/-- Add a table to the tables that were reflected before it. -/
def addTable (withHidden : Bool) (m : OrderedMap Table) (t : Catalog.Table) : OrderedMap Table :=
  m.put t.name (Table.reflect withHidden t)

theorem tables_ofTables (name : String) (withHidden : Bool) (tables : List Catalog.Table) :
    (ofTables name withHidden tables).tables = tables.foldl (addTable withHidden) [] := rfl

theorem contains_foldl_addTable {withHidden : Bool} {tables : List Catalog.Table} {m : OrderedMap Table}
    {name : String} :
    OrderedMap.contains (tables.foldl (addTable withHidden) m) name = true ↔
      m.contains name = true ∨ name ∈ tables.map (·.name) := by
  induction tables generalizing m with
  | nil => simp
  | cons t tables ih =>
    rw [List.foldl_cons, ih, addTable, OrderedMap.contains_put, List.map_cons, List.mem_cons,
      or_assoc, or_left_comm]

/-- A reflected schema has the tables of the catalogue, and no others. -/
theorem mem_tableNames_ofTables {database : String} {withHidden : Bool} {tables : List Catalog.Table}
    {name : String} : name ∈ (ofTables database withHidden tables).tableNames ↔ name ∈ tables.map (·.name) := by
  show name ∈ OrderedMap.keys (ofTables database withHidden tables).tables ↔ _
  rw [← OrderedMap.contains_iff_mem_keys, tables_ofTables, contains_foldl_addTable]
  simp [OrderedMap.contains]

theorem get?_foldl_addTable {withHidden : Bool} {tables : List Catalog.Table} {m : OrderedMap Table}
    {name : String} (h : name ∉ tables.map (·.name)) :
    OrderedMap.get? (tables.foldl (addTable withHidden) m) name = m.get? name := by
  induction tables generalizing m with
  | nil => rfl
  | cons t tables ih =>
    rw [List.map_cons, List.mem_cons, not_or] at h
    rw [List.foldl_cons, ih h.2, addTable, OrderedMap.get?_put_of_ne m _ h.1]

/-- Under its name, a reflected schema has the last table of that name. -/
theorem table?_ofTables {database : String} {withHidden : Bool} {before after : List Catalog.Table}
    {t : Catalog.Table} (h : t.name ∉ after.map (·.name)) :
    (ofTables database withHidden (before ++ t :: after)).table? t.name =
      some (Table.reflect withHidden t) := by
  show OrderedMap.get? (ofTables database withHidden (before ++ t :: after)).tables t.name = _
  -- What was added before the table is overwritten, and what is added after it has other names.
  rw [tables_ofTables, List.foldl_append, List.foldl_cons, get?_foldl_addTable h, addTable,
    OrderedMap.get?_put_self]

end Database

/-! ### What may be expected of a source -/

/-- Whether a failure means bad input. -/
def Fault.isValidation : Fault → Bool
  | .validation _ _ => true
  | _ => false

namespace Source

variable {σ κ : Type} [Source σ κ]

/-- No question leads out of the known states. -/
structure Keeps (known : σ → Prop) : Prop where
  connect : ∀ dsn s, known s → known (Source.connect dsn s).2
  bind : ∀ (c : κ) name s, known s → known (Source.bind c name s).2
  listDatabases : ∀ (c : κ) s, known s → known (Source.listDatabases c s).2
  listTables : ∀ (c : κ) s, known s → known (Source.listTables c s).2
  reflect : ∀ (c : κ) s, known s → known (Source.reflect c s).2

/-- The schema behind a connection does not change. -/
structure Steady (schema : κ → Database) (known : σ → Prop) : Prop extends Keeps known where
  reflect_ok : ∀ {c s d s'}, known s → Source.reflect c s = (.ok d, s') → d = schema c

/-- The tables that are listed are those of the reflected schema, and neither fails as bad input. -/
structure Agreeing (known : σ → Prop) : Prop extends Keeps known where
  mem_tableNames : ∀ {c s names s₁ s' d s₁'}, known s → known s' →
    Source.listTables c s = (.ok names, s₁) → Source.reflect c s' = (.ok d, s₁') →
    ∀ name, name ∈ names ↔ name ∈ d.tableNames
  listTables_error : ∀ {c : κ} {s s' : σ} {e}, Source.listTables c s = (.error e, s') → e.isValidation = false
  reflect_error : ∀ {c : κ} {s s' : σ} {e}, Source.reflect c s = (.error e, s') → e.isValidation = false

/-- A database that is bound by a name has one. -/
def BindsNamed (σ : Type) {κ : Type} [Source σ κ] : Prop :=
  ∀ (c c' : κ) (name : String) (s s' : σ), name ≠ "" → Source.bind c name s = (.ok c', s') →
    Source.databaseName σ c' ≠ ""

theorem Keeps.of_listTables {known : σ → Prop} (hk : Keeps known) {c : κ} {s s' : σ}
    {names : Except Fault (List String)} (h : known s) (hl : Source.listTables c s = (names, s')) : known s' := by
  simpa only [hl] using hk.listTables c s h

theorem Keeps.of_reflect {known : σ → Prop} (hk : Keeps known) {c : κ} {s s' : σ} {d : Except Fault Database}
    (h : known s) (hr : Source.reflect c s = (d, s')) : known s' := by
  simpa only [hr] using hk.reflect c s h

theorem Keeps.of_connect {known : σ → Prop} (hk : Keeps known) {dsn : String} {s s' : σ} {c : Except Fault κ}
    (h : known s) (hc : Source.connect dsn s = (c, s')) : known s' := by
  simpa only [hc] using hk.connect dsn s h

end Source

/-! ### Schemas in memory -/

namespace Memory

theorem database_apply (name : String) (m : Memory) :
    database name m = ((m.databases.get? name).elim (.error (.foreign .missingKey)) .ok, m) := by
  cases h : m.databases.get? name <;> simp [database, Action.bind_apply, h]

theorem listTables_apply (name : String) (m : Memory) :
    Source.listTables name m =
      (if name = "" then .error (.database "No database selected")
       else (m.databases.get? name).elim (.error (.foreign .missingKey)) fun d => .ok d.tableNames, m) := by
  by_cases hn : name = ""
  · simp [Source.listTables, checkBound, Action.bind_apply, hn]
  · cases h : m.databases.get? name <;>
      simp [Source.listTables, checkBound, Action.bind_apply, Action.map_apply, database_apply, hn, h, Except.map]

theorem reflect_apply (name : String) (m : Memory) :
    Source.reflect name m =
      if name = "" then (.error (.database "No database selected"), m)
      else ((m.databases.get? name).elim (.error (.foreign .missingKey)) .ok,
        { m with reflections := m.reflections + 1 }) := by
  by_cases hn : name = ""
  · simp [Source.reflect, checkBound, Action.bind_apply, hn]
  · simp [Source.reflect, checkBound, Action.bind_apply, database_apply, hn]

theorem bind_apply (c name : String) (m : Memory) :
    Source.bind c name m =
      (if m.databases.contains name then .ok name else .error (.database ("Unknown database " ++ name)), m) := by
  by_cases h : m.databases.contains name = true <;> simp [Source.bind, bind, Action.bind_apply, h]

theorem databases_bind (c name : String) (m : Memory) : (Source.bind c name m).2.databases = m.databases := by
  rw [bind_apply]

theorem databases_reflect (name : String) (m : Memory) :
    (Source.reflect name m).2.databases = m.databases := by
  rw [reflect_apply]
  split <;> rfl

theorem keeps (databases : OrderedMap Database) :
    Source.Keeps (fun m : Memory => m.databases = databases) where
  connect _ _ h := h
  bind c name m h := (databases_bind c name m).trans h
  listDatabases _ _ h := h
  listTables c m h := by
    rw [listTables_apply]
    exact h
  reflect c m h := (databases_reflect c m).trans h

/-- While the schemas in memory are the same, so is the schema behind each connection. -/
theorem steady (databases : OrderedMap Database) :
    Source.Steady (fun name => (databases.get? name).getD default) (fun m : Memory => m.databases = databases) where
  toKeeps := keeps databases
  reflect_ok {c m d m'} h hr := by
    rw [reflect_apply, h] at hr
    split at hr
    · cases hr
    · cases hd : databases.get? c with
      | none =>
        rw [hd] at hr
        cases hr
      | some schema =>
        rw [hd] at hr
        cases hr
        rfl

/-- While the schemas in memory are the same, the listed tables are those of the schema. -/
theorem agreeing (databases : OrderedMap Database) :
    Source.Agreeing (fun m : Memory => m.databases = databases) where
  toKeeps := keeps databases
  -- Tables are listed and told from one and the same schema, if the database has one.
  mem_tableNames {c m names m₁ m' d m₁'} h h' hl hr name := by
    rw [listTables_apply, h] at hl
    rw [reflect_apply, h'] at hr
    by_cases hc : c = ""
    · rw [if_pos hc] at hl
      cases hl
    · rw [if_neg hc] at hl hr
      cases hd : databases.get? c with
      | none =>
        rw [hd] at hl
        cases hl
      | some schema =>
        rw [hd] at hl hr
        cases hl
        cases hr
        exact Iff.rfl
  listTables_error {c m m' e} hl := by
    rw [listTables_apply] at hl
    by_cases hc : c = ""
    · rw [if_pos hc] at hl
      cases hl
      rfl
    · rw [if_neg hc] at hl
      cases hd : m.databases.get? c <;> rw [hd] at hl <;> cases hl
      rfl
  reflect_error {c m m' e} hr := by
    rw [reflect_apply] at hr
    by_cases hc : c = ""
    · rw [if_pos hc] at hr
      cases hr
      rfl
    · rw [if_neg hc] at hr
      cases hd : m.databases.get? c <;> rw [hd] at hr <;> cases hr
      rfl

/-- A database in memory has the name by which it is bound. -/
theorem bindsNamed : Source.BindsNamed Memory := by
  intro c c' name m m' hn hb
  rw [bind_apply] at hb
  split at hb <;> cases hb
  exact hn

end Memory

/-! ### Servers -/

namespace Exchange

open Server

theorem ask_apply {α : Type} (action : String) (question : Server → Except Refusal α) (x : Exchange) :
    ask action question x = (match question x.server with
      | .ok answer => .ok answer
      | .error refusal => .error (refusal.fault action), x) := by
  cases h : question x.server <;> simp [ask, Action.bind_apply, h]

theorem isValidation_fault (action : String) (refusal : Refusal) : (refusal.fault action).isValidation = false := by
  cases refusal <;> rfl

theorem server_openPool (d : Dsn) (x : Exchange) : (openPool d x).2.server = x.server := by
  cases hp : x.server.checkPool d with
  | error refusal => simp [openPool, record, Action.bind_apply, hp]
  | ok =>
    cases hc : x.server.checkConnect d <;> simp [openPool, record, Action.bind_apply, hp, hc]

theorem dsn_of_openPool {d : Dsn} {x x' : Exchange} {pool : Pool} (h : openPool d x = (.ok pool, x')) :
    pool.dsn = d := by
  cases hp : x.server.checkPool d with
  | error refusal =>
    simp only [openPool, record, Action.bind_apply, Action.get_apply, Action.modify_apply, Action.throw_apply, hp] at h
    cases h
  | ok =>
    cases hc : x.server.checkConnect d <;>
      simp only [openPool, record, Action.bind_apply, Action.get_apply, Action.modify_apply, Action.throw_apply,
        Action.pure_apply, hp, hc] at h <;> cases h
    rfl

/-- A database on a server has the name by which it is bound, or that of a file. -/
theorem bindsNamed : Source.BindsNamed Exchange := by
  intro pool pool' name x x' hn hb
  have hb : bind pool name x = (.ok pool', x') := hb
  obtain ⟨fresh, x₁, hopen, hb⟩ := Action.bind_eq_ok.mp hb
  obtain ⟨_, x₂, -, hb⟩ := Action.bind_eq_ok.mp hb
  cases hb
  show databaseName pool'.dsn ≠ ""
  rw [dsn_of_openPool hopen, databaseName]
  split
  · decide
  · exact hn

theorem server_connect (dsn : String) (x : Exchange) : (Source.connect dsn x).2.server = x.server := by
  show (connect dsn x).2.server = x.server
  cases h : Dsn.parse dsn with
  | ok d => simp [connect, h, server_openPool]
  | error e => cases e <;> simp [connect, h]

theorem server_bind (pool : Pool) (name : String) (x : Exchange) :
    (Source.bind pool name x).2.server = x.server := by
  have h := server_openPool (pool.dsn.withDatabase name) x
  show (bind pool name x).2.server = x.server
  rcases hp : openPool (pool.dsn.withDatabase name) x with ⟨_ | _, x'⟩ <;> rw [hp] at h <;>
    simpa [bind, record, Action.bind_apply, Action.map_apply, hp] using h

theorem server_listDatabases (pool : Pool) (x : Exchange) :
    (Source.listDatabases pool x).2.server = x.server := by
  show (listDatabases pool x).2.server = x.server
  by_cases hb : pool.dsn.backend = catalogBackend
  · cases hc : x.server.checkConnect pool.dsn <;>
      cases hq : x.server.check .catalog (pool.dsn.database.getD "") <;>
      simp [listDatabases, record, Action.bind_apply, Action.map_apply, ask_apply, hb, hc, hq]
  · simp [listDatabases, ask_apply, hb]

theorem keeps (server : Server) : Source.Keeps (fun x : Exchange => x.server = server) where
  connect dsn x h := (server_connect dsn x).trans h
  bind pool name x h := (server_bind pool name x).trans h
  listDatabases pool x h := (server_listDatabases pool x).trans h
  listTables pool x h := by
    show (listTables pool x).2.server = server
    rw [listTables, ask_apply, h]
  reflect pool x h := by
    show (reflect pool x).2.server = server
    rw [reflect, ask_apply, h]

/-- The schema of the database of a data source name, whether or not the server would tell it. -/
def schemaOf (server : Server) (d : Dsn) : Database :=
  .ofTables (databaseName d) (d.backend = fileBackend) (server.tablesOf d)

theorem tableNames_ok {server : Server} {d : Dsn} {names : List String} (h : server.tableNames d = .ok names) :
    names = (server.tablesOf d).map (·.name) := by
  unfold tableNames at h
  cases hc : server.check .tables (d.database.getD "") <;> rw [hc] at h <;> cases h
  rfl

theorem database_ok {server : Server} {d : Dsn} {schema : Database} (h : server.database d = .ok schema) :
    schema = schemaOf server d := by
  unfold Server.database at h
  cases ht : server.tableNames d with
  | error e =>
    rw [ht] at h
    cases h
  | ok names =>
    cases hc : (server.tablesOf d).forM fun t => server.check .columns t.name <;>
      simp only [ht, hc] at h <;> cases h
    rfl

theorem listTables_ok {pool : Pool} {x x' : Exchange} {names : List String}
    (h : Source.listTables pool x = (.ok names, x')) : names = (x.server.tablesOf pool.dsn).map (·.name) := by
  have h : listTables pool x = (.ok names, x') := h
  rw [listTables, ask_apply] at h
  cases ht : x.server.tableNames pool.dsn with
  | error e =>
    rw [ht] at h
    cases h
  | ok names' =>
    rw [ht] at h
    cases h
    exact tableNames_ok ht

theorem reflect_ok {pool : Pool} {x x' : Exchange} {schema : Database}
    (h : Source.reflect pool x = (.ok schema, x')) : schema = schemaOf x.server pool.dsn := by
  have h : reflect pool x = (.ok schema, x') := h
  rw [reflect, ask_apply] at h
  cases ht : x.server.database pool.dsn with
  | error e =>
    rw [ht] at h
    cases h
  | ok schema' =>
    rw [ht] at h
    cases h
    exact database_ok ht

/-- While the catalogue of a server is the same, so is the schema behind each connection. -/
theorem steady (server : Server) :
    Source.Steady (fun pool : Pool => schemaOf server pool.dsn) (fun x : Exchange => x.server = server) where
  toKeeps := keeps server
  reflect_ok h hr := h ▸ reflect_ok hr

theorem isValidation_ask {α : Type} {action : String} {question : Server → Except Refusal α} {x x' : Exchange}
    {e : Fault} (h : ask action question x = (.error e, x')) : e.isValidation = false := by
  rw [ask_apply] at h
  cases hq : question x.server <;> rw [hq] at h <;> cases h
  exact isValidation_fault _ _

/-- While the catalogue of a server is the same, the listed tables are those of the schema. -/
theorem agreeing (server : Server) : Source.Agreeing (fun x : Exchange => x.server = server) where
  toKeeps := keeps server
  mem_tableNames h h' hl hr name := by
    -- Both answers are read off the same catalogue.
    rw [listTables_ok hl, reflect_ok hr, h, h', schemaOf, Database.mem_tableNames_ofTables]
  listTables_error {pool x x' e} hl := by
    have hl : listTables pool x = (.error e, x') := hl
    exact isValidation_ask hl
  reflect_error {pool x x' e} hr := by
    have hr : reflect pool x = (.error e, x') := hr
    exact isValidation_ask hr

end Exchange

/-! ### Connections that serve -/

namespace Source

variable {σ κ : Type} [Source σ κ]

/-- A connection that always tells the same tables and the same schema. -/
structure Serves (known : σ → Prop) (c : κ) (names : List String) (schema : Database) : Prop where
  listTables : ∀ {s}, known s → ∃ s', known s' ∧ Source.listTables c s = (.ok names, s')
  reflect : ∀ {s}, known s → ∃ s', known s' ∧ Source.reflect c s = (.ok schema, s')

/-- Binding a database over a connection always gives one that has it as its database, and serves. -/
def Opens (known : σ → Prop) (c : κ) (database : String) (names : List String) (schema : Database) : Prop :=
  ∀ {s}, known s → ∃ c' s', known s' ∧ Source.bind c database s = (.ok c', s') ∧
    Source.databaseName σ c' = database ∧ Serves known c' names schema

variable {known : σ → Prop} {c : κ} {names : List String} {schema : Database}

theorem Serves.of_reflect (h : Serves known c names schema) {s s' : σ} {r : Except Fault Database} (hs : known s)
    (hr : Source.reflect c s = (r, s')) : r = .ok schema ∧ known s' := by
  obtain ⟨s₁, hs₁, hr'⟩ := h.reflect hs
  obtain ⟨rfl, rfl⟩ := Prod.mk.inj (hr.symm.trans hr')
  exact ⟨rfl, hs₁⟩

end Source

/-! ### Schemas in memory that serve -/

namespace Memory

variable {databases : OrderedMap Database} {name : String} {schema : Database}

/-- While the schemas in memory are the same, a connection to one of them serves. -/
theorem serves (hn : name ≠ "") (h : databases.get? name = some schema) :
    Source.Serves (fun m : Memory => m.databases = databases) name schema.tableNames schema where
  listTables {m} hm := by
    refine ⟨m, hm, ?_⟩
    rw [listTables_apply, if_neg hn, hm, h]
    rfl
  reflect {m} hm := by
    refine ⟨{ m with reflections := m.reflections + 1 }, hm, ?_⟩
    rw [reflect_apply, if_neg hn, hm, h]
    rfl

theorem opens (c : String) (hn : name ≠ "") (h : databases.get? name = some schema) :
    Source.Opens (fun m : Memory => m.databases = databases) c name schema.tableNames schema := by
  intro m hm
  refine ⟨name, m, hm, ?_, rfl, serves hn h⟩
  rw [bind_apply, hm, if_pos (OrderedMap.contains_iff_get?.mpr ⟨schema, h⟩)]

end Memory

/-! ### Servers that serve -/

namespace Exchange

open Server

variable {server : Server} {pool : Pool} {name : String} {names : List String} {schema : Database}

/-- A pool serves if its server refuses neither the tables nor the schema of its database. -/
theorem serves (hn : server.tableNames pool.dsn = .ok names) (hs : server.database pool.dsn = .ok schema) :
    Source.Serves (fun x : Exchange => x.server = server) pool names schema where
  listTables {x} hx := by
    refine ⟨x, hx, ?_⟩
    show listTables pool x = _
    rw [listTables, ask_apply, hx, hn]
  reflect {x} hx := by
    refine ⟨x, hx, ?_⟩
    show reflect pool x = _
    rw [reflect, ask_apply, hx, hs]

/-- Binding a database gives a pool that serves, if the server lets a pool connect to the database and refuses neither
its tables nor its schema. -/
theorem opens (hp : server.checkPool (pool.dsn.withDatabase name) = .ok ())
    (hc : server.checkConnect (pool.dsn.withDatabase name) = .ok ())
    (hd : databaseName (pool.dsn.withDatabase name) = name)
    (hn : server.tableNames (pool.dsn.withDatabase name) = .ok names)
    (hs : server.database (pool.dsn.withDatabase name) = .ok schema) :
    Source.Opens (fun x : Exchange => x.server = server) pool name names schema := by
  intro x hx
  let fresh : Pool := { number := x.events.length, dsn := pool.dsn.withDatabase name }
  refine ⟨fresh, { x with events := x.events ++ [.opened fresh] ++ [.closed pool] }, hx, ?_, hd, serves hn hs⟩
  show bind pool name x = _
  simp [bind, openPool, record, Action.bind_apply, Action.map_apply, hx, hp, hc, fresh, Except.map]

end Exchange

end Stencil
