import Mathlib.Data.List.Forall2
import Stencil.Proofs.Source.Steady

namespace Stencil

/-!
# Reflected columns

What a reflected table lists as its columns should be the columns of the catalogue, one by one and in order. This is
so for tables without unique constraints, and for almost no others: the columns of a constraint take the place of those
of the table.

* `Column.Describes`, `Faithful` — what a faithful description of a column, and of all columns, says;
* `faithful_columnEntries` — the tables whose columns are described faithfully;
* `Exchange.reflect_of_answered` — a server that refuses nothing tells the schema of its database;
* `Exchange.columns_of_reflected` — what is known of the columns of each table of that schema.
-/

/-- A faithful description of a column of a table says what the catalogue says. -/
structure Column.Describes (t : Catalog.Table) (c : Catalog.Column) (column : Column) : Prop where
  name : column.name = c.name
  table : column.table = t.name
  dataType : column.dataType = c.type.name
  nullable : column.nullable = c.nullable.isTrue
  noDefault : column.default = none ↔ c.default = .none
  default : ∀ text, column.default = some text → text = c.default.text
  autoincrement : column.autoincrement = true ↔ c.autoincrement = .bool true
  comment : column.comment = c.comment
  primaryKey : column.primaryKey = true ↔ c.name ∈ t.primaryKey

/-- All columns of a table are described in full, one by one and in order. -/
def Faithful (t : Catalog.Table) (entries : List ColumnEntry) : Prop :=
  List.Forall₂ (fun c e => ∃ column, e = .column column ∧ Column.Describes t c column) t.columns entries

/-! ### Tables -/

theorem Column.defaultText_eq_none {v : Value} : defaultText v = none ↔ v = .none := by
  cases v <;> simp [defaultText]

theorem Column.defaultText_eq_some {v : Value} {text : String} (h : defaultText v = some text) :
    text = v.text := by
  cases v <;> simp [defaultText] at h <;> exact h.symm

theorem Column.describes_reflect (t : Catalog.Table) (c : Catalog.Column) :
    Describes t c (reflect t.name t.primaryKey c) where
  name := rfl
  table := rfl
  dataType := rfl
  nullable := rfl
  noDefault := defaultText_eq_none
  default _ h := defaultText_eq_some h
  autoincrement := by cases h : c.autoincrement <;> simp [reflect, h]
  comment := rfl
  primaryKey := by simp [reflect]

/-- The columns of a table are described faithfully if it has no unique constraint, and else only if there is nothing
to describe. -/
theorem faithful_columnEntries {t : Catalog.Table} :
    Faithful t (Table.columnEntries t) ↔
      t.uniques = [] ∨ t.columns = [] ∧ ∃ u, t.uniques.getLast? = some u ∧ u.columns = [] := by
  unfold Faithful Table.columnEntries
  cases hu : t.uniques.getLast? with
  | none =>
    refine ⟨fun _ => .inl (List.getLast?_eq_none_iff.mp hu), fun _ => ?_⟩
    rw [List.forall₂_map_right_iff, List.forall₂_same]
    exact fun c _ => ⟨_, rfl, Column.describes_reflect t c⟩
  | some u =>
    have hne : t.uniques ≠ [] := fun he => by
      rw [he] at hu
      cases hu
    simp only [hne, Option.some.injEq, false_or, exists_eq_left']
    constructor
    · intro h
      -- A name alone describes no column, so there are neither names nor columns.
      cases hc : t.columns with
      | nil =>
        rw [hc, List.forall₂_nil_left_iff, List.map_eq_nil_iff] at h
        exact ⟨rfl, h⟩
      | cons c columns =>
        cases hn : u.columns with
        | nil =>
          rw [hc, hn] at h
          cases h
        | cons name names =>
          rw [hc, hn] at h
          obtain ⟨⟨column, he, -⟩, -⟩ := List.forall₂_cons.mp h
          cases he
    · rintro ⟨hc, hn⟩
      rw [hc, hn]
      exact .nil

/-- The columns of a table do not depend on its indexes, its foreign keys and its comment. -/
theorem columnEntries_congr {t t' : Catalog.Table} (hname : t'.name = t.name)
    (hkey : t'.primaryKey = t.primaryKey) (hcolumns : t'.columns = t.columns) (huniques : t'.uniques = t.uniques) :
    Table.columnEntries t' = Table.columnEntries t := by
  rw [Table.columnEntries, Table.columnEntries, hname, hkey, hcolumns, huniques]

/-! ### Servers that answer -/

namespace Exchange

open Server

theorem check_of_not_refused {server : Server} {r : Request} {subject : String}
    (h : server.refusal? r subject = none) : server.check r subject = .ok () := by
  rw [check, h]

theorem forM_check_columns {server : Server} {tables : List Catalog.Table}
    (h : ∀ t ∈ tables, server.refusal? .columns t.name = none) :
    tables.forM (fun t => server.check .columns t.name) = .ok () := by
  induction tables with
  | nil => rfl
  | cons t tables ih =>
    rw [List.forall_mem_cons] at h
    show (server.check .columns t.name >>= fun _ => tables.forM fun t => server.check .columns t.name) = _
    rw [check_of_not_refused h.1]
    exact ih h.2

/-- A server that refuses neither to list its tables nor to tell their columns tells the schema of its database. -/
theorem reflect_of_answered {pool : Pool} {x : Exchange}
    (htables : x.server.refusal? .tables (pool.dsn.database.getD "") = none)
    (hcolumns : ∀ t ∈ x.server.tablesOf pool.dsn, x.server.refusal? .columns t.name = none) :
    Source.reflect pool x = (.ok (schemaOf x.server pool.dsn), x) := by
  have hnames : x.server.tableNames pool.dsn = .ok ((x.server.tablesOf pool.dsn).map (·.name)) := by
    rw [tableNames, check_of_not_refused htables]
    rfl
  have hschema : x.server.database pool.dsn = .ok (schemaOf x.server pool.dsn) := by
    simp only [Server.database, hnames, forM_check_columns hcolumns]
    rfl
  show reflect pool x = _
  rw [reflect, ask_apply, hschema]

/-- **Columns are faithful without unique constraints.** Where a server answers, every table that it lists is in the
schema under its name. Its columns are described faithfully if it has no unique constraint, and otherwise only if there
is nothing to describe: then they are the names of the columns of the last constraint. They do not depend on
indexes, foreign keys and comments. -/
theorem columns_of_reflected (pool : Pool) (x : Exchange)
    (htables : x.server.refusal? .tables (pool.dsn.database.getD "") = none)
    (hcolumns : ∀ t ∈ x.server.tablesOf pool.dsn, x.server.refusal? .columns t.name = none) :
    ∃ schema, Source.reflect pool x = (.ok schema, x) ∧
      ∀ before t after, x.server.tablesOf pool.dsn = before ++ t :: after → t.name ∉ after.map (·.name) →
        ∃ table, schema.table? t.name = some table ∧ table.name = t.name ∧
          (Faithful t table.columns ↔
            t.uniques = [] ∨ t.columns = [] ∧ ∃ u, t.uniques.getLast? = some u ∧ u.columns = []) ∧
          (∀ u, t.uniques.getLast? = some u → table.columns = u.columns.map .bare) ∧
          ∀ withHidden t', t'.name = t.name → t'.primaryKey = t.primaryKey → t'.columns = t.columns →
            t'.uniques = t.uniques → (Table.reflect withHidden t').columns = table.columns := by
  refine ⟨_, reflect_of_answered htables hcolumns, fun before t after hsplit hlast => ?_⟩
  refine ⟨Table.reflect (pool.dsn.backend = fileBackend) t, ?_, rfl, faithful_columnEntries, fun u hu => ?_,
    fun _ t' hname hkey hcols huniques => columnEntries_congr hname hkey hcols huniques⟩
  · rw [schemaOf, hsplit]
    exact Database.table?_ofTables hlast
  · show Table.columnEntries t = _
    rw [Table.columnEntries, hu]

/-! ### A shop with a constraint -/

namespace Shop

/-- A table whose second column is unique. -/
def customers : Catalog.Table where
  name := "customers"
  primaryKey := ["id"]
  columns := [{ name := "id", type := .text "INTEGER" }, { name := "email", type := .text "TEXT" }]
  uniques := [{ name := some "uq_email", columns := ["email"] }]

/-- A table without constraints. -/
def orders : Catalog.Table where
  name := "orders"
  primaryKey := ["id"]
  columns := [{ name := "id", type := .text "INTEGER" }, { name := "customer", type := .text "INTEGER" }]

/-- A server with both tables. -/
def exchange : Exchange :=
  { server := { databases := [("shop", [customers, orders])] } }

/-- A connection to it. -/
def pool : Pool :=
  { number := 0, dsn := { driver := "mysql", database := some "shop" } }

end Shop

theorem columns_of_reflected_shop :
    ∃ schema table, Source.reflect Shop.pool Shop.exchange = (.ok schema, Shop.exchange) ∧
      schema.table? "orders" = some table ∧ Faithful Shop.orders table.columns := by
  obtain ⟨schema, hr, htables⟩ :=
    columns_of_reflected Shop.pool Shop.exchange rfl fun _ _ => rfl
  obtain ⟨table, ht, -, hfaithful, -⟩ := htables [Shop.customers] Shop.orders [] rfl (by simp)
  exact ⟨schema, table, hr, ht, hfaithful.mpr (.inl rfl)⟩

/-- The columns of a table with a unique constraint are not described: there is but one entry for two of them. -/
theorem columns_lost_in_shop :
    ∃ schema table, Source.reflect Shop.pool Shop.exchange = (.ok schema, Shop.exchange) ∧
      schema.table? "customers" = some table ∧ table.columns = [.bare "email"] ∧
      ¬ Faithful Shop.customers table.columns := by
  refine ⟨_, _, rfl, rfl, rfl, fun h => ?_⟩
  have hlength := List.Forall₂.length_eq h
  revert hlength
  decide

end Exchange

end Stencil
