import Stencil.Proofs.Source.Columns
import Stencil.Task.Context

namespace Stencil

/-!
# Reflected foreign keys

A foreign key is told once by a server, as a key of the table that has it. Templates see it from both ends: the table
that has it lists it among its own keys, and the table that it refers to among the keys of others. If no two tables
share a name, each end has exactly its keys, in the order in which they were told.

* `Constraint.Describes`, `Described` — what a full description of a key, and of a list of keys, says;
* `Catalog.foreignKeys_of_owner` — the keys of a table among those of all tables;
* `Database.constraintsOf_ofTables` — the keys that touch a table, as the catalogue has them;
* `Exchange.foreign_keys_of_bound` — what a binding knows of the keys of its table.
-/

/-- The foreign keys of a list of tables, each with the table that has it, in the order of the tables. -/
def Catalog.foreignKeys (tables : List Catalog.Table) : List (Catalog.Table × Catalog.ForeignKey) :=
  tables.flatMap fun t => t.foreignKeys.map (t, ·)

/-- A full description of a foreign key of a table says what the catalogue says. A key without a name is named for its
table and its columns. -/
structure Constraint.Describes (t : Catalog.Table) (k : Catalog.ForeignKey) (c : Constraint) : Prop where
  name : ∀ name, k.name = some name → name ≠ "" → c.name = name
  unnamed : k.name.getD "" = "" → c.name = "fk_" ++ t.name ++ "_" ++ Text.joined "_" k.columns
  localTable : c.localTable = t.name
  localColumns : c.localColumns = k.columns
  foreignTable : c.foreignTable = k.referredTable
  foreignColumns : c.foreignColumns = k.referredColumns
  onUpdate : c.onUpdate = k.onUpdate
  onDelete : c.onDelete = k.onDelete

/-- The keys are described in full, one by one and in order. -/
def Described (keys : List (Catalog.Table × Catalog.ForeignKey)) (constraints : List Constraint) : Prop :=
  List.Forall₂ (fun e c => Constraint.Describes e.1 e.2 c) keys constraints

/-! ### Keys of a catalogue -/

theorem Constraint.describes_reflect (t : Catalog.Table) (k : Catalog.ForeignKey) :
    Describes t k (reflect t.name k) where
  name name hname hne := by simp [reflect, nameFor, hname, hne]
  unnamed h := by
    cases hname : k.name with
    | none => simp [reflect, nameFor, nameFor.unnamed, hname]
    | some name =>
      have hempty : name = "" := by simpa [hname] using h
      simp [reflect, nameFor, nameFor.unnamed, hname, hempty]
  localTable := rfl
  localColumns := rfl
  foreignTable := rfl
  foreignColumns := rfl
  onUpdate := rfl
  onDelete := rfl

theorem described_map_reflect (keys : List (Catalog.Table × Catalog.ForeignKey)) :
    Described keys (keys.map fun e => Constraint.reflect e.1.name e.2) := by
  rw [Described, List.forall₂_map_right_iff, List.forall₂_same]
  exact fun e _ => Constraint.describes_reflect e.1 e.2

theorem Catalog.mem_foreignKeys {tables : List Catalog.Table} {e : Catalog.Table × Catalog.ForeignKey} :
    e ∈ foreignKeys tables ↔ e.1 ∈ tables ∧ e.2 ∈ e.1.foreignKeys := by
  obtain ⟨t, k⟩ := e
  simp only [foreignKeys, List.mem_flatMap, List.mem_map, Prod.mk.injEq]
  constructor
  · rintro ⟨u, hu, k', hk, rfl, rfl⟩
    exact ⟨hu, hk⟩
  · exact fun ⟨ht, hk⟩ => ⟨t, ht, k, hk, rfl, rfl⟩

/-- Where names differ, the keys of a table among those of all tables are the ones that it lists. -/
theorem Catalog.foreignKeys_of_owner {tables : List Catalog.Table} {t : Catalog.Table}
    (hnames : (tables.map (·.name)).Nodup) (ht : t ∈ tables) :
    (foreignKeys tables).filter (fun e => e.1.name == t.name) = t.foreignKeys.map (t, ·) := by
  obtain ⟨before, after, rfl⟩ := List.append_of_mem ht
  simp only [List.map_append, List.map_cons, List.nodup_append, List.nodup_cons, List.mem_cons] at hnames
  obtain ⟨-, ⟨hafter, -⟩, hbefore⟩ := hnames
  -- No key of a table of another name is kept.
  have hother : ∀ others : List Catalog.Table, t.name ∉ others.map (·.name) →
      (foreignKeys others).filter (fun e => e.1.name == t.name) = [] := fun others h => by
    rw [List.filter_eq_nil_iff]
    intro e he hname
    exact h (List.mem_map.mpr ⟨e.1, (mem_foreignKeys.mp he).1, beq_iff_eq.mp hname⟩)
  have hsplit : foreignKeys (before ++ t :: after) =
      foreignKeys before ++ (t.foreignKeys.map (t, ·) ++ foreignKeys after) := by
    simp [foreignKeys]
  rw [hsplit, List.filter_append, List.filter_append, hother before, hother after hafter, List.nil_append,
    List.append_nil, List.filter_eq_self]
  · intro e he
    obtain ⟨k, -, rfl⟩ := List.mem_map.mp he
    exact beq_self_eq_true t.name
  · exact fun h => hbefore t.name h t.name (.inl rfl) rfl

/-! ### Keys of a schema -/

namespace Database

variable {database table : String} {withHidden : Bool} {tables : List Catalog.Table}

theorem constraints_ofTables : (ofTables database withHidden tables).constraints =
    (Catalog.foreignKeys tables).map fun e => Constraint.reflect e.1.name e.2 := by
  simp [ofTables, Catalog.foreignKeys, List.map_flatMap, Function.comp_def]

/-- The keys that touch a table are those of the catalogue that do, in their order. -/
theorem constraintsOf_ofTables (side : Option Side) : (ofTables database withHidden tables).constraintsOf table side =
    ((Catalog.foreignKeys tables).filter fun e => (Constraint.reflect e.1.name e.2).touches table side).map
      fun e => Constraint.reflect e.1.name e.2 := by
  rw [constraintsOf, constraints_ofTables, List.filter_map]
  rfl

theorem described_constraintsOf {side : Option Side} {touches : Catalog.Table × Catalog.ForeignKey → Bool}
    (h : ∀ e, (Constraint.reflect e.1.name e.2).touches table side = touches e) :
    Described ((Catalog.foreignKeys tables).filter touches)
      ((ofTables database withHidden tables).constraintsOf table side) := by
  simp only [constraintsOf_ofTables, h]
  exact described_map_reflect _

/-- A key touches a table without regard to sides if it touches it on either side. -/
theorem mem_constraintsOf_iff {d : Database} {c : Constraint} :
    c ∈ d.constraintsOf table ↔
      c ∈ d.constraintsOf table (some .localSide) ∨ c ∈ d.constraintsOf table (some .foreignSide) := by
  simp only [constraintsOf, List.mem_filter, Constraint.touches, Bool.or_eq_true]
  exact and_or_left

/-- A table that is listed under a name of its own can be bound. -/
theorem create_ofTables {t : Catalog.Table} (hnames : (tables.map (·.name)).Nodup) (ht : t ∈ tables) (now : DateTime) :
    ∃ b, Binding.create (ofTables database withHidden tables) t.name now = .ok b ∧
      b.constraintsLocal = (ofTables database withHidden tables).constraintsOf t.name (some .localSide) ∧
      b.constraintsForeign = (ofTables database withHidden tables).constraintsOf t.name (some .foreignSide) := by
  obtain ⟨before, after, rfl⟩ := List.append_of_mem ht
  have hlast : t.name ∉ after.map (·.name) := by
    rw [List.map_append, List.map_cons] at hnames
    exact (List.nodup_cons.mp (List.nodup_append.mp hnames).2.1).1
  rw [Binding.create, table?_ofTables hlast]
  exact ⟨_, rfl, rfl, rfl⟩

end Database

/-! ### Bindings -/

namespace Exchange

/-- **Foreign keys are told from both ends.** Where a server answers, and no two of its tables share a name, every
table that it lists can be bound. The own keys of the binding are those that the server tells of the table, and its
foreign ones are the keys of all tables that refer to it, each described in full and in order; a key from a table to
itself is among both. The keys that touch the table, whichever end it is on, are told once each. -/
theorem foreign_keys_of_bound (pool : Server.Pool) (x : Exchange)
    (htables : x.server.refusal? .tables (pool.dsn.database.getD "") = none)
    (hcolumns : ∀ t ∈ x.server.tablesOf pool.dsn, x.server.refusal? .columns t.name = none)
    (hnames : ((x.server.tablesOf pool.dsn).map (·.name)).Nodup) :
    ∃ schema, Source.reflect pool x = (.ok schema, x) ∧
      Described (Catalog.foreignKeys (x.server.tablesOf pool.dsn)) schema.constraints ∧
      ∀ t ∈ x.server.tablesOf pool.dsn, ∀ now, ∃ b, Binding.create schema t.name now = .ok b ∧
        Described (t.foreignKeys.map (t, ·)) b.constraintsLocal ∧
        Described ((Catalog.foreignKeys (x.server.tablesOf pool.dsn)).filter fun e => e.2.referredTable == t.name)
          b.constraintsForeign ∧
        (∀ k ∈ t.foreignKeys, k.referredTable = t.name →
          ∃ c, Constraint.Describes t k c ∧ c ∈ b.constraintsLocal ∧ c ∈ b.constraintsForeign) ∧
        Described ((Catalog.foreignKeys (x.server.tablesOf pool.dsn)).filter fun e =>
          e.1.name == t.name || e.2.referredTable == t.name) (schema.constraintsOf t.name) ∧
        b.constraintsLocal = schema.constraintsOf t.name (some .localSide) ∧
        b.constraintsForeign = schema.constraintsOf t.name (some .foreignSide) ∧
        ∀ c, c ∈ schema.constraintsOf t.name ↔ c ∈ b.constraintsLocal ∨ c ∈ b.constraintsForeign := by
  refine ⟨_, reflect_of_answered htables hcolumns, ?_, fun t ht now => ?_⟩
  · rw [schemaOf, Database.constraints_ofTables]
    exact described_map_reflect _
  -- The names of the tables differ, so the keys of a table can be told by its name.
  obtain ⟨b, hb, hlocal, hforeign⟩ := Database.create_ofTables hnames ht now
  refine ⟨b, hb, ?_, ?_, fun k hk hself => ?_, ?_, hlocal, hforeign, fun c => ?_⟩
  · rw [hlocal, ← Catalog.foreignKeys_of_owner hnames ht]
    exact Database.described_constraintsOf fun _ => rfl
  · rw [hforeign]
    exact Database.described_constraintsOf fun _ => rfl
  · have hmem : (t, k) ∈ Catalog.foreignKeys (x.server.tablesOf pool.dsn) := Catalog.mem_foreignKeys.mpr ⟨ht, hk⟩
    refine ⟨_, Constraint.describes_reflect t k, ?_, ?_⟩
    · rw [hlocal, Database.constraintsOf_ofTables]
      exact List.mem_map.mpr ⟨(t, k), List.mem_filter.mpr ⟨hmem, beq_self_eq_true t.name⟩, rfl⟩
    · rw [hforeign, Database.constraintsOf_ofTables]
      exact List.mem_map.mpr ⟨(t, k), List.mem_filter.mpr ⟨hmem, beq_iff_eq.mpr hself⟩, rfl⟩
  · exact Database.described_constraintsOf fun _ => rfl
  · rw [hlocal, hforeign]
    exact Database.mem_constraintsOf_iff

/-! ### A shop with a tree of categories -/

namespace Shop

/-- A table that refers to itself. -/
def categories : Catalog.Table where
  name := "categories"
  foreignKeys := [{ columns := ["parent"], referredTable := "categories", referredColumns := ["id"] }]

/-- A table that refers twice to another one. -/
def products : Catalog.Table where
  name := "products"
  foreignKeys :=
    [{ name := some "main", columns := ["category"], referredTable := "categories", referredColumns := ["id"] },
     { columns := ["other"], referredTable := "categories", referredColumns := ["id"], onDelete := some "CASCADE" }]

/-- A server with both tables. -/
def warehouse : Exchange :=
  { server := { databases := [("shop", [products, categories])] } }

end Shop

theorem foreign_keys_of_bound_categories :
    ∃ schema b, Source.reflect Shop.pool Shop.warehouse = (.ok schema, Shop.warehouse) ∧
      Binding.create schema "categories" default = .ok b ∧
      b.constraintsLocal.length = 1 ∧ b.constraintsForeign.length = 3 ∧
      ∃ c, c.name = "fk_categories_parent" ∧ c ∈ b.constraintsLocal ∧ c ∈ b.constraintsForeign := by
  obtain ⟨schema, hr, -, htables⟩ :=
    foreign_keys_of_bound Shop.pool Shop.warehouse rfl (fun _ _ => rfl) (by decide)
  obtain ⟨b, hb, hlocal, hforeign, hself, -⟩ := htables Shop.categories (.tail _ (.head _)) default
  obtain ⟨c, hc, hmem⟩ := hself _ List.mem_cons_self rfl
  exact ⟨schema, b, hr, hb, hlocal.length_eq.symm, hforeign.length_eq.symm, c, hc.unnamed rfl, hmem⟩

end Exchange

end Stencil
