import Stencil.Proofs.Source.Columns

namespace Stencil

/-!
# Reflected indexes

A reflected table has an entry for each index that the server tells of, and then one for each unique constraint whose
columns are not those of a unique entry before it. So no constraint is lost, and none is told twice. What the entry of
an index says is another matter: it has the columns of the key alone, and if there are other parts in a unique key, the
columns need not be unique by themselves.

* `Catalog.Table.told`, `Catalog.Index.named`, `Catalog.Index.IsPlain` — the indexes of a table, and their keys;
* `Catalog.Table.Guarantees` — the columns that are unique as a whole;
* `Index.Added` — the constraints that get entries of their own;
* `Index.foldl_merge`, `Index.Added.at_constraint` — the entries of all constraints, and what becomes of one of them;
* `Index.guaranteed_iff` — when unique entries are told of unique columns only;
* `Exchange.indexes_of_reflected`, `Exchange.uniqueness_of_reflected` — all of this for the tables of a schema.
-/

namespace Catalog

/-- The indexes that a server tells of; the hidden ones come first if they are asked for. -/
def Table.told (withHidden : Bool) (t : Table) : List Index :=
  (if withHidden then t.hiddenIndexes else []) ++ t.indexes

/-- The columns in the key of an index. -/
def Index.named (i : Index) : List String :=
  i.columns.filterMap fun part => part.filter (· != "")

/-- All parts of the key of an index are columns. -/
def Index.IsPlain (i : Index) : Prop :=
  ∀ part ∈ i.columns, ∃ name, part = some name ∧ name ≠ ""

/-- Some columns are unique: they are the complete key of a unique index, or of a unique constraint. -/
def Table.Guarantees (withHidden : Bool) (t : Table) (columns : List String) : Prop :=
  (∃ u ∈ t.uniques, u.columns = columns) ∨
    ∃ i ∈ t.told withHidden, i.unique.isTrue = true ∧ i.columns = columns.map some

theorem Index.map_some_named {i : Index} (h : i.IsPlain) : i.named.map some = i.columns := by
  unfold IsPlain at h
  unfold named
  generalize i.columns = parts at h
  induction parts with
  | nil => rfl
  | cons part parts ih =>
    obtain ⟨⟨name, rfl, hname⟩, hparts⟩ := List.forall_mem_cons.mp h
    have hkept : (some name).filter (· != "") = some name := by simp [hname]
    rw [List.filterMap_cons_some hkept, List.map_cons, ih hparts]

end Catalog

namespace Index

variable {indexes entries : List Index} {u : Catalog.Unique} {uniques kept : List Catalog.Unique}

/-! ### Entries of indexes -/

/-- The entry of an index has its name, its columns, and says whether it is unique. -/
structure Describes (i : Catalog.Index) (e : Index) : Prop where
  name : e.name = i.name
  unique : e.unique = i.unique.isTrue
  columns : e.columns = i.named

theorem describes_reflect (i : Catalog.Index) : Describes i (reflect i) where
  name := rfl
  unique := rfl
  columns := by
    show (i.columns.filterMap id).filter (· != "") = i.named
    rw [Catalog.Index.named, List.filter_filterMap]
    rfl

theorem forall₂_map_reflect (told : List Catalog.Index) : List.Forall₂ Describes told (told.map reflect) := by
  rw [List.forall₂_map_right_iff, List.forall₂_same]
  exact fun i _ => describes_reflect i

/-! ### Entries of constraints -/

/-- The entry of a unique constraint; one without a name has an empty one. -/
def ofUnique (u : Catalog.Unique) : Index :=
  { name := some (u.name.getD ""), columns := u.columns, unique := true }

/-- A unique entry has these columns. -/
def Covers (entries : List Index) (columns : List String) : Prop :=
  ∃ e ∈ entries, e.unique = true ∧ e.columns = columns

theorem covers_append {more : List Index} {columns : List String} :
    Covers (entries ++ more) columns ↔ Covers entries columns ∨ Covers more columns := by
  simp only [Covers, List.mem_append, or_and_right, exists_or]

theorem any_iff_covers {columns : List String} :
    entries.any (fun e => e.unique && e.columns == columns) = true ↔ Covers entries columns := by
  simp [Covers]

theorem merge_of_covers (h : Covers entries u.columns) : merge entries u = entries :=
  if_pos (any_iff_covers.mpr h)

theorem merge_of_not_covers (h : ¬ Covers entries u.columns) : merge entries u = entries ++ [ofUnique u] :=
  if_neg (mt any_iff_covers.mp h)

/-- The constraints that get entries of their own, one after another: those whose columns are not covered yet. -/
inductive Added : List Index → List Catalog.Unique → List Catalog.Unique → Prop
  | nil (entries : List Index) : Added entries [] []
  | covered {entries : List Index} {u : Catalog.Unique} {uniques kept : List Catalog.Unique} :
    Covers entries u.columns → Added entries uniques kept → Added entries (u :: uniques) kept
  | fresh {entries : List Index} {u : Catalog.Unique} {uniques kept : List Catalog.Unique} :
    ¬ Covers entries u.columns → Added (entries ++ [ofUnique u]) uniques kept →
    Added entries (u :: uniques) (u :: kept)

/-- The entries of constraints follow those that are there. -/
theorem foldl_merge (entries : List Index) (uniques : List Catalog.Unique) :
    ∃ kept, Added entries uniques kept ∧ uniques.foldl merge entries = entries ++ kept.map ofUnique := by
  induction uniques generalizing entries with
  | nil => exact ⟨[], .nil entries, by simp⟩
  | cons u uniques ih =>
    by_cases hu : Covers entries u.columns
    · obtain ⟨kept, hadded, heq⟩ := ih entries
      exact ⟨kept, .covered hu hadded, by rw [List.foldl_cons, merge_of_covers hu, heq]⟩
    · obtain ⟨kept, hadded, heq⟩ := ih (entries ++ [ofUnique u])
      refine ⟨u :: kept, .fresh hu hadded, ?_⟩
      rw [List.foldl_cons, merge_of_not_covers hu, heq, List.append_assoc, List.map_cons, List.singleton_append]

namespace Added

theorem sublist (h : Added entries uniques kept) : kept.Sublist uniques := by
  induction h with
  | nil => exact .slnil
  | covered _ _ ih => exact ih.cons _
  | fresh _ _ ih => exact ih.cons_cons _

/-- All constraints are covered in the end. -/
theorem covers (h : Added entries uniques kept) (hu : u ∈ uniques) :
    Covers (entries ++ kept.map ofUnique) u.columns := by
  -- A constraint is covered before its turn, or gets an entry then; what is covered stays so.
  induction h with
  | nil => cases hu
  | covered hcovers _ ih =>
    rcases List.mem_cons.mp hu with rfl | hu
    · exact covers_append.mpr (.inl hcovers)
    · exact ih hu
  | @fresh entries v uniques kept _ _ ih =>
    rw [List.map_cons, List.append_cons]
    rcases List.mem_cons.mp hu with rfl | hu
    · exact covers_append.mpr (.inl (covers_append.mpr (.inr ⟨_, List.mem_singleton_self _, rfl, rfl⟩)))
    · exact ih hu

/-- No constraint that gets an entry was covered before. -/
theorem not_covers (h : Added entries uniques kept) : ∀ u ∈ kept, ¬ Covers entries u.columns := by
  induction h with
  | nil => exact fun _ => nofun
  | covered _ _ ih => exact ih
  | fresh hfresh _ ih =>
    exact List.forall_mem_cons.mpr ⟨hfresh, fun u hu hcovers => ih u hu (covers_append.mpr (.inl hcovers))⟩

/-- No two entries of constraints have the same columns. -/
theorem nodup (h : Added entries uniques kept) : (kept.map (·.columns)).Nodup := by
  induction h with
  | nil => exact List.nodup_nil
  | covered _ _ ih => exact ih
  | @fresh entries u uniques kept _ hadded ih =>
    rw [List.map_cons, List.nodup_cons]
    refine ⟨fun hmem => ?_, ih⟩
    obtain ⟨v, hv, hcolumns⟩ := List.mem_map.mp hmem
    exact hadded.not_covers v hv
      (covers_append.mpr (.inr ⟨ofUnique u, List.mem_singleton_self _, rfl, hcolumns.symm⟩))

/-- A constraint is passed over exactly if a unique entry, or a constraint before it, has its columns; otherwise it
gets one entry, in its place among the others. -/
theorem at_constraint {earlier later : List Catalog.Unique} (h : Added entries (earlier ++ u :: later) kept) :
    ∃ kept₁ kept₂, kept₁.Sublist earlier ∧ kept₂.Sublist later ∧
      ((Covers entries u.columns ∨ ∃ v ∈ earlier, v.columns = u.columns) ∧ kept = kept₁ ++ kept₂ ∨
        ¬ (Covers entries u.columns ∨ ∃ v ∈ earlier, v.columns = u.columns) ∧ kept = kept₁ ++ u :: kept₂) := by
  induction earlier generalizing entries kept with
  | nil =>
    simp only [List.not_mem_nil, false_and, exists_false, or_false]
    rw [List.nil_append] at h
    cases h with
    | covered hcovers hadded => exact ⟨[], _, .slnil, hadded.sublist, .inl ⟨hcovers, rfl⟩⟩
    | fresh hfresh hadded => exact ⟨[], _, .slnil, hadded.sublist, .inr ⟨hfresh, rfl⟩⟩
  | cons v earlier ih =>
    rw [List.cons_append] at h
    -- Once the first constraint is dealt with, its columns are covered, whether it got an entry or not.
    cases h with
    | covered hcovers hadded =>
      obtain ⟨kept₁, kept₂, h₁, h₂, hcases⟩ := ih hadded
      have hiff : (Covers entries u.columns ∨ ∃ w ∈ v :: earlier, w.columns = u.columns) ↔
          Covers entries u.columns ∨ ∃ w ∈ earlier, w.columns = u.columns := by
        rw [List.exists_mem_cons_iff]
        refine ⟨fun h => ?_, fun h => h.imp_right .inr⟩
        rcases h with h | h | h
        · exact .inl h
        · exact .inl (h ▸ hcovers)
        · exact .inr h
      exact ⟨kept₁, kept₂, h₁.cons v, h₂, by rwa [hiff]⟩
    | fresh hfresh hadded =>
      obtain ⟨kept₁, kept₂, h₁, h₂, hcases⟩ := ih hadded
      have hiff : (Covers entries u.columns ∨ ∃ w ∈ v :: earlier, w.columns = u.columns) ↔
          Covers (entries ++ [ofUnique v]) u.columns ∨ ∃ w ∈ earlier, w.columns = u.columns := by
        have hv : Covers [ofUnique v] u.columns ↔ v.columns = u.columns := by simp [Covers, ofUnique]
        rw [List.exists_mem_cons_iff, covers_append, hv, or_assoc]
      refine ⟨v :: kept₁, kept₂, h₁.cons_cons v, h₂, ?_⟩
      rw [hiff]
      exact hcases.imp (And.imp_right (congrArg (v :: ·))) (And.imp_right (congrArg (v :: ·)))

end Added

/-! ### Entries of tables -/

variable {withHidden : Bool} {t : Catalog.Table} {e : Index}

theorem indexes_reflect (withHidden : Bool) (t : Catalog.Table) :
    (Table.reflect withHidden t).indexes = t.uniques.foldl merge ((t.told withHidden).map reflect) := rfl

/-- A unique entry was made from a unique index, or from a constraint. -/
theorem origin_of_unique (he : e ∈ (Table.reflect withHidden t).indexes) (hunique : e.unique = true) :
    (∃ i ∈ t.told withHidden, i.unique.isTrue = true ∧ Describes i e) ∨ ∃ u ∈ t.uniques, e.columns = u.columns := by
  obtain ⟨kept, hadded, heq⟩ := foldl_merge ((t.told withHidden).map reflect) t.uniques
  rw [indexes_reflect, heq, List.mem_append] at he
  rcases he with he | he
  · obtain ⟨i, hi, rfl⟩ := List.mem_map.mp he
    exact .inl ⟨i, hi, hunique, describes_reflect i⟩
  · obtain ⟨u, hu, rfl⟩ := List.mem_map.mp he
    exact .inr ⟨u, hadded.sublist.subset hu, rfl⟩

/-- The columns of a unique entry are unique, unless it was made from an index with other parts in its key. -/
theorem guarantees_or_not_isPlain (he : e ∈ (Table.reflect withHidden t).indexes) (hunique : e.unique = true) :
    t.Guarantees withHidden e.columns ∨
      ∃ i ∈ t.told withHidden, i.unique.isTrue = true ∧ ¬ i.IsPlain ∧ Describes i e := by
  rcases origin_of_unique he hunique with ⟨i, hi, hiu, hdescribes⟩ | ⟨u, hu, hcolumns⟩
  · by_cases hplain : i.IsPlain
    · refine .inl (.inr ⟨i, hi, hiu, ?_⟩)
      rw [hdescribes.columns, Catalog.Index.map_some_named hplain]
    · exact .inr ⟨i, hi, hiu, hplain, hdescribes⟩
  · exact .inl (.inl ⟨u, hu, hcolumns.symm⟩)

/-- Unique entries are told of unique columns only, exactly if the columns in each key with other parts are unique by
themselves. -/
theorem guaranteed_iff :
    (∀ e ∈ (Table.reflect withHidden t).indexes, e.unique = true → t.Guarantees withHidden e.columns) ↔
      ∀ i ∈ t.told withHidden, i.unique.isTrue = true → ¬ i.IsPlain → t.Guarantees withHidden i.named := by
  constructor
  · intro h i hi hiu _
    obtain ⟨kept, -, heq⟩ := foldl_merge ((t.told withHidden).map reflect) t.uniques
    have he : reflect i ∈ (Table.reflect withHidden t).indexes := by
      rw [indexes_reflect, heq]
      exact List.mem_append_left _ (List.mem_map_of_mem hi)
    have hguarantees := h (reflect i) he hiu
    rwa [(describes_reflect i).columns] at hguarantees
  · intro h e he hunique
    rcases guarantees_or_not_isPlain he hunique with hguarantees | ⟨i, hi, hiu, hplain, hdescribes⟩
    · exact hguarantees
    · rw [hdescribes.columns]
      exact h i hi hiu hplain

end Index

/-! ### Servers that answer -/

namespace Exchange

open Index

variable {pool : Server.Pool} {x : Exchange}

/-- A server that answers tells a schema that has, under each name, the last table of that name. -/
theorem reflect_of_answered_last
    (htables : x.server.refusal? .tables (pool.dsn.database.getD "") = none)
    (hcolumns : ∀ t ∈ x.server.tablesOf pool.dsn, x.server.refusal? .columns t.name = none) :
    ∃ schema, Source.reflect pool x = (.ok schema, x) ∧
      ∀ before t after, x.server.tablesOf pool.dsn = before ++ t :: after → t.name ∉ after.map (·.name) →
        schema.table? t.name = some (Table.reflect (pool.dsn.backend = Server.fileBackend) t) := by
  refine ⟨_, reflect_of_answered htables hcolumns, fun before t after hsplit hlast => ?_⟩
  rw [schemaOf, hsplit]
  exact Database.table?_ofTables hlast

/-- **Constraints are told once, as indexes.** Where a server answers, the indexes of every table of its schema are one
entry for each index that it tells of, in order, with its name, its columns and whether it is unique, and then entries
of some of the unique constraints, in order. The columns of every constraint are those of a unique entry. No entry of a
constraint has the columns of another unique entry. A constraint has one entry in its place, or none: this is so exactly
if a unique index, or a constraint before it, has its columns. -/
theorem indexes_of_reflected (pool : Server.Pool) (x : Exchange)
    (htables : x.server.refusal? .tables (pool.dsn.database.getD "") = none)
    (hcolumns : ∀ t ∈ x.server.tablesOf pool.dsn, x.server.refusal? .columns t.name = none) :
    ∃ schema, Source.reflect pool x = (.ok schema, x) ∧
      ∀ before t after, x.server.tablesOf pool.dsn = before ++ t :: after → t.name ∉ after.map (·.name) →
        ∃ table front back kept, schema.table? t.name = some table ∧ table.indexes = front ++ back ∧
          List.Forall₂ Describes (t.told (pool.dsn.backend = Server.fileBackend)) front ∧
          kept.Sublist t.uniques ∧
          List.Forall₂ (fun u e => e.name = some (u.name.getD "") ∧ e.columns = u.columns ∧ e.unique = true) kept back ∧
          (∀ u ∈ t.uniques, ∃ e ∈ table.indexes, e.unique = true ∧ e.columns = u.columns) ∧
          (∀ e ∈ back, ∀ i ∈ front, i.unique = true → i.columns ≠ e.columns) ∧
          (back.map (·.columns)).Nodup ∧
          ∀ earlier u later, t.uniques = earlier ++ u :: later →
            ∃ kept₁ kept₂, kept₁.Sublist earlier ∧ kept₂.Sublist later ∧
              ((Covers front u.columns ∨ ∃ v ∈ earlier, v.columns = u.columns) ∧ kept = kept₁ ++ kept₂ ∨
                ¬ (Covers front u.columns ∨ ∃ v ∈ earlier, v.columns = u.columns) ∧ kept = kept₁ ++ u :: kept₂) := by
  obtain ⟨schema, hr, hlookup⟩ := reflect_of_answered_last htables hcolumns
  refine ⟨schema, hr, fun before t after hsplit hlast => ?_⟩
  -- The constraints are merged behind the entries of the indexes, one by one.
  obtain ⟨kept, hadded, heq⟩ :=
    foldl_merge ((t.told (pool.dsn.backend = Server.fileBackend)).map Index.reflect) t.uniques
  have hindexes := (indexes_reflect (pool.dsn.backend = Server.fileBackend) t).trans heq
  refine ⟨_, _, _, kept, hlookup before t after hsplit hlast, hindexes, forall₂_map_reflect _, hadded.sublist,
    ?_, fun u hu => ?_, fun e he i hi hiu hcols => ?_, ?_, fun earlier u later huniques => ?_⟩
  · rw [List.forall₂_map_right_iff, List.forall₂_same]
    exact fun u _ => ⟨rfl, rfl, rfl⟩
  · rw [hindexes]
    exact hadded.covers hu
  · obtain ⟨u, hu, rfl⟩ := List.mem_map.mp he
    exact hadded.not_covers u hu ⟨i, hi, hiu, hcols⟩
  · rw [List.map_map]
    exact hadded.nodup
  · exact (huniques ▸ hadded).at_constraint

/-! ### A shop with accounts -/

namespace Shop

/-- A table with an index on one column, a unique one on another, and constraints on both. -/
def accounts : Catalog.Table where
  name := "accounts"
  columns := [{ name := "code", type := .text "TEXT" }, { name := "email", type := .text "TEXT" }]
  indexes :=
    [{ name := some "ix_email", columns := [some "email"] },
     { name := some "ux_code", columns := [some "code"], unique := .bool true }]
  uniques :=
    [{ name := some "uq_email", columns := ["email"] }, { name := some "uq_code", columns := ["code"] },
     { columns := ["email"] }]

/-- A table that allows each address once in each branch, the case of letters aside. -/
def logins : Catalog.Table where
  name := "logins"
  columns := [{ name := "branch", type := .text "INTEGER" }, { name := "email", type := .text "TEXT" }]
  indexes := [{ name := some "ux_email", columns := [some "branch", none], unique := .bool true }]

/-- A server with both tables. -/
def bank : Exchange :=
  { server := { databases := [("shop", [accounts, logins])] } }

end Shop

theorem indexes_of_reflected_accounts :
    ∃ schema table, ∃ kept : List Catalog.Unique, Source.reflect Shop.pool Shop.bank = (.ok schema, Shop.bank) ∧
      schema.table? "accounts" = some table ∧ table.indexes.length = 2 + kept.length ∧
      (∃ e ∈ table.indexes, e.unique = true ∧ e.columns = ["email"]) ∧
      kept.Sublist (Shop.accounts.uniques.take 2) := by
  obtain ⟨schema, hr, htables⟩ := indexes_of_reflected Shop.pool Shop.bank rfl fun _ _ => rfl
  obtain ⟨table, front, back, kept, ht, hindexes, hfront, -, hback, hcovered, -, -, hone⟩ :=
    htables [] Shop.accounts [Shop.logins] rfl (by decide)
  refine ⟨schema, table, kept, hr, ht, ?_, hcovered _ List.mem_cons_self, ?_⟩
  · rw [hindexes, List.length_append, ← hfront.length_eq, ← hback.length_eq]
    rfl
  · -- The last constraint has the columns of the first one, and so no entry.
    obtain ⟨kept₁, kept₂, h₁, h₂, ⟨-, rfl⟩ | ⟨hfresh, -⟩⟩ :=
      hone (Shop.accounts.uniques.take 2) { columns := ["email"] } [] rfl
    · rwa [List.sublist_nil.mp h₂, List.append_nil]
    · exact absurd (.inr ⟨_, List.mem_cons_self, rfl⟩) hfresh

/-- **Uniqueness is told of complete keys, and of the columns of other ones.** Where a server answers, the columns of
every unique entry of every table are the complete key of a unique index or of a unique constraint, or else the entry is
that of a unique index with other parts in its key. So the unique entries tell of unique columns only, exactly if the
columns in the keys of these indexes are unique by themselves. -/
theorem uniqueness_of_reflected (pool : Server.Pool) (x : Exchange)
    (htables : x.server.refusal? .tables (pool.dsn.database.getD "") = none)
    (hcolumns : ∀ t ∈ x.server.tablesOf pool.dsn, x.server.refusal? .columns t.name = none) :
    ∃ schema, Source.reflect pool x = (.ok schema, x) ∧
      ∀ before t after, x.server.tablesOf pool.dsn = before ++ t :: after → t.name ∉ after.map (·.name) →
        ∃ table, schema.table? t.name = some table ∧
          (∀ e ∈ table.indexes, e.unique = true →
            t.Guarantees (pool.dsn.backend = Server.fileBackend) e.columns ∨
              ∃ i ∈ t.told (pool.dsn.backend = Server.fileBackend),
                i.unique.isTrue = true ∧ ¬ i.IsPlain ∧ Describes i e) ∧
          ((∀ e ∈ table.indexes, e.unique = true →
              t.Guarantees (pool.dsn.backend = Server.fileBackend) e.columns) ↔
            ∀ i ∈ t.told (pool.dsn.backend = Server.fileBackend), i.unique.isTrue = true → ¬ i.IsPlain →
              t.Guarantees (pool.dsn.backend = Server.fileBackend) i.named) := by
  obtain ⟨schema, hr, hlookup⟩ := reflect_of_answered_last htables hcolumns
  refine ⟨schema, hr, fun before t after hsplit hlast => ?_⟩
  exact ⟨_, hlookup before t after hsplit hlast, fun e he hu => guarantees_or_not_isPlain he hu, guaranteed_iff⟩

theorem uniqueness_of_reflected_accounts :
    ∃ schema table, Source.reflect Shop.pool Shop.bank = (.ok schema, Shop.bank) ∧
      schema.table? "accounts" = some table ∧
      ∀ e ∈ table.indexes, e.unique = true → Shop.accounts.Guarantees false e.columns := by
  obtain ⟨schema, hr, htables⟩ := uniqueness_of_reflected Shop.pool Shop.bank rfl fun _ _ => rfl
  obtain ⟨table, ht, -, hiff⟩ := htables [] Shop.accounts [Shop.logins] rfl (by decide)
  refine ⟨schema, table, hr, ht, hiff.mpr fun i hi _ hother => absurd ?_ hother⟩
  have hplain : ∀ i ∈ Shop.accounts.indexes, i.IsPlain := by
    simp [Shop.accounts, Catalog.Index.IsPlain]
  exact hplain i hi

/-- The branch alone is told to be unique where it is unique together with an address only. -/
theorem uniqueness_invented_of_logins :
    ∃ schema table, Source.reflect Shop.pool Shop.bank = (.ok schema, Shop.bank) ∧
      schema.table? "logins" = some table ∧
      table.indexes = [{ name := some "ux_email", columns := ["branch"], unique := true }] ∧
      ¬ Shop.logins.Guarantees false ["branch"] := by
  refine ⟨_, _, rfl, rfl, rfl, ?_⟩
  simp [Catalog.Table.Guarantees, Catalog.Table.told, Shop.logins]

end Exchange

end Stencil
