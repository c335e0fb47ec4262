import Stencil.Proofs.Task.Call
import Stencil.Source.Memory

namespace Stencil.Task

/-!
# Started tasks

A start connects to the source, checks a table that is given if a database is bound, and then binds the context
at once if nothing is missing.

* `Started` — what is known of a task that a start gave;
* `start_started` — every start that succeeds gives such a task;
* `Shop.setup` — a small setup for runs on paper.
-/

variable {σ κ : Type} [Source σ κ]

/-- How a start leaves the context, if its connection was opened in a state of the source. -/
inductive Opened (t : Task σ κ) (opened : σ) : Prop where
  /-- the database or the table is not known yet -/
  | deferred (hw : t.databaseName = "" ∨ t.table = none) (hs : t.source = opened) (hc : t.context = {})
  /-- the context is bound -/
  | eager {table names s schema b} (ht : t.table = some table) (hd : t.databaseName ≠ "")
      (hl : Source.listTables t.connection opened = (.ok names, s)) (hm : table ∈ names)
      (hr : Source.reflect t.connection s = (.ok schema, t.source))
      (hb : Binding.create schema table t.workspace.clock = .ok b) (hc : t.context = { binding? := some b })

/-- What is known of a task that a start gave. -/
structure Started (s : Setup) (source : σ) (t : Task σ κ) : Prop where
  profile : t.profile = s.profile
  prompts : t.prompts = s.prompts t.databaseName
  table : t.table = s.table
  answers : t.answers = []
  opened : ∃ dsn opened, Source.connect dsn source = (.ok t.connection, opened) ∧ Opened t opened

theorem inWorkspace_source {α : Type} {act : Work α} {a : α} {x y : Workspace × σ}
    (h : inWorkspace act x = (.ok a, y)) : y.2 = x.2 := by
  obtain ⟨-, rfl⟩ := Prod.mk.inj h
  rfl

theorem inSource_eq_ok {α : Type} {act : Action σ α} {a : α} {x y : Workspace × σ}
    (h : inSource act x = (.ok a, y)) : act x.2 = (.ok a, y.2) ∧ y.1 = x.1 := by
  obtain ⟨ha, rfl⟩ := Prod.mk.inj h
  exact ⟨Prod.ext ha rfl, rfl⟩

/-- A check of a given table that succeeds has found the table listed, or had nothing to check. -/
theorem checkGivenTable_ok {c : κ} {table : Option String} {x y : Workspace × σ}
    (h : checkGivenTable c table x = (.ok (), y)) :
    y.1 = x.1 ∧ ((y.2 = x.2 ∧ (Source.databaseName σ c = "" ∨ table = none)) ∨
      ∃ name names, table = some name ∧ Source.databaseName σ c ≠ "" ∧
        Source.listTables c x.2 = (.ok names, y.2) ∧ name ∈ names) := by
  cases table with
  | none =>
    obtain ⟨-, rfl⟩ := Prod.mk.inj h
    exact ⟨rfl, .inl ⟨rfl, .inr rfl⟩⟩
  | some name =>
    -- Without a database there is nothing to look in, so a given table is not checked yet.
    by_cases hd : Source.databaseName σ c = ""
    · have hx : checkGivenTable c (some name) x = (.ok (), x) := by simp [checkGivenTable, hd]
      rw [hx] at h
      cases h
      exact ⟨rfl, .inl ⟨rfl, .inl hd⟩⟩
    · simp only [checkGivenTable, bne_iff_ne, ne_eq, hd, not_false_eq_true, if_true] at h
      obtain ⟨names, z, hl, h⟩ := Action.bind_eq_ok.mp h
      obtain ⟨hl, hz⟩ := inSource_eq_ok hl
      by_cases hm : name ∈ names
      · simp only [List.contains_iff_mem.mpr hm, Bool.not_true, Bool.false_eq_true, if_false] at h
        cases h
        exact ⟨hz, .inr ⟨name, names, rfl, hd, hl, hm⟩⟩
      · have hc : names.contains name = false := by simpa using hm
        simp only [hc, Bool.not_false, if_true] at h
        cases h

/-- The context at the start is bound to the reflected schema if nothing is missing, and empty otherwise. -/
theorem initialContext_ok {c : κ} {table : Option String} {context : Context} {x y : Workspace × σ}
    (h : initialContext c table x = (.ok context, y)) :
    y.1 = x.1 ∧ ((y.2 = x.2 ∧ context = {} ∧ (Source.databaseName σ c = "" ∨ table = none)) ∨
      ∃ name schema b, table = some name ∧ Source.databaseName σ c ≠ "" ∧
        Source.reflect c x.2 = (.ok schema, y.2) ∧ Binding.create schema name x.1.clock = .ok b ∧
        context = { binding? := some b }) := by
  cases table with
  | none =>
    cases h
    exact ⟨rfl, .inl ⟨rfl, rfl, .inr rfl⟩⟩
  | some name =>
    by_cases hd : Source.databaseName σ c = ""
    · simp only [initialContext, hd, if_true] at h
      cases h
      exact ⟨rfl, .inl ⟨rfl, rfl, .inl hd⟩⟩
    · simp only [initialContext, hd, if_false] at h
      obtain ⟨schema, z, hr, h⟩ := Action.bind_eq_ok.mp h
      obtain ⟨hr, hz⟩ := inSource_eq_ok hr
      rw [Action.bind_apply, Action.get_apply] at h
      obtain ⟨hc, rfl⟩ := Prod.mk.inj h
      cases hb : Binding.create schema name z.1.clock with
      | error e => simp [Context.bind, hb, Except.map] at hc
      | ok b =>
        simp only [Context.bind, hb, Except.map, Except.ok.injEq] at hc
        exact ⟨hz, .inr ⟨name, schema, b, rfl, hd, hr, hz ▸ hb, hc.symm⟩⟩

/-- Every start that succeeds gives a task of which all this is known. -/
theorem start_started {s : Setup} {w : Workspace} {source : σ} {t : Task σ κ} {rest : Workspace × σ}
    (h : start s (w, source) = (.ok t, rest)) : Started s source t := by
  simp only [start, Action.bind_eq_ok] at h
  -- The states between the steps of the start, of which only the source and the clock matter here.
  obtain ⟨dsn, x₁, h₁, dir, x₂, h₂, c, x₃, h₃, _, x₄, h₄, context, x₅, h₅, x₆, x₇, h₆, engine, x₈, h₇, x₉, x₁₀,
    h₈, h⟩ := h
  cases h₆
  obtain ⟨-, rfl⟩ := Prod.mk.inj h₇
  cases h₈
  cases h
  have hs : x₂.2 = source := (inWorkspace_source h₂).trans (inWorkspace_source h₁)
  obtain ⟨hc, -⟩ := inSource_eq_ok h₃
  obtain ⟨hw₄, h₄⟩ := checkGivenTable_ok h₄
  obtain ⟨hw₅, h₅⟩ := initialContext_ok h₅
  refine ⟨rfl, rfl, rfl, rfl, dsn, x₃.2, hs ▸ hc, ?_⟩
  -- The table is checked exactly if the context is bound: both need a database and a table.
  rcases h₄ with ⟨hs₄, hw⟩ | ⟨name, names, ht, hd, hl, hm⟩
  · rcases h₅ with ⟨hs₅, rfl, -⟩ | ⟨name, -, -, ht, hd, -⟩
    · exact .deferred hw (hs₅.trans hs₄) rfl
    · rcases hw with hw | hw
      · exact absurd hw hd
      · exact absurd (ht.symm.trans hw) (by simp)
  · rcases h₅ with ⟨-, -, hw⟩ | ⟨name', schema, b, ht', -, hr, hb, rfl⟩
    · rcases hw with hw | hw
      · exact absurd hw hd
      · exact absurd (ht.symm.trans hw) (by simp)
    · obtain rfl : name = name' := Option.some.inj (ht.symm.trans ht')
      exact .eager ht hd hl hm hr (hw₅ ▸ hb) rfl

/-! ### A shop -/

namespace Shop

/-- A schema with two tables. -/
def schema : Database :=
  { name := "shop", tables := [("customers", { name := "customers" }), ("orders", { name := "orders" })] }

/-- A prompt that must be answered. -/
def title : PromptDefinition :=
  { prompt := "Title?", required := true }

/-- A profile with one prompt. -/
def profile : Profile :=
  { config := { dsn := "memory:", prompts := ["title"] }, prompt := [("title", title)] }

/-- The schema in memory. New connections bind it if `bound` is its name. -/
def memory (bound : String) : Memory :=
  { databases := [("shop", schema)], bound }

/-- A task for the profile, perhaps with a table. -/
def setup (table : Option String) : Setup :=
  { profile, contextDir := Path.ofString "/", table }

end Shop

end Stencil.Task
