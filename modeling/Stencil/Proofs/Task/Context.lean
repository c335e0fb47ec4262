import Stencil.Proofs.Action
import Stencil.Proofs.OrderedMap
import Stencil.Task.Context

namespace Stencil.Context

/-!
# Calls on contexts

A context is unbound until it is bound to a table that its schema has, and keeps this binding from then on. Answers are
recorded in both states, and are shown as soon as there is a binding.

* `Call`, `Call.perform`, `after` — calls, and the context after several of them, whether they fail or not;
* `Call.Finds`, `Call.binding?` — the calls that can bind a context, and the bindings that they make;
* `binding?_after`, `prompts_after` — the context after any calls;
* `Exposes` — what templates see of a binding and the answers;
* `bound_once` — the first call that can bind a context does, and no other.
-/

/-! ### Calls -/

/-- What a caller does with a context. -/
inductive Call where
  | bind (database : Database) (tableName : String) (now : DateTime)
  | setAnswer (id : String) (answer : Value)

/-- Do a call. -/
def Call.perform : Call → Action Context Unit
  | .bind database tableName now => do
    set (← Action.ofExcept ((← get).bind database tableName now))
  | .setAnswer id answer => modify (·.setAnswer id answer)

/-- The context after calls, each of which may fail. -/
def after (calls : List Call) (x : Context) : Context :=
  calls.foldl (fun x c => (c.perform x).2) x

/-- A call to bind a context to a table that is in the schema. -/
def Call.Finds : Call → Prop
  | .bind database tableName _ => ∃ table, database.table? tableName = some table
  | .setAnswer _ _ => False

/-- The binding that a call makes if there is none. -/
def Call.binding? : Call → Option Binding
  | .bind database tableName now => (Binding.create database tableName now).toOption
  | .setAnswer _ _ => none

/-- The answers that calls record, in order. -/
def answersOf (calls : List Call) : List (String × Value) :=
  calls.filterMap fun
    | .bind _ _ _ => none
    | .setAnswer id answer => some (id, answer)

theorem after_concat (calls : List Call) (c : Call) (x : Context) :
    after (calls ++ [c]) x = (c.perform (after calls x)).2 := by
  rw [after, List.foldl_append]
  rfl

/-! ### Single calls -/

section Single

variable {x : Context} {database : Database} {tableName : String} {now : DateTime}

theorem create_of_missing (h : database.table? tableName = none) :
    Binding.create database tableName now = .error (.validation ("Table not found: " ++ tableName)) := by
  rw [Binding.create, h]

theorem create_of_found (now : DateTime) {table : Table} (h : database.table? tableName = some table) :
    ∃ b, Binding.create database tableName now = .ok b := by
  rw [Binding.create, h]
  exact ⟨_, rfl⟩

/-- A call makes a binding exactly if its table is in the schema. -/
theorem Call.binding?_eq_none {c : Call} : c.binding? = none ↔ ¬ c.Finds := by
  cases c with
  | setAnswer id answer => simp [binding?, Finds]
  | bind database tableName now =>
    cases h : database.table? tableName with
    | none => simp [binding?, Finds, create_of_missing h, h, Except.toOption]
    | some table =>
      obtain ⟨b, hb⟩ := create_of_found now h
      simp [binding?, Finds, hb, h, Except.toOption]

theorem perform_bind (x : Context) (database : Database) (tableName : String) (now : DateTime) :
    (Call.bind database tableName now).perform x = match x.bind database tableName now with
      | .ok x' => (.ok (), x')
      | .error f => (.error f, x) := by
  rw [Call.perform, Action.get_bind_apply, Action.bind_apply, Action.ofExcept_apply]
  cases x.bind database tableName now <;> rfl

/-- A context that is bound refuses to be bound again. -/
theorem perform_bind_of_bound {b : Binding} (h : x.binding? = some b) :
    (Call.bind database tableName now).perform x =
      (.error (.runtime ("Context already bound to table " ++ b.tableName)), x) := by
  rw [perform_bind, Context.bind, h]

/-- A context that is not bound takes the binding, if one can be made. -/
theorem perform_bind_of_unbound (h : x.binding? = none) :
    (Call.bind database tableName now).perform x = match Binding.create database tableName now with
      | .ok b => (.ok (), { x with binding? := some b })
      | .error f => (.error f, x) := by
  rw [perform_bind, Context.bind, h]
  cases Binding.create database tableName now <;> rfl

/-- A binding stays; where there is none, the one of the call is taken. -/
theorem binding?_perform (c : Call) (x : Context) : (c.perform x).2.binding? = x.binding?.or c.binding? := by
  cases c with
  | setAnswer id answer => simp [Call.perform, setAnswer, Call.binding?]
  | bind database tableName now =>
    cases h : x.binding? with
    | some b => rw [perform_bind_of_bound h, h, Option.some_or]
    | none =>
      rw [perform_bind_of_unbound h, Option.none_or, Call.binding?]
      cases Binding.create database tableName now with
      | ok b => rfl
      | error f => exact h

theorem prompts_perform (c : Call) (x : Context) :
    (c.perform x).2.prompts = (answersOf [c]).foldl (fun m e => m.put e.1 e.2) x.prompts := by
  cases c with
  | setAnswer id answer => rfl
  | bind database tableName now =>
    have hnone : answersOf [.bind database tableName now] = [] := rfl
    rw [hnone, List.foldl_nil]
    cases h : x.binding? with
    | some b => rw [perform_bind_of_bound h]
    | none =>
      rw [perform_bind_of_unbound h]
      cases Binding.create database tableName now <;> rfl

end Single

/-! ### Runs -/

/-- A context has the first binding that a call makes. -/
theorem binding?_after (calls : List Call) : (after calls {}).binding? = calls.findSome? Call.binding? := by
  induction calls using List.reverseRecOn with
  | nil => rfl
  | append_singleton calls c ih =>
    rw [after_concat, binding?_perform, ih, List.findSome?_append]
    simp

/-- A context has the answers of all calls, bound or not. -/
theorem prompts_after (calls : List Call) : (after calls {}).prompts = OrderedMap.ofEntries (answersOf calls) := by
  induction calls using List.reverseRecOn with
  | nil => rfl
  | append_singleton calls c ih =>
    have hanswers : answersOf (calls ++ [c]) = answersOf calls ++ answersOf [c] := List.filterMap_append
    rw [after_concat, prompts_perform, ih, hanswers, OrderedMap.ofEntries, OrderedMap.ofEntries, List.foldl_append]

/-- A context is unbound exactly as long as no call finds its table. -/
theorem binding?_after_eq_none {calls : List Call} : (after calls {}).binding? = none ↔ ∀ c ∈ calls, ¬ c.Finds := by
  simp only [binding?_after, List.findSome?_eq_none_iff, Call.binding?_eq_none]

/-- The binding of a context was made by a call before which no call found its table. -/
theorem binding?_after_eq_some {calls : List Call} {b : Binding} :
    (after calls {}).binding? = some b ↔ ∃ before database tableName now later,
      calls = before ++ .bind database tableName now :: later ∧ (∀ c ∈ before, ¬ c.Finds) ∧
        Binding.create database tableName now = .ok b := by
  rw [binding?_after, List.findSome?_eq_some_iff]
  simp only [Call.binding?_eq_none]
  constructor
  · rintro ⟨before, c, later, rfl, hb, hbefore⟩
    -- Only a call to bind makes a binding.
    cases c with
    | setAnswer id answer => cases hb
    | bind database tableName now =>
      refine ⟨before, database, tableName, now, later, rfl, hbefore, ?_⟩
      rw [Call.binding?] at hb
      cases hcreate : Binding.create database tableName now with
      | error f =>
        rw [hcreate] at hb
        cases hb
      | ok b' =>
        rw [hcreate] at hb
        exact congrArg Except.ok (Option.some.inj hb)
  · rintro ⟨before, database, tableName, now, later, rfl, hbefore, hcreate⟩
    refine ⟨before, _, later, rfl, ?_, hbefore⟩
    rw [Call.binding?, hcreate]
    rfl

/-- What stands in the data of templates: the parts of a binding, and the answers. -/
structure Exposes (b : Binding) (prompts data : OrderedMap Value) : Prop where
  keys : data.keys = ["database", "table_name", "table", "constraints_local", "constraints_foreign", "prompts",
    "timestamp", "ctgen_ver"]
  database : data.get? "database" = some (.database b.database)
  tableName : data.get? "table_name" = some (.str b.tableName)
  table : data.get? "table" = some (.table b.table)
  constraintsLocal : data.get? "constraints_local" = some (.list (b.constraintsLocal.map .constraint))
  constraintsForeign : data.get? "constraints_foreign" = some (.list (b.constraintsForeign.map .constraint))
  prompts : data.get? "prompts" = some (Value.ofFields prompts)
  timestamp : data.get? "timestamp" = some (.str b.timestamp)
  version : data.get? "ctgen_ver" = some (.str b.version)

theorem data_of_unbound {x : Context} (h : x.binding? = none) : x.data = [] := by
  rw [data, h]

theorem exposes_of_bound {x : Context} {b : Binding} (h : x.binding? = some b) : Exposes b x.prompts x.data := by
  rw [data, h]
  constructor <;> rfl

/-- **A context is bound once.** Whatever calls are made, and whether they fail or not, the context has the binding of
the first call to bind it whose table is in the schema, and keeps it. Before that call, every call to bind it is bad
input; after it, every such call meets a context in the wrong state; neither changes anything. The answers are those of
all calls so far, the last one for each prompt. Templates see nothing before the binding, and then its parts and these
answers. -/
theorem bound_once (calls : List Call) :
    (∀ b, (after calls {}).binding? = some b ↔ ∃ before database tableName now later,
      calls = before ++ .bind database tableName now :: later ∧ (∀ c ∈ before, ¬ c.Finds) ∧
        Binding.create database tableName now = .ok b) ∧
    (∀ database tableName now,
      ((∀ c ∈ calls, ¬ c.Finds) →
        (database.table? tableName = none → (Call.bind database tableName now).perform (after calls {}) =
          (.error (.validation ("Table not found: " ++ tableName)), after calls {})) ∧
        ∀ table, database.table? tableName = some table → ∃ b, Binding.create database tableName now = .ok b ∧
          (Call.bind database tableName now).perform (after calls {}) =
            (.ok (), { after calls {} with binding? := some b })) ∧
      ((∃ c ∈ calls, c.Finds) → ∃ b, (after calls {}).binding? = some b ∧
        (Call.bind database tableName now).perform (after calls {}) =
          (.error (.runtime ("Context already bound to table " ++ b.tableName)), after calls {}))) ∧
    OrderedMap.Collects (answersOf calls) (after calls {}).prompts ∧
    ((∀ c ∈ calls, ¬ c.Finds) → (after calls {}).data = []) ∧
    ∀ b, (after calls {}).binding? = some b → (∀ more, (after (calls ++ more) {}).binding? = some b) ∧
      Exposes b (after calls {}).prompts (after calls {}).data := by
  refine ⟨fun b => binding?_after_eq_some, fun database tableName now => ⟨fun hnone => ⟨fun hmissing => ?_,
    fun table hfound => ?_⟩, fun hsome => ?_⟩, ?_, fun hnone => ?_, fun b hb => ⟨fun more => ?_, ?_⟩⟩
  · rw [perform_bind_of_unbound (binding?_after_eq_none.mpr hnone), create_of_missing hmissing]
  · obtain ⟨b, hb⟩ := create_of_found now hfound
    refine ⟨b, hb, ?_⟩
    rw [perform_bind_of_unbound (binding?_after_eq_none.mpr hnone), hb]
  · -- Some call before has found its table, and the binding that it made has been kept since.
    have hbound : (after calls {}).binding? ≠ none := fun hnone => by
      obtain ⟨c, hc, hfinds⟩ := hsome
      exact binding?_after_eq_none.mp hnone c hc hfinds
    obtain ⟨b, hb⟩ := Option.ne_none_iff_exists'.mp hbound
    exact ⟨b, hb, perform_bind_of_bound hb⟩
  · rw [prompts_after]
    exact OrderedMap.collects_ofEntries _
  · exact data_of_unbound (binding?_after_eq_none.mpr hnone)
  · rw [binding?_after] at hb ⊢
    rw [List.findSome?_append, hb, Option.some_or]
  · exact exposes_of_bound hb

/-! ### A context that is bound at the second attempt -/

namespace Shop

/-- Two tables, of which one refers to the other. -/
def schema : Database :=
  { name := "shop", tables := [("customers", { name := "customers" }), ("orders", { name := "orders" })]
    constraints := [⟨"placed_by", "orders", ["customer"], "customers", ["id"], none, none⟩] }

/-- The moment of all calls. -/
def now : DateTime := ⟨⟨2024, 1, 2⟩, 3, 4, 5, 0, some 0⟩

/-- An answer, two attempts to bind the context, and another answer to the same prompt. -/
def calls : List Call :=
  [.setAnswer "title" (.str "Draft"), .bind schema "invoices" now, .bind schema "orders" now,
    .setAnswer "title" (.str "Orders")]

end Shop

open Shop in
theorem bound_once_in_shop :
    (∀ c ∈ calls.take 2, ¬ c.Finds) ∧ (∃ c ∈ calls, c.Finds) ∧
      (Call.bind schema "invoices" now).perform (after (calls.take 1) {}) =
        (.error (.validation "Table not found: invoices"), after (calls.take 1) {}) ∧
      (Call.bind schema "customers" now).perform (after calls {}) =
        (.error (.runtime "Context already bound to table orders"), after calls {}) ∧
      ∃ b, (after calls {}).binding? = some b ∧ b.constraintsLocal = schema.constraints ∧
        Exposes b [("title", .str "Orders")] (after calls {}).data := by
  have hnone : ∀ c ∈ calls.take 2, ¬ c.Finds := by
    simp only [calls, List.take_succ_cons, List.take_zero, List.forall_mem_cons, List.not_mem_nil]
    refine ⟨id, ?_, by simp⟩
    rintro ⟨table, htable⟩
    cases htable
  have hsome : ∃ c ∈ calls, c.Finds := ⟨.bind schema "orders" now, by simp [calls], _, rfl⟩
  obtain ⟨hbinding, hnext, -, -, hdata⟩ := bound_once calls
  obtain ⟨-, hearly, -⟩ := bound_once (calls.take 1)
  have hfirst : ∀ c ∈ calls.take 1, ¬ c.Finds := fun c hc =>
    hnone c (List.take_subset_take_left calls (by decide) hc)
  have hbound := (hbinding _).mpr ⟨calls.take 2, schema, "orders", now, calls.drop 3, rfl, hnone, rfl⟩
  obtain ⟨b, hb, hrefused⟩ := (hnext schema "customers" now).2 hsome
  obtain rfl := Option.some.inj (hbound.symm.trans hb)
  exact ⟨hnone, hsome, ((hearly schema "invoices" now).1 hfirst).1 rfl, hrefused, _, hb, rfl, (hdata _ hb).2⟩

end Stencil.Context
