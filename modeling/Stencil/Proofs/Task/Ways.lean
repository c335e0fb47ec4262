import Stencil.Proofs.Source.Steady
import Stencil.Proofs.Task.Order

namespace Stencil.Task

/-!
# Early and late choices

The database and the table can be given when a task is started or chosen later, and the table is checked at another
place each time. It makes no difference: whether the table is accepted depends on the tables and the schema of the
database alone, and so does what a caller sees of the task from then on.

* `View` — what a caller sees of a task;
* `attempt`, `verdict` — what becomes of a table over a connection that serves;
* `Waits`, `Connected`, `Placed` — a task before it has a database, one that has it, and one for which a table has been
  tried;
* `Connected.start_with_table`, `Connected.answer_table`, `Waits.answer_database` — the three places where a table is
  tried, with the same verdict;
* `Placed.view_after` — what a caller sees of a task for which a table has been tried depends on the answers only.
-/

/-! ### What a caller sees -/

/-- What a caller sees of a task, apart from the time of its binding. -/
structure View where
  table : Option String
  databaseName : String
  answers : OrderedMap Value
  unanswered : List TaskPrompt
  isReady : Bool
  data : OrderedMap Value

variable {σ κ : Type} [Source σ κ]

/-- The view of a task. -/
def view (t : Task σ κ) : View where
  table := t.table
  databaseName := t.databaseName
  answers := t.answers
  unanswered := t.unanswered
  isReady := t.isReady
  data := t.contextData.erase "timestamp"

/-- The names that templates see, apart from the time, are those of the binding and the answers. -/
theorem data_erase_timestamp (c : Context) :
    c.data.erase "timestamp" = (c.binding?.map Binding.untimed).elim [] fun b =>
      [("database", .database b.database), ("table_name", .str b.tableName), ("table", .table b.table),
        ("constraints_local", .list (b.constraintsLocal.map .constraint)),
        ("constraints_foreign", .list (b.constraintsForeign.map .constraint)),
        ("prompts", Value.ofFields c.prompts), ("ctgen_ver", .str b.version)] := by
  obtain ⟨b, prompts⟩ := c
  cases b with
  | none => rfl
  | some b =>
    refine OrderedMap.erase_append_cons
      [("database", .database b.database), ("table_name", .str b.tableName), ("table", .table b.table),
        ("constraints_local", .list (b.constraintsLocal.map .constraint)),
        ("constraints_foreign", .list (b.constraintsForeign.map .constraint)), ("prompts", Value.ofFields prompts)]
      [("ctgen_ver", .str b.version)] (.str b.timestamp) ?_ ?_ <;> simp

/-! ### A table that is tried -/

variable {known : σ → Prop} {names : List String} {schema : Database} {database table : String} {profile : Profile}
  {t t₁ t' : Task σ κ} {c : Call} {r : Except Fault Unit}

/-- What becomes of a table over a connection that lists some tables and reflects some schema. -/
def attempt (names : List String) (schema : Database) (table : String) (now : DateTime) : Except Fault Binding :=
  if table ∈ names then Binding.create schema table now else .error (noTable table)

/-- Only the time of the binding depends on the time. -/
theorem attempt_untimed (names : List String) (schema : Database) (table : String) (now now' : DateTime) :
    (attempt names schema table now).map Binding.untimed = (attempt names schema table now').map Binding.untimed := by
  unfold attempt Binding.create
  by_cases hm : table ∈ names
  · cases schema.table? table <;> simp [hm, Except.map, Binding.untimed]
  · simp [hm, Except.map]

/-- Whether a table is accepted, or else why not. -/
def verdict (names : List String) (schema : Database) (table : String) : Except Fault Unit :=
  if table ∈ names then
    if (schema.table? table).isSome then .ok () else .error (.validation ("Table not found: " ++ table))
  else .error (noTable table)

theorem attempt_verdict (names : List String) (schema : Database) (table : String) (now : DateTime) :
    (attempt names schema table now).map (fun _ => ()) = verdict names schema table := by
  unfold attempt verdict Binding.create
  by_cases hm : table ∈ names
  · cases schema.table? table <;> simp [hm, Except.map]
  · simp [hm, Except.map]

/-- A table is rejected as one that does not exist exactly if it is not listed. -/
theorem verdict_eq_noTable : verdict names schema table = .error (noTable table) ↔ table ∉ names := by
  unfold verdict
  by_cases hm : table ∈ names
  · have hne : "Table not found: " ++ table ≠ "Table does not exist: " ++ table := by
      intro h
      have hlength := congrArg String.length h
      rw [String.length_append, String.length_append, Nat.add_right_cancel_iff] at hlength
      exact absurd hlength (by decide)
    by_cases hs : (schema.table? table).isSome <;> simp [hm, hs, noTable, hne]
  · simp [hm]

/-! ### Tasks with a database -/

/-- The call that chooses a table. -/
def Call.giveTable (table : String) : Call :=
  .answer .table (.str table)

/-- The call that chooses a database. -/
def Call.giveDatabase (database : String) : Call :=
  .answer .database (.str database)

/-- A task whose connection serves, with a database bound. -/
structure Connected (known : σ → Prop) (names : List String) (schema : Database) (database : String)
    (profile : Profile) (t : Task σ κ) : Prop where
  source : known t.source
  serves : Source.Serves known t.connection names schema
  bound : t.databaseName = database
  listed : ∃ name, Listed name profile t
  inStep : InStep t

/-- A task with a database for which a table has been tried: it has the table if this is listed, and is bound to it if
the schema has it, too. -/
structure Placed (known : σ → Prop) (names : List String) (schema : Database) (database : String)
    (profile : Profile) (table : String) (t : Task σ κ) : Prop
    extends Connected known names schema database profile t where
  choice : t.table = if table ∈ names then some table else none
  binding : ∀ now, t.context.binding?.map Binding.untimed =
    ((attempt names schema table now).map Binding.untimed).toOption

theorem Updated.known_of_serves (h : Updated t r t') (hs : known t.source)
    (hserves : Source.Serves known t.connection names schema) : known t'.source := by
  cases h with
  | folded => exact hs
  | waiting => exact hs
  | unreflected _ _ _ hr => exact (hserves.of_reflect hs hr).2
  | unmatched _ _ _ hr => exact (hserves.of_reflect hs hr).2
  | bound _ _ _ hr => exact (hserves.of_reflect hs hr).2

theorem Connected.of_updated (h : Connected known names schema database profile t) (hu : Updated t r t') :
    Connected known names schema database profile t' where
  source := hu.known_of_serves h.source h.serves
  serves := hu.target_eq.1 ▸ h.serves
  bound := by
    rw [databaseName, hu.target_eq.1]
    exact h.bound
  listed := h.listed.imp fun _ hl => hl.updated hu
  inStep := Behind.updated ⟨h.inStep.nodup, h.inStep.front, h.inStep.unbound⟩ hu

theorem Taken.source_eq (h : Taken t c r t₁) (hc : c.redirects = false) : t₁.source = t.source := by
  cases h <;> first | rfl | cases hc

/-- A call that chooses neither the database nor the table leaves a task connected. -/
theorem Connected.perform (h : Connected known names schema database profile t) (hc : c.redirects = false) :
    Connected known names schema database profile (c.perform t).2 where
  source := by
    rcases c.perform_cases t with ⟨e, ht, -⟩ | ⟨t₁, ht, hu⟩
    · exact ht.source_eq hc ▸ h.source
    · exact hu.known_of_serves (ht.source_eq hc ▸ h.source) ((ht.target_eq hc).1 ▸ h.serves)
  serves := (Call.target_perform t hc).1 ▸ h.serves
  bound := by
    rw [databaseName, (Call.target_perform t hc).1]
    exact h.bound
  listed := h.listed.imp fun _ hl => hl.perform c
  inStep := h.inStep.perform c

/-- Bringing a task up to date that is not bound, but has a database and a table, binds it if the schema has the
table. -/
theorem Connected.updated (h : Connected known names schema database profile t) (hd : database ≠ "")
    (hu : t.context.binding? = none) (ht : t.table = some table) :
    ∃ t', Updated t ((Binding.create schema table t.workspace.clock).map fun _ => ()) t' ∧
      t'.context.binding? = (Binding.create schema table t.workspace.clock).toOption := by
  obtain ⟨s, -, hr⟩ := h.serves.reflect h.source
  rw [← h.bound] at hd
  cases hs : schema.table? table with
  | none =>
    rw [show Binding.create schema table t.workspace.clock = .error (.validation ("Table not found: " ++ table)) by
      simp [Binding.create, hs]]
    exact ⟨_, .unmatched hu hd ht hr hs, hu⟩
  | some info =>
    obtain ⟨b, hb⟩ : ∃ b, Binding.create schema table t.workspace.clock = .ok b := by simp [Binding.create, hs]
    rw [hb]
    exact ⟨_, .bound hu hd ht hr hb, by rw [binding?_folded]; rfl⟩

theorem toOption_attempt (hm : table ∈ names) (now now' : DateTime) :
    ((attempt names schema table now').map Binding.untimed).toOption =
      (Binding.create schema table now).toOption.map Binding.untimed := by
  rw [attempt_untimed names schema table now' now, attempt, if_pos hm]
  cases Binding.create schema table now <;> rfl

/-- A call that leads to a listed table tries it. -/
theorem Connected.place (h : Connected known names schema database profile t₁) (hd : database ≠ "")
    (ht : Taken t c (.ok ()) t₁) (hu : t₁.context.binding? = none) (htable : t₁.table = some table)
    (hm : table ∈ names) :
    (c.perform t).1 = verdict names schema table ∧
      Placed known names schema database profile table (c.perform t).2 := by
  obtain ⟨t', hupdated, hbinding⟩ := h.updated hd hu htable
  have hperform := ht.perform_of_ok hupdated
  rw [hperform]
  refine ⟨?_, { h.of_updated hupdated with choice := ?_, binding := fun now => ?_ }⟩
  · rw [← attempt_verdict names schema table t₁.workspace.clock, attempt, if_pos hm]
  · rw [if_pos hm, hupdated.target_eq.2, htable]
  · rw [hbinding, toOption_attempt hm t₁.workspace.clock now]

/-- A call that leads to a table that is not listed rejects it. -/
theorem Connected.reject (h : Connected known names schema database profile t₁)
    (ht : Taken t c (.error (noTable table)) t₁) (hu : t₁.context.binding? = none) (htable : t₁.table = none)
    (hm : table ∉ names) :
    (c.perform t).1 = verdict names schema table ∧
      Placed known names schema database profile table (c.perform t).2 := by
  rw [ht.perform_of_error]
  refine ⟨by rw [verdict, if_neg hm], { h with choice := ?_, binding := fun now => ?_ }⟩
  · rw [if_neg hm, htable]
  · rw [hu, attempt, if_neg hm]
    rfl

/-- Choosing a table tries it. -/
theorem Connected.answer_table (h : Connected known names schema database profile t) (hd : database ≠ "")
    (hu : t.context.binding? = none) (htable : t.table = none) (table : String) :
    ((Call.giveTable table).perform t).1 = verdict names schema table ∧
      Placed known names schema database profile table ((Call.giveTable table).perform t).2 := by
  obtain ⟨s, hs, hl⟩ := h.serves.listTables h.source
  have hconnected : ∀ {r t₁}, Taken t (.giveTable table) r t₁ → known t₁.source →
      Connected known names schema database profile t₁ := fun ht hs =>
    have hc := ht.connection_eq (by simp [Call.prompt, Call.giveTable])
    ⟨hs, hc ▸ h.serves, by rw [databaseName, hc]; exact h.bound, h.listed.imp fun _ hl => hl.taken ht,
      h.inStep.of_eq ht.answers_eq ht.context_eq⟩
  by_cases hm : table ∈ names
  · have ht := Taken.chosen (t := t) (v := .str table) hl rfl hm
    exact (hconnected ht hs).place hd ht hu rfl hm
  · have ht := Taken.unknown (t := t) (v := .str table) hl fun _ he => Option.some.inj he ▸ hm
    exact (hconnected ht hs).reject ht hu htable hm

/-- A task that can bind the database, but has not yet. -/
structure Waits (known : σ → Prop) (names : List String) (schema : Database) (database : String)
    (profile : Profile) (t : Task σ κ) : Prop where
  source : known t.source
  opens : Source.Opens known t.connection database names schema
  listed : ∃ name, Listed name profile t
  inStep : InStep t

/-- Choosing the database connects the task to it. -/
theorem Waits.connected (h : Waits known names schema database profile t) {r : Except Fault Unit} {v : Value}
    (ht : Taken t (.answer .database v) r t₁) (hs : known t₁.source) (hname : t₁.databaseName = database)
    (hserves : Source.Serves known t₁.connection names schema) :
    Connected known names schema database profile t₁ :=
  ⟨hs, hserves, hname, h.listed.imp fun _ hl => hl.taken ht, h.inStep.of_eq ht.answers_eq ht.context_eq⟩

/-- Choosing the database tries a table that has been given before. -/
theorem Waits.answer_database (h : Waits known names schema database profile t) (hd : database ≠ "")
    (hu : t.context.binding? = none) (htable : t.table = some table) :
    ((Call.giveDatabase database).perform t).1 = verdict names schema table ∧
      Placed known names schema database profile table ((Call.giveDatabase database).perform t).2 := by
  obtain ⟨c, s₁, hs₁, hb, hname, hserves⟩ := h.opens h.source
  obtain ⟨s₂, hs₂, hl⟩ := hserves.listTables hs₁
  by_cases hm : table ∈ names
  · have ht := Taken.checked (t := t) (v := .str database) hb htable hl hm
    exact (h.connected ht hs₂ hname hserves).place hd ht hu htable hm
  · have ht := Taken.dropped (t := t) (v := .str database) hb htable hl hm
    exact (h.connected ht hs₂ hname hserves).reject ht hu rfl hm

/-- Choosing the database first leaves the table to be chosen. -/
theorem Waits.answer_database_of_none (h : Waits known names schema database profile t)
    (hu : t.context.binding? = none) (htable : t.table = none) :
    ∃ t', (Call.giveDatabase database).perform t = (.ok (), t') ∧
      Connected known names schema database profile t' ∧ t'.table = none ∧ t'.context.binding? = none := by
  obtain ⟨c, s, hs, hb, hname, hserves⟩ := h.opens h.source
  have ht := Taken.rebound (t := t) (v := .str database) hb htable
  exact ⟨_, ht.perform_of_ok (.waiting hu (.inr htable)), h.connected ht hs hname hserves, htable, hu⟩

/-! ### What a caller sees of a task for which a table has been tried -/

/-- Bringing a task up to date does not change what became of the table. -/
theorem Updated.binding_attempted (hu : Updated t r t') (hserves : Source.Serves known t.connection names schema)
    (hs : known t.source) (hchoice : t.table = if table ∈ names then some table else none) {now : DateTime}
    (hbefore : t.context.binding?.map Binding.untimed =
      ((attempt names schema table now).map Binding.untimed).toOption) :
    t'.context.binding?.map Binding.untimed = ((attempt names schema table now).map Binding.untimed).toOption := by
  cases hu with
  | folded => rwa [binding?_folded]
  | waiting => exact hbefore
  | unreflected => exact hbefore
  | unmatched => exact hbefore
  | @bound table' schema' s b _ _ htable hr hb =>
    -- What is bound now is the table that has been tried, of the schema that the connection always reflects.
    obtain ⟨hschema, -⟩ := hserves.of_reflect hs hr
    cases hschema
    rw [hchoice] at htable
    by_cases hm : table ∈ names
    · rw [if_pos hm] at htable
      cases htable
      rw [binding?_folded, toOption_attempt hm t.workspace.clock now, hb]
      rfl
    · rw [if_neg hm] at htable
      cases htable

/-- A call that chooses neither the database nor the table does not change what became of the table. -/
theorem Placed.perform (h : Placed known names schema database profile table t) (hc : c.redirects = false) :
    Placed known names schema database profile table (c.perform t).2 where
  toConnected := h.toConnected.perform hc
  choice := (Call.target_perform t hc).2.trans h.choice
  binding now := by
    rcases c.perform_cases t with ⟨e, ht, -⟩ | ⟨t₁, ht, hu⟩
    · rw [ht.context_eq, h.binding now]
    · obtain ⟨hconnection, htable⟩ := ht.target_eq hc
      refine hu.binding_attempted (hconnection ▸ h.serves) (ht.source_eq hc ▸ h.source) (htable.trans h.choice) ?_
      rw [ht.context_eq, h.binding now]

theorem Placed.after (h : Placed known names schema database profile table t) {calls : List Call}
    (hc : ∀ c ∈ calls, c.redirects = false) : Placed known names schema database profile table (t.after calls) := by
  induction calls generalizing t with
  | nil => exact h
  | cons c calls ih =>
    rw [List.forall_mem_cons] at hc
    exact ih (h.perform hc.1) hc.2

/-- What a caller sees of a task for which a table has been tried depends on its answers only. -/
theorem Placed.view_eq (h : Placed known names schema database profile table t)
    (h' : Placed known names schema database profile table t') (hd : database ≠ "") (ha : t.answers = t'.answers) :
    t.view = t'.view := by
  have hchoice : t.table = t'.table := h.choice.trans h'.choice.symm
  have hname : t.databaseName = t'.databaseName := h.bound.trans h'.bound.symm
  have hbinding : t.context.binding?.map Binding.untimed = t'.context.binding?.map Binding.untimed :=
    (h.binding default).trans (h'.binding default).symm
  have hisBound : t.context.isBound = t'.context.isBound := by
    simpa [Context.isBound] using congrArg Option.isSome hbinding
  -- Whether the prompts for the database and the table wait is told by what is bound and chosen,
  -- wherever they are on the lists.
  have hunanswered : t.unanswered = t'.unanswered := by
    obtain ⟨name, hl⟩ := h.listed
    obtain ⟨name', hl'⟩ := h'.listed
    rw [hl.unanswered_eq fun he => absurd (h.bound.symm.trans he) hd,
      hl'.unanswered_eq fun he => absurd (h'.bound.symm.trans he) hd, hname, hchoice]
    refine congrArg (fun rest => _ ++ (_ ++ rest)) (List.filter_congr fun p hp => ?_)
    obtain ⟨id, -, d, -, rfl⟩ := Profile.mem_taskPrompts.mp hp
    rw [isAnswered, isAnswered, ha]
  have hprompts : t.context.prompts = t'.context.prompts := by
    cases hb : t.context.isBound with
    | true => rw [h.inStep.bound hb, h'.inStep.bound (hisBound ▸ hb), ha]
    | false => rw [h.inStep.unbound hb, h'.inStep.unbound (hisBound ▸ hb)]
  have hready : t.isReady = t'.isReady := by rw [isReady, isReady, hisBound, hunanswered]
  have hdata : t.contextData.erase "timestamp" = t'.contextData.erase "timestamp" := by
    show t.context.data.erase "timestamp" = t'.context.data.erase "timestamp"
    rw [data_erase_timestamp, data_erase_timestamp, hbinding, hprompts]
  rw [view, view, hchoice, hname, ha, hunanswered, hready, hdata]

/-- Whatever way a table was tried, the same calls lead to the same view. -/
theorem Placed.view_after (h : Placed known names schema database profile table t)
    (h' : Placed known names schema database profile table t') (hd : database ≠ "") (ha : t.answers = t'.answers)
    {calls : List Call} (hc : ∀ c ∈ calls, c.redirects = false) : (t.after calls).view = (t'.after calls).view :=
  (h.after hc).view_eq (h'.after hc) hd (by rw [answers_after, answers_after, ha])

/-! ### Starts -/

/-- What a start makes of a table that is given. -/
def tryGiven (connection : κ) (table : String) : Action (Workspace × σ) Context := do
  checkGivenTable connection (some table)
  initialContext connection (some table)

/-- A start with a table differs from one without in nothing else than what it makes of the table. -/
theorem start_of_tryGiven {s : Setup} {x rest : Workspace × σ} (hn : s.table = none) (h : start s x = (.ok t, rest))
    {context : Except Fault Context} {source : σ}
    (hg : tryGiven t.connection table (t.workspace, t.source) = (context, (t.workspace, source))) :
    (start { s with table := some table } x).1 = context.map fun context =>
      { t with
        prompts := Setup.prompts { s with table := some table } t.databaseName
        table := some table, context, source } := by
  simp only [start, Action.bind_eq_ok] at h
  obtain ⟨dsn, x₁, h₁, dir, x₂, h₂, c, x₃, h₃, _, x₄, h₄, _, x₅, h₅, x₆, x₇, h₆, engine, x₈, h₇, x₉, x₁₀, h₈, h⟩ := h
  rw [hn] at h₄ h₅
  cases h₄
  cases h₅
  cases h₆
  obtain ⟨hok, rfl⟩ := Prod.mk.inj h₇
  cases h₈
  cases h
  have hdsn : Setup.dsn { s with table := some table } = s.dsn := rfl
  have hdir : Setup.targetDir { s with table := some table } = s.targetDir := rfl
  have hengine : Setup.engine { s with table := some table } = s.engine := rfl
  have hg : (checkGivenTable c (some table) >>= fun _ => initialContext c (some table)) rest =
      (context, (rest.1, source)) := hg
  rw [Action.bind_apply] at hg
  simp only [start, hdsn, hdir, hengine, Action.bind_apply, h₁, h₂, h₃]
  -- Both the start and what it makes of the table stop at the first failure, and the workspace stays as it is.
  rcases hcheck : checkGivenTable c (some table) rest with ⟨e | _, y⟩ <;> rw [hcheck] at hg
  · cases hg
    rfl
  · simp only at hg ⊢
    rw [hg]
    cases context with
    | error e => rfl
    | ok context =>
      simp only [Action.get_apply, Action.ofExcept_apply, Action.pure_apply, hok, Except.map]
      rfl

/-- While no database is bound, a table that is given is only kept. -/
theorem tryGiven_of_unbound {connection : κ} (hd : Source.databaseName σ connection = "") (x : Workspace × σ) :
    tryGiven connection table x = (.ok {}, x) := by
  simp [tryGiven, checkGivenTable, initialContext, hd]

theorem start_with_table_of_unbound {s : Setup} {x rest : Workspace × σ} (hn : s.table = none)
    (h : start s x = (.ok t, rest)) (hd : t.databaseName = "") (table : String) :
    ∃ t₁ : Task σ κ, (start { s with table := some table } x).1 = .ok t₁ ∧ t₁.source = t.source ∧
      t₁.connection = t.connection :=
  ⟨_, start_of_tryGiven hn h (tryGiven_of_unbound hd _), rfl, rfl⟩

/-- A table that is given to a connection that serves is tried. -/
theorem tryGiven_of_serves {connection : κ} (hserves : Source.Serves known connection names schema)
    (hd : Source.databaseName σ connection ≠ "") (table : String) {w : Workspace} {source : σ} (hs : known source) :
    ∃ source', known source' ∧ tryGiven connection table (w, source) =
      ((attempt names schema table w.clock).map fun b => { binding? := some b }, (w, source')) := by
  obtain ⟨s₁, hs₁, hl⟩ := hserves.listTables hs
  obtain ⟨s₂, hs₂, hr⟩ := hserves.reflect hs₁
  by_cases hm : table ∈ names
  · refine ⟨s₂, hs₂, ?_⟩
    simp [tryGiven, checkGivenTable, initialContext, Action.bind_apply, inSource, hd, hl, hr, hm, attempt, Context.bind]
  · refine ⟨s₁, hs₁, ?_⟩
    simp [tryGiven, checkGivenTable, Action.bind_apply, inSource, hd, hl, hm, attempt, Except.map]

section Started

variable {s : Setup} {source : σ}

/-- Without a database or a table, a task starts unbound. -/
theorem Started.binding?_of_waiting (h : Started s source t) (hw : t.databaseName = "" ∨ t.table = none) :
    t.context.binding? = none := by
  obtain ⟨dsn, opened, -, ho⟩ := h.opened
  cases ho with
  | deferred _ _ hc => rw [hc]
  | eager ht hd => exact (hw.elim hd fun hn => by cases ht.symm.trans hn).elim

theorem Started.connected (h : Started s source t) (hs : known t.source)
    (hserves : Source.Serves known t.connection names schema) (hbound : t.databaseName = database) :
    Connected known names schema database s.profile t :=
  ⟨hs, hserves, hbound, ⟨_, h.listed⟩, h.inStep⟩

theorem Started.waits (h : Started s source t) (hs : known t.source)
    (hopens : Source.Opens known t.connection database names schema) :
    Waits known names schema database s.profile t :=
  ⟨hs, hopens, ⟨_, h.listed⟩, h.inStep⟩

end Started

/-- A start with a table whose connection serves tries the table. -/
theorem Connected.start_with_table {s : Setup} {x rest : Workspace × σ} (hn : s.table = none)
    (h : start s x = (.ok t, rest)) (hc : Connected known names schema database s.profile t) (hd : database ≠ "")
    (table : String) :
    (start { s with table := some table } x).1.map (fun _ : Task σ κ => ()) = verdict names schema table ∧
      ∀ t₁ : Task σ κ, (start { s with table := some table } x).1 = .ok t₁ →
        Placed known names schema database s.profile table t₁ ∧ t₁.answers = [] := by
  have hne : Source.databaseName σ t.connection ≠ "" := fun he => hd (hc.bound.symm.trans he)
  obtain ⟨source, hs, hg⟩ := tryGiven_of_serves hc.serves hne table (w := t.workspace) hc.source
  have hstart := start_of_tryGiven hn h hg
  constructor
  · rw [hstart, ← attempt_verdict names schema table t.workspace.clock]
    cases attempt names schema table t.workspace.clock <;> rfl
  · intro t₁ ht₁
    have hstarted : Started _ _ t₁ := start_started (Prod.ext ht₁ rfl)
    rw [hstart] at ht₁
    cases ha : attempt names schema table t.workspace.clock with
    | error e =>
      rw [ha] at ht₁
      cases ht₁
    | ok b =>
      rw [ha] at ht₁
      -- The table was bound, so it is one of those that are listed.
      have hm : table ∈ names := by
        by_contra hm
        rw [attempt, if_neg hm] at ha
        cases ha
      have hchoice := hstarted.table
      have hlisted := hstarted.listed
      have hstep := hstarted.inStep
      have hanswers := hstarted.answers
      cases ht₁
      refine ⟨{ source := hs, serves := hc.serves, bound := hc.bound, listed := ⟨_, hlisted⟩, inStep := hstep
                choice := ?_, binding := fun now => ?_ }, hanswers⟩
      · rw [if_pos hm]
      · rw [attempt_untimed names schema table now t.workspace.clock, ha]
        rfl

/-! ### Four ways -/

/-- **It does not matter when the database and the table are chosen.** Take a setup whose connection starts with the
database and one whose connection binds it later, both without a table. Then giving the table at the start, choosing it
afterwards, giving it before the database is chosen, and choosing both afterwards are accepted or rejected alike: the
table is rejected as one that does not exist exactly if it is not listed. Whatever is answered or skipped next, what a
caller sees is the same. -/
theorem ways_agree {early late : Setup} {x x' rest rest' : Workspace × σ} {t₂ t₄ : Task σ κ}
    (hprofile : late.profile = early.profile) (hearly : early.table = none) (hlate : late.table = none)
    (h₂ : start early x = (.ok t₂, rest)) (h₄ : start late x' = (.ok t₄, rest'))
    (hs₂ : known t₂.source) (hs₄ : known t₄.source) (hd : database ≠ "")
    (hbound : t₂.databaseName = database) (hserves : Source.Serves known t₂.connection names schema)
    (hunbound : t₄.databaseName = "") (hopens : Source.Opens known t₄.connection database names schema)
    (table : String) {calls : List Call} (hcalls : ∀ c ∈ calls, c.redirects = false) :
    ∃ t₃ : Task σ κ, (start { late with table := some table } x').1 = .ok t₃ ∧
      ((Call.giveDatabase database).perform t₄).1 = .ok () ∧
      (start { early with table := some table } x).1.map (fun _ : Task σ κ => ()) =
        ((Call.giveTable table).perform t₂).1 ∧
      ((Call.giveTable table).perform t₂).1 = ((Call.giveDatabase database).perform t₃).1 ∧
      ((Call.giveDatabase database).perform t₃).1 =
        ((Call.giveTable table).perform (t₄.after [.giveDatabase database])).1 ∧
      (((Call.giveTable table).perform t₂).1 = .error (noTable table) ↔ table ∉ names) ∧
      (∀ t₁ : Task σ κ, (start { early with table := some table } x).1 = .ok t₁ →
        (t₁.after calls).view = (t₂.after (.giveTable table :: calls)).view) ∧
      (t₂.after (.giveTable table :: calls)).view = (t₃.after (.giveDatabase database :: calls)).view ∧
      (t₃.after (.giveDatabase database :: calls)).view =
        (t₄.after (.giveDatabase database :: .giveTable table :: calls)).view := by
  have hstarted₂ : Started early x.2 t₂ := start_started h₂
  have hstarted₄ : Started late x'.2 t₄ := start_started h₄
  have hnone₂ : t₂.table = none := hstarted₂.table.trans hearly
  have hnone₄ : t₄.table = none := hstarted₄.table.trans hlate
  have hconnected := hstarted₂.connected hs₂ hserves hbound
  -- The table is given at the start.
  obtain ⟨hverdict₁, hplaced₁⟩ := hconnected.start_with_table hearly h₂ hd table
  -- The table is chosen once the task has started.
  obtain ⟨hverdict₂, hplaced₂⟩ :=
    hconnected.answer_table hd (hstarted₂.binding?_of_waiting (.inr hnone₂)) hnone₂ table
  -- The table is given at the start, and the database is chosen.
  obtain ⟨t₃, hstart₃, hsource₃, hconnection₃⟩ := start_with_table_of_unbound hlate h₄ hunbound table
  have hstarted₃ : Started _ x'.2 t₃ := start_started (Prod.ext hstart₃ rfl)
  have hname₃ : t₃.databaseName = "" := by
    rw [databaseName, hconnection₃]
    exact hunbound
  have hwaits₃ : Waits known names schema database late.profile t₃ :=
    hstarted₃.waits (hsource₃ ▸ hs₄) (hconnection₃ ▸ hopens)
  rw [hprofile] at hwaits₃
  obtain ⟨hverdict₃, hplaced₃⟩ :=
    hwaits₃.answer_database hd (hstarted₃.binding?_of_waiting (.inl hname₃)) hstarted₃.table
  -- The database is chosen, and then the table.
  have hwaits₄ := hstarted₄.waits hs₄ hopens
  rw [hprofile] at hwaits₄
  obtain ⟨t', hperform, hconnected', hnone', hunbound'⟩ :=
    hwaits₄.answer_database_of_none (hstarted₄.binding?_of_waiting (.inr hnone₄)) hnone₄
  obtain ⟨hverdict₄, hplaced₄⟩ := hconnected'.answer_table hd hunbound' hnone' table
  have hanswers₂ : ((Call.giveTable table).perform t₂).2.answers = [] :=
    (Call.answers_perform _ _).trans hstarted₂.answers
  have hanswers₃ : ((Call.giveDatabase database).perform t₃).2.answers = [] :=
    (Call.answers_perform _ _).trans hstarted₃.answers
  have hanswers₄ : ((Call.giveTable table).perform t').2.answers = [] := by
    have ht' : ((Call.giveDatabase database).perform t₄).2.answers = [] :=
      (Call.answers_perform _ _).trans hstarted₄.answers
    rw [hperform] at ht'
    exact (Call.answers_perform _ _).trans ht'
  refine ⟨t₃, hstart₃, by rw [hperform], hverdict₁.trans hverdict₂.symm, hverdict₂.trans hverdict₃.symm, ?_, ?_,
    fun t₁ ht₁ => ?_, ?_, ?_⟩
  · rw [hverdict₃, after_cons, after_nil, hperform, hverdict₄]
  · rw [hverdict₂, verdict_eq_noTable]
  · obtain ⟨hplaced, hanswers⟩ := hplaced₁ t₁ ht₁
    exact hplaced.view_after hplaced₂ hd (hanswers.trans hanswers₂.symm) hcalls
  · exact hplaced₂.view_after hplaced₃ hd (hanswers₂.trans hanswers₃.symm) hcalls
  · rw [after_cons t₄, hperform]
    exact hplaced₃.view_after hplaced₄ hd (hanswers₃.trans hanswers₄.symm) hcalls

theorem ways_agree_in_shop :
    ∃ (t₁ t₄ : Task Memory String) (rest₁ rest₄ : Workspace × Memory),
      start (Shop.setup (some "orders")) ({}, Shop.memory "shop") = (.ok t₁, rest₁) ∧
      start (Shop.setup none) ({}, Shop.memory "") = (.ok t₄, rest₄) ∧
      (t₁.after [.skip (.generic "title" Shop.title)]).view =
        (t₄.after [.answer .database (.str "shop"), .answer .table (.str "orders"),
          .skip (.generic "title" Shop.title)]).view := by
  have h₁ : start (Shop.setup (some "orders")) (({} : Workspace), Shop.memory "shop") = (.ok _, _) := rfl
  have h₂ : start (Shop.setup none) (({} : Workspace), Shop.memory "shop") = (.ok _, _) := rfl
  have h₄ : start (Shop.setup none) (({} : Workspace), Shop.memory "") = (.ok _, _) := rfl
  have hschema : OrderedMap.get? [("shop", Shop.schema)] "shop" = some Shop.schema := rfl
  have hcalls : ∀ c ∈ [Call.skip (.generic "title" Shop.title)], c.redirects = false := by simp [Call.redirects]
  -- The states that are known are those with the same schema in memory.
  obtain ⟨t₃, -, -, -, -, -, -, hviews, hview, hview'⟩ := ways_agree rfl rfl rfl h₂ h₄ (by rfl) (by rfl) (by decide) rfl
    (Memory.serves (by decide) hschema) rfl (Memory.opens "" (by decide) hschema) "orders" hcalls
  exact ⟨_, _, _, _, h₁, h₄, ((hviews _ rfl).trans hview).trans hview'⟩

end Stencil.Task
