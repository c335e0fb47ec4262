import Stencil.Proofs.Action
import Stencil.Task.Start

namespace Stencil.Task

/-!
# Calls on a task

A caller answers the prompts of a task or passes them over. A call has two halves: it first takes what it is
given, and if that succeeds it brings the context up to date. What either half can do to a task is listed once,
case by case; everything that holds along runs is derived from these lists.

* `Call`, `Call.perform`, `after` — calls, and the state after several of them, whether they fail or not;
* `Taken` — what a call can do before the context is brought up to date;
* `Settled` — a context is not bound because the database or the table is not known;
* `Updated` — what bringing the context up to date can do;
* `Call.perform_cases`, `Call.halves_of_ok` — a call is a failed first half, or both halves;
* `binding_after` — a binding is never changed.
-/

variable {σ κ : Type}

/-! ### Calls -/

/-- What a caller does with a task: it answers a prompt, or passes one over. -/
inductive Call where
  | answer (p : TaskPrompt) (value : Value)
  | skip (p : TaskPrompt)

namespace Call

/-- The prompt that a call is about. -/
def prompt : Call → TaskPrompt
  | .answer p _ => p
  | .skip p => p

/-- The answers with what a call records, if it records something. -/
def record (c : Call) (answers : OrderedMap Value) : OrderedMap Value :=
  match c with
  | .answer (.generic id d) v => if d.required && v.isBlank then answers else answers.put id v
  | .skip (.generic id _) => answers.put id (.str "")
  | _ => answers

/-- A call records one answer at most, to its own prompt. -/
theorem record_cases (c : Call) (answers : OrderedMap Value) :
    c.record answers = answers ∨ ∃ id d v, c.prompt = .generic id d ∧ c.record answers = answers.put id v := by
  -- Only answers to prompts of the profile, and prompts that are passed over, leave something on record.
  rcases c with ⟨_ | _ | ⟨id, d⟩, v⟩ | ⟨_ | _ | ⟨id, d⟩⟩
  · exact .inl rfl
  · exact .inl rfl
  · by_cases h : d.required = true ∧ v.isBlank = true
    · exact .inl (by simp [record, h])
    · exact .inr ⟨id, d, v, rfl, by simp [record, h]⟩
  · exact .inl rfl
  · exact .inl rfl
  · exact .inr ⟨id, d, .str "", rfl, rfl⟩

variable [Source σ κ]

/-- Do a call. -/
def perform : Call → Action (Task σ κ) Unit
  | .answer p value => Task.answer p value
  | .skip p => Task.skip p

/-- The first half of a call: all but bringing the context up to date. -/
def take : Call → Action (Task σ κ) Unit
  | .answer .database value => answerDatabase value.text
  | .answer .table value => answerTable value
  | .answer (.generic id d) value => answerGeneric id d value
  | .skip (.generic id _) => modify fun t => { t with answers := t.answers.put id (.str "") }
  | .skip p => throw (.runtime ("Cannot skip the " ++ p.name ++ " prompt"))

theorem perform_eq (c : Call) : (c.perform : Action (Task σ κ) Unit) = c.take >>= fun _ => updateContext := by
  rcases c with ⟨_ | _ | _, _⟩ | ⟨_ | _ | _⟩ <;> rfl

end Call

/-! ### States -/

/-- A task with more records in its log. -/
def reported (t : Task σ κ) (records : List LogRecord) : Task σ κ :=
  { t with workspace := records.foldl Workspace.report t.workspace }

theorem report_apply (records : List LogRecord) (t : Task σ κ) :
    report records t = (.ok (), t.reported records) := rfl

/-- A task whose context has been given all answers. -/
def folded (t : Task σ κ) : Task σ κ :=
  { t with context := t.answers.foldl (fun c e => c.setAnswer e.1 e.2) t.context }

theorem foldAnswers_apply (t : Task σ κ) : foldAnswers t = (.ok (), t.folded) := rfl

theorem foldl_setAnswer (answers : OrderedMap Value) (c : Context) :
    answers.foldl (fun c (e : String × Value) => c.setAnswer e.1 e.2) c =
      { c with prompts := answers.foldl (fun m (e : String × Value) => OrderedMap.put m e.1 e.2) c.prompts } := by
  induction answers generalizing c with
  | nil => rfl
  | cons e answers ih => exact ih (c.setAnswer e.1 e.2)

@[simp] theorem binding?_folded (t : Task σ κ) : t.folded.context.binding? = t.context.binding? := by
  rw [folded, foldl_setAnswer]

@[simp] theorem isBound_folded (t : Task σ κ) : t.folded.context.isBound = t.context.isBound := by
  rw [Context.isBound, binding?_folded, Context.isBound]

theorem prompts_folded (t : Task σ κ) :
    t.folded.context.prompts =
      t.answers.foldl (fun m (e : String × Value) => OrderedMap.put m e.1 e.2) t.context.prompts := by
  rw [folded, foldl_setAnswer]

/-! ### Runs -/

variable [Source σ κ]

/-- The state after some calls. A call that fails leaves what it did before it failed. -/
def after (t : Task σ κ) (calls : List Call) : Task σ κ :=
  calls.foldl (fun t c => (c.perform t).2) t

@[simp] theorem after_nil (t : Task σ κ) : t.after [] = t := rfl

@[simp] theorem after_cons (t : Task σ κ) (c : Call) (calls : List Call) :
    t.after (c :: calls) = (c.perform t).2.after calls := rfl

theorem after_append (t : Task σ κ) (before calls : List Call) :
    t.after (before ++ calls) = (t.after before).after calls :=
  List.foldl_append

/-- What holds of a task and survives every call holds after all calls. -/
theorem after_induction {P : Task σ κ → Prop} (step : ∀ t (c : Call), P t → P (c.perform t).2)
    {t : Task σ κ} (h : P t) (calls : List Call) : P (t.after calls) := by
  induction calls generalizing t with
  | nil => exact h
  | cons c calls ih => exact ih (step t c h)

/-- A task whose connection has bound a database. -/
def switched (t : Task σ κ) (name : String) (c : κ) (s : σ) : Task σ κ :=
  reported { t with source := s, connection := c } (Source.bindReport σ name)

@[simp] theorem switched_source (t : Task σ κ) (name : String) (c : κ) (s : σ) :
    (t.switched name c s).source = s := rfl

@[simp] theorem switched_connection (t : Task σ κ) (name : String) (c : κ) (s : σ) :
    (t.switched name c s).connection = c := rfl

/-! ### The first half of a call -/

/-- What the first half of a call can do. -/
inductive Taken (t : Task σ κ) : Call → Except Fault Unit → Task σ κ → Prop where
  /-- the database cannot be bound -/
  | refused {v e s} (hb : Source.bind t.connection v.text t.source = (.error e, s)) :
      Taken t (.answer .database v) (.error e) { t with source := s }
  /-- a database is bound before there is a table -/
  | rebound {v c s} (hb : Source.bind t.connection v.text t.source = (.ok c, s)) (ht : t.table = none) :
      Taken t (.answer .database v) (.ok ()) (t.switched v.text c s)
  /-- a database is bound that may not have the table -/
  | unchecked {v c s table e s'} (hb : Source.bind t.connection v.text t.source = (.ok c, s))
      (ht : t.table = some table) (hl : Source.listTables c s = (.error e, s')) :
      Taken t (.answer .database v) (.error e) (t.switched v.text c s')
  /-- a database is bound that does not have the table -/
  | dropped {v c s table names s'} (hb : Source.bind t.connection v.text t.source = (.ok c, s))
      (ht : t.table = some table) (hl : Source.listTables c s = (.ok names, s')) (hn : table ∉ names) :
      Taken t (.answer .database v) (.error (noTable table))
        { t.switched v.text c s' with table := none, prompts := withTablePrompt t.prompts }
  /-- a database is bound that has the table -/
  | checked {v c s table names s'} (hb : Source.bind t.connection v.text t.source = (.ok c, s))
      (ht : t.table = some table) (hl : Source.listTables c s = (.ok names, s')) (hm : table ∈ names) :
      Taken t (.answer .database v) (.ok ()) (t.switched v.text c s')
  /-- the tables cannot be listed -/
  | unlisted {v e s} (hl : Source.listTables t.connection t.source = (.error e, s)) :
      Taken t (.answer .table v) (.error e) { t with source := s }
  /-- the table is not listed -/
  | unknown {v names s} (hl : Source.listTables t.connection t.source = (.ok names, s))
      (hn : ∀ table, v.asText? = some table → table ∉ names) :
      Taken t (.answer .table v) (.error (noTable v.text)) { t with source := s }
  /-- the table is chosen -/
  | chosen {v table names s} (hl : Source.listTables t.connection t.source = (.ok names, s))
      (hv : v.asText? = some table) (hm : table ∈ names) :
      Taken t (.answer .table v) (.ok ())
        (reported { t with source := s, table := some table } [.info ("Subject table: " ++ table)])
  /-- a required answer is blank -/
  | blank {id d v} (hr : d.required = true) (hb : v.isBlank = true) :
      Taken t (.answer (.generic id d) v)
        (.error (.validation ("Invalid answer to prompt " ++ id ++ ": a value is required"))) t
  /-- an answer is recorded -/
  | recorded {id d v} (h : d.required = true → v.isBlank = false) :
      Taken t (.answer (.generic id d) v) (.ok ()) { t with answers := t.answers.put id v }
  /-- a prompt is passed over -/
  | skipped {id d} :
      Taken t (.skip (.generic id d)) (.ok ()) { t with answers := t.answers.put id (.str "") }
  /-- the prompt for the database or the table is not passed over -/
  | kept {p} (hp : p.kind ≠ .generic) :
      Taken t (.skip p) (.error (.runtime ("Cannot skip the " ++ p.name ++ " prompt"))) t

theorem checkPendingTable_of_none {t : Task σ κ} (ht : t.table = none) : checkPendingTable t = (.ok (), t) := by
  simp [checkPendingTable, Action.bind_apply, ht]

theorem checkPendingTable_of_error {t : Task σ κ} {table : String} {e : Fault} {s : σ}
    (ht : t.table = some table) (hl : Source.listTables t.connection t.source = (.error e, s)) :
    checkPendingTable t = (.error e, { t with source := s }) := by
  simp [checkPendingTable, Action.bind_apply, onSource, ht, hl]

theorem checkPendingTable_of_mem {t : Task σ κ} {table : String} {names : List String} {s : σ}
    (ht : t.table = some table) (hl : Source.listTables t.connection t.source = (.ok names, s))
    (hm : table ∈ names) : checkPendingTable t = (.ok (), { t with source := s }) := by
  simp [checkPendingTable, Action.bind_apply, onSource, ht, hl, hm]

theorem checkPendingTable_of_not_mem {t : Task σ κ} {table : String} {names : List String} {s : σ}
    (ht : t.table = some table) (hl : Source.listTables t.connection t.source = (.ok names, s))
    (hn : table ∉ names) :
    checkPendingTable t = (.error (noTable table),
      { t with source := s, table := none, prompts := withTablePrompt t.prompts }) := by
  simp [checkPendingTable, Action.bind_apply, onSource, ht, hl, hn]

theorem answerDatabase_of_error {t : Task σ κ} {name : String} {e : Fault} {s : σ}
    (hb : Source.bind t.connection name t.source = (.error e, s)) :
    answerDatabase name t = (.error e, { t with source := s }) := by
  simp [answerDatabase, Action.bind_apply, onSource, hb]

/-- Once the database is bound, the table decides. -/
theorem answerDatabase_of_ok {t : Task σ κ} {name : String} {c : κ} {s : σ}
    (hb : Source.bind t.connection name t.source = (.ok c, s)) :
    answerDatabase name t = checkPendingTable (t.switched name c s) := by
  simp [answerDatabase, Action.bind_apply, onSource, hb, report_apply, switched, reported]

variable {t t₁ : Task σ κ} {c : Call} {r : Except Fault Unit}

/-- What `Taken` lists is what the first half of a call does. -/
theorem Taken.take_eq (h : Taken t c r t₁) : c.take t = (r, t₁) := by
  cases h with
  | refused hb => exact answerDatabase_of_error hb
  | rebound hb ht => exact (answerDatabase_of_ok hb).trans (checkPendingTable_of_none ht)
  | unchecked hb ht hl => exact (answerDatabase_of_ok hb).trans (checkPendingTable_of_error ht hl)
  | dropped hb ht hl hn => exact (answerDatabase_of_ok hb).trans (checkPendingTable_of_not_mem ht hl hn)
  | checked hb ht hl hm => exact (answerDatabase_of_ok hb).trans (checkPendingTable_of_mem ht hl hm)
  | unlisted hl => simp [Call.take, answerTable, Action.bind_apply, onSource, hl]
  | @unknown v names s hl hn =>
    have hfilter : v.asText?.filter names.contains = none := by
      simpa [Option.filter_eq_none_iff] using hn
    simp [Call.take, answerTable, Action.bind_apply, onSource, hl, hfilter]
  | @chosen v table names s hl hv hm =>
    have hfilter : v.asText?.filter names.contains = some table := by
      simp [Option.filter_eq_some_iff, hv, hm]
    simp [Call.take, answerTable, Action.bind_apply, onSource, hl, hfilter, report_apply]
  | blank hr hb => simp [Call.take, answerGeneric, hr, hb]
  | @recorded id d v h =>
    have hvalid : ¬(d.required = true ∧ v.isBlank = true) := fun ⟨hr, hb⟩ => by
      rw [h hr] at hb
      cases hb
    simp [Call.take, answerGeneric, hvalid]
  | skipped => rfl
  | @kept p hp =>
    cases p with
    | database | table => rfl
    | generic => exact absurd rfl hp

theorem taken_database (t : Task σ κ) (v : Value) : ∃ r t₁, Taken t (.answer .database v) r t₁ := by
  rcases hb : Source.bind t.connection v.text t.source with ⟨e | c, s⟩
  · exact ⟨_, _, .refused hb⟩
  · rcases Option.eq_none_or_eq_some t.table with ht | ⟨table, ht⟩
    · exact ⟨_, _, .rebound hb ht⟩
    · rcases hl : Source.listTables c s with ⟨e | names, s'⟩
      · exact ⟨_, _, .unchecked hb ht hl⟩
      · by_cases hm : table ∈ names
        · exact ⟨_, _, .checked hb ht hl hm⟩
        · exact ⟨_, _, .dropped hb ht hl hm⟩

theorem taken_table (t : Task σ κ) (v : Value) : ∃ r t₁, Taken t (.answer .table v) r t₁ := by
  rcases hl : Source.listTables t.connection t.source with ⟨e | names, s⟩
  · exact ⟨_, _, .unlisted hl⟩
  · cases hv : v.asText?.filter names.contains with
    | none =>
      refine ⟨_, _, .unknown hl fun table ht hm => ?_⟩
      simp [ht, Option.filter, hm] at hv
    | some table =>
      obtain ⟨ht, hm⟩ := Option.filter_eq_some_iff.mp hv
      exact ⟨_, _, .chosen hl ht (List.contains_iff_mem.mp hm)⟩

theorem taken_generic (t : Task σ κ) (id : String) (d : PromptDefinition) (v : Value) :
    ∃ r t₁, Taken t (.answer (.generic id d) v) r t₁ := by
  by_cases h : d.required = true ∧ v.isBlank = true
  · exact ⟨_, _, .blank h.1 h.2⟩
  · exact ⟨_, _, .recorded fun hr => by simpa [hr] using h⟩

/-- The first half of a call does what `Taken` lists. -/
theorem Call.take_taken (c : Call) (t : Task σ κ) : Taken t c (c.take t).1 (c.take t).2 := by
  have hsome : ∃ r t₁, Taken t c r t₁ := by
    rcases c with ⟨_ | _ | ⟨id, d⟩, v⟩ | ⟨_ | _ | ⟨id, d⟩⟩
    · exact taken_database t v
    · exact taken_table t v
    · exact taken_generic t id d v
    · exact ⟨_, _, .kept (p := .database) (by decide)⟩
    · exact ⟨_, _, .kept (p := .table) (by decide)⟩
    · exact ⟨_, _, .skipped⟩
  obtain ⟨r, t₁, h⟩ := hsome
  rw [h.take_eq]
  exact h

/-! ### What the first half keeps -/

theorem Taken.context_eq (h : Taken t c r t₁) : t₁.context = t.context := by
  cases h <;> rfl

/-- What the first half of a call does to the answers. -/
theorem Taken.answers_eq (h : Taken t c r t₁) : t₁.answers = c.record t.answers := by
  cases h with
  | blank hr hb => simp [Call.record, hr, hb]
  | @recorded id d v h =>
    cases hr : d.required with
    | false => simp [Call.record, hr]
    | true => simp [Call.record, hr, h hr]
  | @kept p hp => cases p <;> first | rfl | exact absurd rfl hp
  | _ => rfl

/-- A first half that fails records no answer. -/
theorem Taken.answers_of_error {e : Fault} (h : Taken t c (.error e) t₁) : t₁.answers = t.answers := by
  cases h <;> rfl

/-- What binding databases and listing tables keep true of a source, the first half of a call keeps true. -/
theorem Taken.source_induction {P : σ → Prop} (bind : ∀ c name s, P s → P (Source.bind c name s).2)
    (list : ∀ c s, P s → P (Source.listTables c s).2) (h : Taken t c r t₁) (hs : P t.source) : P t₁.source := by
  -- Each way through the first half binds once at most and then lists once at most.
  have hbind : ∀ {v c' s}, Source.bind t.connection v t.source = (c', s) → P s := fun {v _ _} hb => by
    simpa only [hb] using bind t.connection v _ hs
  have hlist : ∀ {k names s s'}, Source.listTables k s = (names, s') → P s → P s' := fun {k _ s _} hl hp => by
    simpa only [hl] using list k s hp
  cases h with
  | refused hb => exact hbind hb
  | rebound hb => exact hbind hb
  | unchecked hb _ hl => exact hlist hl (hbind hb)
  | dropped hb _ hl => exact hlist hl (hbind hb)
  | checked hb _ hl => exact hlist hl (hbind hb)
  | unlisted hl => exact hlist hl hs
  | unknown hl => exact hlist hl hs
  | chosen hl => exact hlist hl hs
  | _ => exact hs

/-- A first half that succeeds touches neither the connection nor the table, or there is no table, or the last thing
it did with the source, perhaps after binding a database, was to find the table among those listed. -/
theorem Taken.vetted (h : Taken t c (.ok ()) t₁) :
    (t₁.connection = t.connection ∧ t₁.table = t.table) ∨ t₁.table = none ∨
      ∃ table names s, t₁.table = some table ∧ Source.listTables t₁.connection s = (.ok names, t₁.source) ∧
        table ∈ names ∧ (s = t.source ∨ ∃ name, s = (Source.bind t.connection name t.source).2) := by
  cases h with
  | rebound _ ht => exact .inr (.inl ht)
  | checked hb ht hl hm => exact .inr (.inr ⟨_, _, _, ht, hl, hm, .inr ⟨_, by rw [hb]⟩⟩)
  | chosen hl _ hm => exact .inr (.inr ⟨_, _, _, rfl, hl, hm, .inl rfl⟩)
  | recorded => exact .inl ⟨rfl, rfl⟩
  | skipped => exact .inl ⟨rfl, rfl⟩

/-- A first half that fails leaves the connection as it is, or it drops the table, or it could not list the
tables. -/
theorem Taken.failed {e : Fault} (h : Taken t c (.error e) t₁) :
    (t₁.connection = t.connection ∧ t₁.table = t.table) ∨ t₁.table = none ∨
      ∃ s, Source.listTables t₁.connection s = (.error e, t₁.source) := by
  cases h with
  | unchecked _ _ hl => exact .inr (.inr ⟨_, hl⟩)
  | dropped => exact .inr (.inl rfl)
  | _ => exact .inl ⟨rfl, rfl⟩

/-- While the context is not bound, the database or the table is not known. -/
def Settled (t : Task σ κ) : Prop :=
  t.context.isBound = false → t.databaseName = "" ∨ t.table = none

/-- If a settled task knows its database and its table once the first half of a call has succeeded, the table has
just been found among those listed. -/
theorem Settled.vetted (h : Settled t) (ht : Taken t c (.ok ()) t₁) {table : String}
    (hu : t₁.context.isBound = false) (hd : t₁.databaseName ≠ "") (htable : t₁.table = some table) :
    ∃ names s, Source.listTables t₁.connection s = (.ok names, t₁.source) ∧ table ∈ names ∧
      (s = t.source ∨ ∃ name, s = (Source.bind t.connection name t.source).2) := by
  rcases ht.vetted with ⟨hk, htab⟩ | hnone | ⟨table', names, s, hsome, hl, hm, hs⟩
  · -- Nothing has changed, so what the task lacked before the call it still lacks.
    rw [databaseName, hk] at hd
    rcases h (ht.context_eq ▸ hu) with hd' | hnone
    · exact absurd hd' hd
    · cases htable.symm.trans (htab.trans hnone)
  · cases htable.symm.trans hnone
  · obtain rfl := Option.some.inj (htable.symm.trans hsome)
    exact ⟨names, s, hl, hm, hs⟩

/-- A task stays settled if the first half of a call fails other than in listing the tables. -/
theorem Settled.failed {e : Fault} (h : Settled t) (ht : Taken t c (.error e) t₁)
    (hl : ∀ s, Source.listTables t₁.connection s ≠ (.error e, t₁.source)) : Settled t₁ := by
  intro hu
  rcases ht.failed with ⟨hk, htab⟩ | hnone | ⟨s, hl'⟩
  · rw [databaseName, hk, htab]
    exact h (ht.context_eq ▸ hu)
  · exact .inr hnone
  · exact absurd hl' (hl s)

/-! ### The second half of a call -/

/-- What bringing the context up to date can do. -/
inductive Updated (t : Task σ κ) : Except Fault Unit → Task σ κ → Prop where
  /-- a bound context is given all answers -/
  | folded (hb : t.context.isBound = true) : Updated t (.ok ()) t.folded
  /-- the database or the table is not known yet -/
  | waiting (hu : t.context.binding? = none) (hw : t.databaseName = "" ∨ t.table = none) :
      Updated t (.ok ()) t
  /-- the schema cannot be reflected -/
  | unreflected {table e s} (hu : t.context.binding? = none) (hd : t.databaseName ≠ "")
      (ht : t.table = some table) (hr : Source.reflect t.connection t.source = (.error e, s)) :
      Updated t (.error e) { t with source := s }
  /-- the schema does not have the table -/
  | unmatched {table schema s} (hu : t.context.binding? = none) (hd : t.databaseName ≠ "")
      (ht : t.table = some table) (hr : Source.reflect t.connection t.source = (.ok schema, s))
      (hs : schema.table? table = none) :
      Updated t (.error (.validation ("Table not found: " ++ table))) { t with source := s }
  /-- the context is bound and given all answers -/
  | bound {table schema s b} (hu : t.context.binding? = none) (hd : t.databaseName ≠ "")
      (ht : t.table = some table) (hr : Source.reflect t.connection t.source = (.ok schema, s))
      (hs : Binding.create schema table t.workspace.clock = .ok b) :
      Updated t (.ok ())
        (Task.folded { t with source := s, context := { t.context with binding? := some b } })

theorem isBound_eq_false {c : Context} : c.isBound = false ↔ c.binding? = none := by
  simp [Context.isBound]

theorem isBound_iff {c : Context} : c.isBound = true ↔ ∃ b, c.binding? = some b :=
  Option.isSome_iff_exists

/-- What `Updated` lists is what bringing the context up to date does. -/
theorem Updated.update_eq (h : Updated t r t₁) : updateContext t = (r, t₁) := by
  cases h with
  | folded hb => simp [updateContext, Action.bind_apply, hb, foldAnswers_apply]
  | waiting hu hw =>
    rcases hw with hd | ht
    · cases ht : t.table <;> simp [updateContext, Action.bind_apply, isBound_eq_false.mpr hu, ht, hd]
    · simp [updateContext, Action.bind_apply, isBound_eq_false.mpr hu, ht]
  | unreflected hu hd ht hr =>
    simp [updateContext, bindContext, Action.bind_apply, onSource, isBound_eq_false.mpr hu, ht, hd, hr]
  | unmatched hu hd ht hr hs =>
    simp [updateContext, bindContext, Action.bind_apply, onSource, isBound_eq_false.mpr hu, ht, hd, hr, Context.bind,
      hu, Binding.create, hs, Except.map]
  | bound hu hd ht hr hc =>
    simp [updateContext, bindContext, Action.bind_apply, onSource, isBound_eq_false.mpr hu, ht, hd, hr, Context.bind,
      hu, hc, Except.map, foldAnswers_apply]

/-- Bringing the context up to date does what `Updated` lists. -/
theorem updateContext_updated (t : Task σ κ) : Updated t (updateContext t).1 (updateContext t).2 := by
  have hsome : ∃ r t', Updated t r t' := by
    -- The cases follow the questions of the program: is the context bound, is there a table, a database, a schema?
    cases hu : t.context.binding? with
    | some b => exact ⟨_, _, .folded (isBound_iff.mpr ⟨b, hu⟩)⟩
    | none =>
      cases ht : t.table with
      | none => exact ⟨_, _, .waiting hu (.inr ht)⟩
      | some table =>
        by_cases hd : t.databaseName = ""
        · exact ⟨_, _, .waiting hu (.inl hd)⟩
        · rcases hr : Source.reflect t.connection t.source with ⟨e | schema, s⟩
          · exact ⟨_, _, .unreflected hu hd ht hr⟩
          · cases hs : schema.table? table with
            | none => exact ⟨_, _, .unmatched hu hd ht hr hs⟩
            | some info =>
              obtain ⟨b, hc⟩ : ∃ b, Binding.create schema table t.workspace.clock = .ok b := by
                simp [Binding.create, hs]
              exact ⟨_, _, .bound hu hd ht hr hc⟩
  obtain ⟨r, t', h⟩ := hsome
  rw [h.update_eq]
  exact h

/-- Once the context is up to date, it is bound if it can be. -/
theorem Updated.settled_of_ok (h : Updated t (.ok ()) t₁) : Settled t₁ := by
  intro hf
  cases h with
  | folded hb => cases hf.symm.trans ((isBound_folded t).trans hb)
  | waiting _ hw => exact hw
  | bound => cases hf.symm.trans (isBound_folded _)

/-! ### Both halves -/

/-- A call whose first half fails fails as this does. -/
theorem Taken.perform_of_error {e : Fault} (h : Taken t c (.error e) t₁) : c.perform t = (.error e, t₁) := by
  rw [c.perform_eq, Action.bind_apply, h.take_eq]

/-- A call whose first half succeeds ends as bringing the context up to date does. -/
theorem Taken.perform_of_ok {t' : Task σ κ} (h : Taken t c (.ok ()) t₁) (hu : Updated t₁ r t') :
    c.perform t = (r, t') := by
  rw [c.perform_eq, Action.bind_apply, h.take_eq]
  exact hu.update_eq

/-- A call fails in its first half, or it goes through both. -/
theorem Call.perform_cases (c : Call) (t : Task σ κ) :
    (∃ e, Taken t c (.error e) (c.perform t).2 ∧ (c.perform t).1 = .error e) ∨
      ∃ t₁, Taken t c (.ok ()) t₁ ∧ Updated t₁ (c.perform t).1 (c.perform t).2 := by
  have ht := c.take_taken t
  rcases htake : c.take t with ⟨e | _, t₁⟩ <;> rw [htake] at ht
  · rw [ht.perform_of_error]
    exact .inl ⟨e, ht, rfl⟩
  · have hu := updateContext_updated t₁
    rw [ht.perform_of_ok hu]
    exact .inr ⟨t₁, ht, hu⟩

/-- A call that succeeds goes through both halves. -/
theorem Call.halves_of_ok (h : (c.perform t).1 = .ok ()) :
    ∃ t₁, Taken t c (.ok ()) t₁ ∧ Updated t₁ (.ok ()) (c.perform t).2 := by
  rcases c.perform_cases t with ⟨e, -, he⟩ | ⟨t₁, ht, hu⟩
  · cases h.symm.trans he
  · exact ⟨t₁, ht, h ▸ hu⟩

theorem Updated.answers_eq (h : Updated t r t₁) : t₁.answers = t.answers := by
  cases h <;> rfl

/-- What a call does to the answers, whether it fails or not. -/
theorem Call.answers_perform (c : Call) (t : Task σ κ) : (c.perform t).2.answers = c.record t.answers := by
  rcases c.perform_cases t with ⟨e, ht, -⟩ | ⟨t₁, ht, hu⟩
  · exact ht.answers_eq
  · exact hu.answers_eq.trans ht.answers_eq

/-- An answer that is accepted is recorded. -/
theorem Call.answers_of_ok {id : String} {d : PromptDefinition} {v : Value} {t' : Task σ κ}
    (h : (Call.answer (.generic id d) v).perform t = (.ok (), t')) : t'.answers = t.answers.put id v := by
  obtain ⟨t₁, ht, hu⟩ := Call.halves_of_ok (congrArg Prod.fst h)
  rw [h] at hu
  rw [hu.answers_eq]
  cases ht
  rfl

/-! ### The binding -/

theorem Updated.binding?_eq {b : Binding} (h : Updated t r t₁) (hb : t.context.binding? = some b) :
    t₁.context.binding? = some b := by
  cases h with
  | folded => rw [binding?_folded, hb]
  -- All other cases are about a context that is not bound.
  | waiting hu => cases hb.symm.trans hu
  | unreflected hu => cases hb.symm.trans hu
  | unmatched hu => cases hb.symm.trans hu
  | bound hu => cases hb.symm.trans hu

theorem Call.binding?_perform (c : Call) {b : Binding} (hb : t.context.binding? = some b) :
    (c.perform t).2.context.binding? = some b := by
  rcases c.perform_cases t with ⟨e, ht, -⟩ | ⟨t₁, ht, hu⟩
  · rw [ht.context_eq, hb]
  · exact hu.binding?_eq (ht.context_eq ▸ hb)

/-- **A binding is never changed.** Whatever calls follow, and whether they fail or not. -/
theorem binding_after {b : Binding} (hb : t.context.binding? = some b) (calls : List Call) :
    (t.after calls).context.binding? = some b :=
  after_induction (P := fun t => t.context.binding? = some b) (fun _ c => c.binding?_perform) hb calls

end Stencil.Task
