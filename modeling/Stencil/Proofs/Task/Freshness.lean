import Stencil.Proofs.Source.Steady
import Stencil.Proofs.Task.Start

namespace Stencil.Task

/-!
# What the context is bound to

A context is bound once, to the table and the schema of that moment. It does not follow if another database or
table is chosen afterwards; but a prompt for either that has its answer is not asked again, so only a caller who
answers such a prompt unasked can see a context that shows something else than the task.

* `Fresh` — the context shows the database and the table of the task;
* `Fresh.perform` — a call keeps the context fresh unless it redirects a task that is bound;
* `Orderly` — runs that answer the prompts for the database and the table only while these wait;
* `binding_of_its_moment` — every binding was fresh when it was made.
-/

variable {σ κ : Type} [Source σ κ] {known : σ → Prop} {t t₁ : Task σ κ} {c : Call} {r : Except Fault Unit}

/-- A schema that is reflected over a connection in some known state of the source. -/
def Shows (known : σ → Prop) (c : κ) (d : Database) : Prop :=
  ∃ s s', known s ∧ Source.reflect c s = (.ok d, s')

/-- If the context is bound, a database is, and the binding shows the table and a schema of the connection. -/
def Fresh (known : σ → Prop) (t : Task σ κ) : Prop :=
  ∀ b, t.context.binding? = some b →
    t.databaseName ≠ "" ∧ t.table = some b.tableName ∧ Shows known t.connection b.database

/-- Whether a call answers the prompt for the database or the table. -/
def Call.redirects : Call → Bool
  | .answer .database _ => true
  | .answer .table _ => true
  | _ => false

/-! ### Known states -/

theorem Taken.known_source (hk : Source.Keeps known) (h : Taken t c r t₁) (hs : known t.source) : known t₁.source :=
  h.source_induction hk.bind hk.listTables hs

theorem Updated.known_source (hk : Source.Keeps known) (h : Updated t r t₁) (hs : known t.source) :
    known t₁.source := by
  cases h with
  | folded => exact hs
  | waiting => exact hs
  | unreflected _ _ _ hr => exact hk.of_reflect hs hr
  | unmatched _ _ _ hr => exact hk.of_reflect hs hr
  | bound _ _ _ hr => exact hk.of_reflect hs hr

theorem Call.known_perform (hk : Source.Keeps known) (c : Call) (hs : known t.source) :
    known (c.perform t).2.source := by
  rcases c.perform_cases t with ⟨e, ht, -⟩ | ⟨t₁, ht, hu⟩
  · exact ht.known_source hk hs
  · exact hu.known_source hk (ht.known_source hk hs)

theorem Started.known_source {s : Setup} {source : σ} (hk : Source.Keeps known) (hs : known source)
    (h : Started s source t) : known t.source := by
  obtain ⟨dsn, opened, hc, ho⟩ := h.opened
  have hopened := hk.of_connect hs hc
  cases ho with
  | deferred _ hs _ => exact hs ▸ hopened
  | eager _ _ hl _ hr => exact hk.of_reflect (hk.of_listTables hopened hl) hr

/-! ### Steps -/

theorem fresh_of_unbound (hu : t.context.binding? = none) : Fresh known t := fun b hb => by
  cases hu.symm.trans hb

theorem Binding.of_create {d : Database} {table : String} {now : DateTime} {b : Binding}
    (h : Binding.create d table now = .ok b) : b.database = d ∧ b.tableName = table := by
  unfold Binding.create at h
  cases ht : d.table? table <;> rw [ht] at h <;> cases h
  exact ⟨rfl, rfl⟩

theorem Taken.target_eq (h : Taken t c r t₁) (hc : c.redirects = false) :
    t₁.connection = t.connection ∧ t₁.table = t.table := by
  cases h <;> first | exact ⟨rfl, rfl⟩ | cases hc

theorem Updated.target_eq (h : Updated t r t₁) : t₁.connection = t.connection ∧ t₁.table = t.table := by
  cases h <;> exact ⟨rfl, rfl⟩

/-- Bringing the context up to date keeps it fresh, whether it binds it or not. -/
theorem Fresh.updated (h : Fresh known t) (hs : known t.source) (hu : Updated t r t₁) : Fresh known t₁ := by
  cases hu with
  | folded =>
    intro b hb
    rw [binding?_folded] at hb
    exact h b hb
  | waiting => exact h
  | unreflected => exact h
  | unmatched => exact h
  | bound _ hd ht hr hc =>
    intro b hb
    rw [binding?_folded] at hb
    obtain rfl := Option.some.inj hb
    obtain ⟨rfl, rfl⟩ := Binding.of_create hc
    exact ⟨hd, ht, _, _, hs, hr⟩

theorem Fresh.taken (h : Fresh known t) (ht : Taken t c r t₁)
    (hc : c.redirects = true → t.context.binding? = none) : Fresh known t₁ := by
  -- A call that redirects finds no binding, by assumption; any other leaves the connection and the table.
  cases hr : c.redirects with
  | true => exact fresh_of_unbound (ht.context_eq ▸ hc hr)
  | false =>
    obtain ⟨hk, htab⟩ := ht.target_eq hr
    unfold Fresh
    rw [ht.context_eq, databaseName, hk, htab]
    exact h

/-- A call keeps the context fresh, unless it redirects a task whose context is bound. -/
theorem Fresh.perform (hk : Source.Keeps known) (hs : known t.source) (h : Fresh known t)
    (hc : c.redirects = true → t.context.binding? = none) : Fresh known (c.perform t).2 := by
  rcases c.perform_cases t with ⟨e, ht, -⟩ | ⟨t₁, ht, hu⟩
  · exact h.taken ht hc
  · exact (h.taken ht hc).updated (ht.known_source hk hs) hu

theorem Started.fresh {s : Setup} {source : σ} (hk : Source.Keeps known) (hs : known source)
    (h : Started s source t) : Fresh known t := by
  obtain ⟨dsn, opened, hc, ho⟩ := h.opened
  cases ho with
  | deferred _ _ hc => exact fresh_of_unbound (by rw [hc])
  | eager ht hd hl _ hr hb hctx =>
    intro b' hb'
    rw [hctx] at hb'
    obtain rfl := Option.some.inj hb'
    obtain ⟨rfl, rfl⟩ := Binding.of_create hb
    exact ⟨hd, ht, _, _, hk.of_listTables (hk.of_connect hs hc) hl, hr⟩

/-! ### Runs -/

/-- Calls that answer the prompts for the database and the table only while these wait for an answer. -/
def Orderly (t : Task σ κ) : List Call → Prop
  | [] => True
  | c :: calls => (c.redirects = true → c.prompt ∈ t.unanswered) ∧ Orderly (c.perform t).2 calls

/-- A fresh task that is bound waits neither for the database nor for the table. -/
theorem Fresh.binding?_of_redirects (h : Fresh known t) (hc : c.redirects = true) (hw : c.prompt ∈ t.unanswered) :
    t.context.binding? = none := by
  have hanswered := (List.mem_filter.mp hw).2
  cases hb : t.context.binding? with
  | none => rfl
  | some b =>
    obtain ⟨hd, ht, -⟩ := h b hb
    rcases c with ⟨_ | _ | _, _⟩ | _
    · simp [Call.prompt, isAnswered, hd] at hanswered
    · simp [Call.prompt, isAnswered, ht] at hanswered
    · cases hc
    · cases hc

/-- Along orderly runs the context is always fresh. -/
theorem Fresh.after_orderly (hk : Source.Keeps known) (hs : known t.source) (h : Fresh known t)
    {calls : List Call} (ho : Orderly t calls) : Fresh known (t.after calls) := by
  induction calls generalizing t with
  | nil => exact h
  | cons c calls ih =>
    have hstep := h.perform hk hs fun hr => h.binding?_of_redirects hr (ho.1 hr)
    exact ih (c.known_perform hk hs) hstep ho.2

theorem Call.target_perform (t : Task σ κ) (hc : c.redirects = false) :
    (c.perform t).2.connection = t.connection ∧ (c.perform t).2.table = t.table := by
  rcases c.perform_cases t with ⟨e, ht, -⟩ | ⟨t₁, ht, hu⟩
  · exact ht.target_eq hc
  · obtain ⟨hk, htab⟩ := ht.target_eq hc
    obtain ⟨hk', htab'⟩ := hu.target_eq
    exact ⟨hk'.trans hk, htab'.trans htab⟩

/-- Calls that do not redirect a task leave its connection and its table. -/
theorem target_after (t : Task σ κ) {calls : List Call} (hc : ∀ c ∈ calls, c.redirects = false) :
    (t.after calls).connection = t.connection ∧ (t.after calls).table = t.table := by
  induction calls generalizing t with
  | nil => exact ⟨rfl, rfl⟩
  | cons c calls ih =>
    rw [List.forall_mem_cons] at hc
    obtain ⟨hk, ht⟩ := Call.target_perform t hc.1
    obtain ⟨hk', ht'⟩ := ih (c.perform t).2 hc.2
    exact ⟨hk'.trans hk, ht'.trans ht⟩

/-- Every binding was made at some moment before which there was none, and was fresh then. -/
theorem Fresh.exists_moment (hk : Source.Keeps known) (hs : known t.source) (h : Fresh known t)
    {calls : List Call} {b : Binding} (hb : (t.after calls).context.binding? = some b) :
    ∃ before since, calls = before ++ since ∧ (t.after before).context.binding? = some b ∧
      Fresh known (t.after before) ∧
      ∀ early, early <+: before → early ≠ before → (t.after early).context.isBound = false := by
  induction calls generalizing t with
  | nil => exact ⟨[], [], rfl, hb, h, fun early hp hne => absurd (List.prefix_nil.mp hp) hne⟩
  | cons c calls ih =>
    -- If the context is bound at once, this is the moment; if not, it is a moment of the remaining calls.
    cases hu : t.context.binding? with
    | some b' =>
      have hsame := (binding_after hu (c :: calls)).symm.trans hb
      exact ⟨[], c :: calls, rfl, hu.trans hsame, h, fun early hp hne => absurd (List.prefix_nil.mp hp) hne⟩
    | none =>
      obtain ⟨before, since, rfl, hb, hfresh, hearly⟩ :=
        ih (c.known_perform hk hs) (h.perform hk hs fun _ => hu) hb
      refine ⟨c :: before, since, rfl, hb, hfresh, fun early hp hne => ?_⟩
      -- Before the first call there was no binding, and later beginnings are those of the remaining calls.
      cases early with
      | nil => exact isBound_eq_false.mpr hu
      | cons c' early =>
        obtain ⟨rfl, hp'⟩ := List.cons_prefix_cons.mp hp
        exact hearly early hp' fun he => hne (he ▸ rfl)

/-! ### The moment of binding -/

/-- **A binding is of its moment.** The context shows the table and the schema of the connection as they were when
it was bound. So it shows those of now exactly if they are the same again, which they are unless a prompt for the
database or the table has been answered since; and it always does if these are answered only while they wait. -/
theorem binding_of_its_moment {schema : κ → Database} (hsteady : Source.Steady schema known) {s : Setup}
    {w : Workspace} {source : σ} {rest : Workspace × σ} (hs : known source)
    (h : start s (w, source) = (.ok t, rest)) (calls : List Call) {b : Binding}
    (hb : (t.after calls).context.binding? = some b) :
    (∃ before since, calls = before ++ since ∧
      (∀ early, early <+: before → early ≠ before → (t.after early).context.isBound = false) ∧
      (t.after before).context.binding? = some b ∧
      (t.after before).table = some b.tableName ∧ b.database = schema (t.after before).connection ∧
      ((t.after calls).table = some b.tableName ∧ b.database = schema (t.after calls).connection ↔
        (t.after calls).table = (t.after before).table ∧
          schema (t.after calls).connection = schema (t.after before).connection) ∧
      ((∀ c ∈ since, c.redirects = false) →
        (t.after calls).table = some b.tableName ∧ b.database = schema (t.after calls).connection)) ∧
    (Orderly t calls →
      (t.after calls).table = some b.tableName ∧ b.database = schema (t.after calls).connection) := by
  have hk := hsteady.toKeeps
  have hstarted := start_started h
  have hknown := hstarted.known_source hk hs
  have hfresh := hstarted.fresh hk hs
  -- A context is fresh if what it shows is what the source would tell; a steady source tells one schema only.
  have hshows : ∀ {t' : Task σ κ}, Fresh known t' → t'.context.binding? = some b →
      t'.table = some b.tableName ∧ b.database = schema t'.connection := fun hf hb' => by
    obtain ⟨-, ht, s, s', hs, hr⟩ := hf b hb'
    exact ⟨ht, hsteady.reflect_ok hs hr⟩
  constructor
  · obtain ⟨before, since, rfl, hb', hf, hearly⟩ := hfresh.exists_moment hk hknown hb
    obtain ⟨ht, hd⟩ := hshows hf hb'
    refine ⟨before, since, rfl, hearly, hb', ht, hd, ?_, fun hc => ?_⟩
    · rw [ht, hd, eq_comm (a := schema (t.after before).connection)]
    · obtain ⟨hconn, htab⟩ := target_after (t.after before) hc
      rw [after_append, hconn, htab]
      exact ⟨ht, hd⟩
  · exact fun ho => hshows (hfresh.after_orderly hk hknown ho) hb

theorem binding_of_its_moment_in_shop :
    ∃ (t : Task Memory String) (rest : Workspace × Memory) (b : Binding),
      start (Shop.setup none) ({}, Shop.memory "shop") = (.ok t, rest) ∧
      (t.after [.answer .table (.str "orders")]).context.binding? = some b ∧
      (t.after [.answer .table (.str "orders")]).table = some b.tableName ∧ b.database = Shop.schema := by
  have h : start (Shop.setup none) (({} : Workspace), Shop.memory "shop") = (.ok _, _) := rfl
  have hfresh := (binding_of_its_moment (Memory.steady [("shop", Shop.schema)]) rfl h
    [.answer .table (.str "orders")] rfl).2 ⟨fun _ => List.Mem.head _, trivial⟩
  exact ⟨_, _, _, h, rfl, hfresh⟩

/-- A caller who chooses another table unasked sees a context that does not show it. -/
theorem binding_stale_in_shop :
    ∃ (t : Task Memory String) (rest : Workspace × Memory),
      start (Shop.setup (some "customers")) ({}, Shop.memory "shop") = (.ok t, rest) ∧
      ¬ ∀ calls b, (t.after calls).context.binding? = some b → (t.after calls).table = some b.tableName := by
  refine ⟨_, _, rfl, fun hall => ?_⟩
  have h := hall [.answer .table (.str "orders")] _ rfl
  revert h
  decide +kernel

end Stencil.Task
