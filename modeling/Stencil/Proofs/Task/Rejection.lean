import Stencil.Proofs.Task.Waiting
import Stencil.Source.Server

namespace Stencil.Task

/-!
# Rejected answers

An answer can be rejected before anything is changed; then the task is as it was. It can also be rejected because a
table that was given earlier turns out to be missing; then the table is given up and asked for. And there are failures
that come too late: the answer has been taken already when the source fails to list its tables or to tell its schema,
and what has been taken is not given back.

* `Kept` — a task is as it was;
* `Refused` — an answer is rejected before anything is changed;
* `GivenUp` — the database is bound, and a missing table is asked for;
* `Applied`, `CutShort` — an answer has been taken, and then the source fails;
* `rejected_answer` — there are no other ways for an answer to be rejected.
-/

variable {σ κ : Type} {t t₁ t' : Task σ κ} {p : TaskPrompt} {v : Value} {e : Fault}

/-- A task is as it was, except for its log and its source. -/
structure Kept (t t' : Task σ κ) : Prop where
  table : t'.table = t.table
  answers : t'.answers = t.answers
  prompts : t'.prompts = t.prompts
  connection : t'.connection = t.connection
  context : t'.context = t.context

theorem Kept.with_source (t : Task σ κ) (s : σ) : Kept t { t with source := s } :=
  ⟨rfl, rfl, rfl, rfl, rfl⟩

variable [Source σ κ]

/-- An answer is rejected before anything is changed: the database cannot be bound, the tables cannot be listed or the
table is not among them, or an answer that is required is blank. -/
def Refused (t : Task σ κ) (e : Fault) : TaskPrompt → Value → Prop
  | .database, v => ∃ s, Source.bind t.connection v.text t.source = (.error e, s)
  | .table, v =>
    (∃ s, Source.listTables t.connection t.source = (.error e, s)) ∨
      ∃ names s, Source.listTables t.connection t.source = (.ok names, s) ∧
        (∀ table, v.asText? = some table → table ∉ names) ∧ e = noTable v.text
  | .generic id d, v =>
    d.required = true ∧ v.isBlank = true ∧
      e = .validation ("Invalid answer to prompt " ++ id ++ ": a value is required")

/-- A database is bound that does not have the table given before: the database stays, and the table is asked for. -/
def GivenUp (t t' : Task σ κ) (v : Value) (e : Fault) : Prop :=
  ∃ table names s, t.table = some table ∧ Source.bind t.connection v.text t.source = (.ok t'.connection, s) ∧
    Source.listTables t'.connection s = (.ok names, t'.source) ∧ table ∉ names ∧ e = noTable table ∧
    t'.table = none ∧ t'.prompts = withTablePrompt t.prompts ∧ t'.answers = t.answers

/-- An answer has been taken: the database is bound, the table is chosen, or the answer is on record. -/
def Applied (t t' : Task σ κ) : TaskPrompt → Value → Prop
  | .database, v => (∃ s, Source.bind t.connection v.text t.source = (.ok t'.connection, s)) ∧
    t'.table = t.table ∧ t'.answers = t.answers ∧ t'.prompts = t.prompts
  | .table, v => (∃ table names s, Source.listTables t.connection t.source = (.ok names, s) ∧ table ∈ names ∧
      v.asText? = some table ∧ t'.table = some table) ∧
    t'.connection = t.connection ∧ t'.answers = t.answers ∧ t'.prompts = t.prompts
  | .generic id _, v => t'.answers = t.answers.put id v ∧
    t'.connection = t.connection ∧ t'.table = t.table ∧ t'.prompts = t.prompts

/-- The last question to the source fails: the tables of a database that has just been bound are not listed, or the
schema is not told or does not have the table, so that the context cannot be bound. -/
def CutShort (t t' : Task σ κ) (p : TaskPrompt) (e : Fault) : Prop :=
  (p = .database ∧ t.table ≠ none ∧ ∃ s, Source.listTables t'.connection s = (.error e, t'.source)) ∨
    (t'.context.binding? = none ∧ t'.databaseName ≠ "" ∧ ∃ table s, t'.table = some table ∧
      (Source.reflect t'.connection s = (.error e, t'.source) ∨
        ∃ schema, Source.reflect t'.connection s = (.ok schema, t'.source) ∧ schema.table? table = none ∧
          e = .validation ("Table not found: " ++ table)))

/-! ### The two halves of a call -/

/-- A first half that fails refuses the answer, or gives the table up, or could not list the tables. -/
theorem Taken.rejected (h : Taken t (.answer p v) (.error e) t') :
    (Refused t e p v ∧ Kept t t') ∨ (p = .database ∧ GivenUp t t' v e) ∨ (Applied t t' p v ∧ CutShort t t' p e) := by
  cases h with
  | refused hb => exact .inl ⟨⟨_, hb⟩, Kept.with_source t _⟩
  | unchecked hb ht hl =>
    refine .inr (.inr ⟨⟨⟨_, hb⟩, rfl, rfl, rfl⟩, .inl ⟨rfl, ?_, _, hl⟩⟩)
    simp [ht]
  | dropped hb ht hl hn => exact .inr (.inl ⟨rfl, _, _, _, ht, hb, hl, hn, rfl, rfl, rfl, rfl⟩)
  | unlisted hl => exact .inl ⟨.inl ⟨_, hl⟩, Kept.with_source t _⟩
  | unknown hl hn => exact .inl ⟨.inr ⟨_, _, hl, hn, rfl⟩, Kept.with_source t _⟩
  | blank hr hb => exact .inl ⟨⟨hr, hb, rfl⟩, Kept.with_source t _⟩

/-- A first half that succeeds has taken the answer. -/
theorem Taken.applied (h : Taken t (.answer p v) (.ok ()) t₁) : Applied t t₁ p v := by
  cases h with
  | rebound hb => exact ⟨⟨_, hb⟩, rfl, rfl, rfl⟩
  | checked hb => exact ⟨⟨_, hb⟩, rfl, rfl, rfl⟩
  | chosen hl hv hm => exact ⟨⟨_, _, _, hl, hm, hv, rfl⟩, rfl, rfl, rfl⟩
  | recorded => exact ⟨rfl, rfl, rfl, rfl⟩

/-- A second half that fails leaves the task as the first half left it. -/
theorem Updated.cutShort (h : Updated t₁ (.error e) t') : Kept t₁ t' ∧ CutShort t t' p e := by
  cases h with
  | unreflected hu hd ht hr => exact ⟨Kept.with_source t₁ _, .inr ⟨hu, hd, _, _, ht, .inl hr⟩⟩
  | unmatched hu hd ht hr hs => exact ⟨Kept.with_source t₁ _, .inr ⟨hu, hd, _, _, ht, .inr ⟨_, hr, hs, rfl⟩⟩⟩

theorem Applied.of_kept (h : Applied t t₁ p v) (hk : Kept t₁ t') : Applied t t' p v := by
  cases p with
  | database => exact ⟨hk.connection ▸ h.1, hk.table ▸ h.2.1, hk.answers ▸ h.2.2.1, hk.prompts ▸ h.2.2.2⟩
  | table => exact ⟨hk.table ▸ h.1, hk.connection ▸ h.2.1, hk.answers ▸ h.2.2.1, hk.prompts ▸ h.2.2.2⟩
  | generic => exact ⟨hk.answers ▸ h.1, hk.connection ▸ h.2.1, hk.table ▸ h.2.2.1, hk.prompts ▸ h.2.2.2⟩

/-- An answer for the table or the profile that has been taken is there. -/
theorem Applied.isAnswered (h : Applied t t' p v) (hp : p ≠ .database) : t'.isAnswered p = true := by
  cases p with
  | database => exact absurd rfl hp
  | table =>
    obtain ⟨⟨table, -, -, -, -, -, ht⟩, -⟩ := h
    simp [Task.isAnswered, ht]
  | generic id d =>
    obtain ⟨ha, -⟩ := h
    rw [Task.isAnswered, ha]
    exact (OrderedMap.contains_put _ _ _ _).mpr (.inl rfl)

/-- A task is not ready after an answer for the table or the profile has been cut short. -/
theorem CutShort.isReady (h : CutShort t t' p e) (hp : p ≠ .database) : t'.isReady = false := by
  rcases h with ⟨rfl, -⟩ | ⟨hu, -⟩
  · exact absurd rfl hp
  · simp [Task.isReady, isBound_eq_false.mpr hu]

/-- An answer for the profile is not cut short while the task has bound its context as soon as it could. -/
theorem CutShort.not_settled {id : String} {d : PromptDefinition} (h : CutShort t t' (.generic id d) e)
    (ha : Applied t t' (.generic id d) v) (hc : t'.context = t.context) : ¬ Settled t := by
  rintro hset
  obtain ⟨-, hconnection, htable, -⟩ := ha
  rcases h with ⟨hp, -⟩ | ⟨hu, hd, table, -, ht, -⟩
  · cases hp
  · rcases hset (isBound_eq_false.mpr (hc ▸ hu)) with hn | hn
    · exact hd (by rw [databaseName, hconnection]; exact hn)
    · cases (htable.symm.trans ht).symm.trans hn

/-! ### Rejections -/

/-- **How an answer is rejected.** The context never changes. Either the answer is refused, and the task is as it was; or
it binds a database without the table given before, which is then asked for; or it has been taken when the source fails,
and it stays taken although it is rejected: then a prompt for the table or of the profile is not asked again, and the
task is not ready. An answer for the profile is kept out entirely unless an earlier answer was cut short. -/
theorem rejected_answer (h : answer p v t = (.error e, t')) :
    t'.context = t.context ∧
    ((Refused t e p v ∧ Kept t t') ∨ (p = .database ∧ GivenUp t t' v e) ∨
      (Applied t t' p v ∧ CutShort t t' p e ∧ (p ≠ .database → p ∉ t'.unanswered ∧ t'.isReady = false))) ∧
    (p.kind = .generic → Settled t → Kept t t') := by
  have hcases := (Call.answer p v).perform_cases t
  have hperform : (Call.answer p v).perform t = (.error e, t') := h
  rw [hperform] at hcases
  -- Either half of the call may fail; if it is the second one, the answer has been taken before.
  have hways : t'.context = t.context ∧
      ((Refused t e p v ∧ Kept t t') ∨ (p = .database ∧ GivenUp t t' v e) ∨ (Applied t t' p v ∧ CutShort t t' p e)) := by
    rcases hcases with ⟨e', ht, he⟩ | ⟨t₁, ht, hu⟩
    · obtain rfl := Except.error.inj he
      exact ⟨ht.context_eq, ht.rejected⟩
    · obtain ⟨hkept, hcut⟩ := hu.cutShort (t := t) (p := p)
      exact ⟨hkept.context.trans ht.context_eq, .inr (.inr ⟨ht.applied.of_kept hkept, hcut⟩)⟩
  obtain ⟨hcontext, hways⟩ := hways
  rcases hways with ⟨hrefused, hkept⟩ | ⟨rfl, hgiven⟩ | ⟨happlied, hcut⟩
  · exact ⟨hcontext, .inl ⟨hrefused, hkept⟩, fun _ _ => hkept⟩
  · exact ⟨hcontext, .inr (.inl ⟨rfl, hgiven⟩), fun hp => by cases hp⟩
  · refine ⟨hcontext, .inr (.inr ⟨happlied, hcut, fun hp => ⟨fun hw => ?_, hcut.isReady hp⟩⟩), fun hp hset => ?_⟩
    · cases (happlied.isAnswered hp).symm.trans (mem_unanswered.mp hw).2
    · cases p with
      | generic id d => exact absurd hset (hcut.not_settled happlied hcontext)
      | _ => cases hp

namespace Shop

/-- A server with the shop that does not tell the columns of a table. -/
def server : Server where
  databases := [("shop", [{ name := "customers", columns := [], primaryKey := [] }])]
  refusals := [("columns:customers", .database "lost connection")]

/-- A profile without prompts for the shop on a server. -/
def served : Profile :=
  { config := { dsn := "mysql://host/shop" } }

end Shop

theorem rejected_answer_in_shop :
    ∃ (t : Task Memory String) (rest : Workspace × Memory) (t' : Task Memory String),
      start (Shop.setup none) ({}, Shop.memory "shop") = (.ok t, rest) ∧
      answer .table (.str "invoices") t = (.error (noTable "invoices"), t') ∧ Kept t t' := by
  obtain ⟨t, rest, t', h, hanswer, hnone⟩ : ∃ (t : Task Memory String) (rest : Workspace × Memory) (t' : Task Memory String),
      start (Shop.setup none) ({}, Shop.memory "shop") = (.ok t, rest) ∧
      answer .table (.str "invoices") t = (.error (noTable "invoices"), t') ∧ t'.table = none :=
    ⟨_, _, _, rfl, rfl, rfl⟩
  refine ⟨t, rest, t', h, hanswer, ?_⟩
  rcases (rejected_answer hanswer).2.1 with ⟨-, hkept⟩ | ⟨hp, -⟩ | ⟨happlied, -⟩
  · exact hkept
  · cases hp
  · obtain ⟨⟨table, -, -, -, -, -, hsome⟩, -⟩ := happlied
    cases hnone.symm.trans hsome

/-- A table stays chosen although the answer is rejected; nothing is asked any more, and the task is not ready. -/
theorem table_kept_after_rejection_in_shop :
    ∃ (t t' : Task Exchange Server.Pool) (rest : Workspace × Exchange) (message : String),
      start { profile := Shop.served, contextDir := Path.ofString "/" } ({}, { server := Shop.server }) = (.ok t, rest) ∧
      t.table = none ∧ answer .table (.str "customers") t = (.error (.database message), t') ∧
      t'.table = some "customers" ∧ t'.unanswered = [] ∧ t'.isReady = false := by
  have h : start { profile := Shop.served, contextDir := Path.ofString "/" }
      (({} : Workspace), ({ server := Shop.server } : Exchange)) = (.ok _, _) := rfl
  exact ⟨_, _, _, _, h, rfl, rfl, rfl, rfl, rfl⟩

end Stencil.Task
