import Mathlib.Data.List.Nodup
import Stencil.Proofs.Task.Prompts

namespace Stencil

/-!
# The order of answers

The database and the table are found without a look at the answers, and an answer is recorded without a look at the
database and the table. So a run can be taken apart: first all calls that choose the database or the table, then all
others; and of the others only the answers that they give matter.

* `Task.Accepts` — every call of a run returns normally;
* `Task.Call.recorded?` — what a call records, if it is accepted;
* `Task.answered` — a task with other answers on record;
* `Task.Call.perform_answered` — a call for the database or the table does not depend on the answers;
* `Task.accepts_iff`, `Task.Accepts.after_eq` — a run is accepted exactly if its calls for the database and the table
  are, and all others record something; it ends as these calls do, with the answers of all;
* `Task.Accepts.isReady` — a run that answers all prompts leads to a task that is ready.
-/

/-- A binding without the time at which it was made. -/
def Binding.untimed (b : Binding) : Binding :=
  { b with timestamp := "" }

namespace Task

/-! ### What a call records -/

/-- What a call records for a prompt of the profile, if it is accepted. -/
def Call.recorded? : Call → Option (String × Value)
  | .answer (.generic id d) v => if d.required && v.isBlank then none else some (id, v)
  | .skip (.generic id _) => some (id, .str "")
  | _ => none

theorem Call.record_eq (c : Call) (m : OrderedMap Value) :
    c.record m = c.recorded?.elim m fun e => m.put e.1 e.2 := by
  rcases c with ⟨_ | _ | ⟨id, d⟩, v⟩ | ⟨_ | _ | ⟨id, d⟩⟩ <;> try rfl
  by_cases h : d.required = true ∧ v.isBlank = true <;> simp [record, recorded?, h]

theorem Call.prompt_of_recorded {c : Call} {id : String} {v : Value} (h : c.recorded? = some (id, v)) :
    ∃ d, c.prompt = .generic id d := by
  rcases c with ⟨_ | _ | ⟨id', d⟩, v'⟩ | ⟨_ | _ | ⟨id', d⟩⟩ <;> try cases h
  · by_cases hblank : d.required = true ∧ v'.isBlank = true <;> simp [recorded?, hblank] at h
    exact ⟨d, by rw [Call.prompt, h.1]⟩
  · exact ⟨d, rfl⟩

/-- Several calls record what each of them does, one after the other. -/
theorem foldl_record (calls : List Call) (m : OrderedMap Value) :
    calls.foldl (fun m c => c.record m) m =
      (calls.filterMap Call.recorded?).foldl (fun m (e : String × Value) => m.put e.1 e.2) m := by
  induction calls generalizing m with
  | nil => rfl
  | cons c calls ih =>
    rw [List.foldl_cons, c.record_eq, ih]
    cases he : c.recorded? with
    | none => rw [List.filterMap_cons_none he, Option.elim]
    | some e => rw [List.filterMap_cons_some he, List.foldl_cons, Option.elim]

/-! ### Other answers -/

variable {σ κ : Type} {t t₁ t' : Task σ κ} {c : Call} {r : Except Fault Unit} {m : OrderedMap Value}

/-- A task with other answers on record, of which its context has a copy if it is bound. -/
def answered (t : Task σ κ) (m : OrderedMap Value) : Task σ κ :=
  { t with answers := m, context := { t.context with prompts := if t.context.isBound then m else [] } }

@[simp] theorem answered_answered (t : Task σ κ) (m m' : OrderedMap Value) :
    (t.answered m).answered m' = t.answered m' := rfl

theorem InStep.answered_self (h : InStep t) : t.answered t.answers = t := by
  have hcontext : { t.context with prompts := if t.context.isBound then t.answers else [] } = t.context := by
    cases hb : t.context.isBound with
    | true => rw [if_pos rfl, ← h.bound hb]
    | false => rw [if_neg (by decide), ← h.unbound hb]
  rw [answered, hcontext]

@[simp] theorem answered_folded (t : Task σ κ) (m : OrderedMap Value) : t.folded.answered m = t.answered m := by
  rw [folded, foldl_setAnswer]
  rfl

/-- Folding gives a bound context all answers, if it has the first of them. -/
theorem folded_eq (hb : t.context.isBound = true) (hn : t.answers.keys.Nodup)
    (hp : t.context.prompts.keys <+: t.answers.keys) : t.folded = t.answered t.answers := by
  rw [folded, answered, foldl_setAnswer, if_pos hb, OrderedMap.foldl_put_of_prefix hn hp]

theorem folded_answered (t : Task σ κ) (hm : m.keys.Nodup) (hb : t.context.isBound = true) :
    (t.answered m).folded = t.answered m := by
  refine folded_eq hb hm ?_
  rw [answered, if_pos hb]

/-- Calls to different prompts of a profile record answers for different ids. -/
theorem nodup_keys_recorded {name : String} {profile : Profile} (hlisted : Listed name profile t)
    {calls : List Call} (hn : (calls.map Call.prompt).Nodup) (hm : ∀ c ∈ calls, c.prompt ∈ t.prompts) :
    (OrderedMap.keys (calls.filterMap Call.recorded?)).Nodup := by
  refine List.pairwise_map.mpr (List.pairwise_filterMap.mpr ?_)
  refine (List.pairwise_map.mp hn).imp_of_mem fun {c c'} hc hc' hne => ?_
  rintro ⟨id, v⟩ he ⟨id', v'⟩ he' rfl
  -- An id has one definition only, so two prompts with one id are the same.
  obtain ⟨d, hd⟩ := Call.prompt_of_recorded he
  obtain ⟨d', hd'⟩ := Call.prompt_of_recorded he'
  have hget := (hlisted.generic_mem_prompts.mp (hd ▸ hm c hc)).2
  have hget' := (hlisted.generic_mem_prompts.mp (hd' ▸ hm c' hc')).2
  rw [hget] at hget'
  cases hget'
  exact hne (hd.trans hd'.symm)

variable [Source σ κ]

theorem Taken.answered (h : Taken t c r t₁) (hc : c.redirects = true) (m : OrderedMap Value) :
    Taken (t.answered m) c r (t₁.answered m) := by
  cases h with
  | refused hb => exact .refused hb
  | rebound hb ht => exact .rebound hb ht
  | unchecked hb ht hl => exact .unchecked hb ht hl
  | dropped hb ht hl hn => exact .dropped hb ht hl hn
  | checked hb ht hl hm => exact .checked hb ht hl hm
  | unlisted hl => exact .unlisted hl
  | unknown hl hn => exact .unknown hl hn
  | chosen hl hv hm => exact .chosen hl hv hm
  | _ => cases hc

theorem Updated.answered (h : Updated t r t₁) (hm : m.keys.Nodup) : Updated (t.answered m) r (t₁.answered m) := by
  -- The copy of the answers is brought up to date in two of the cases, and there it is of the new answers.
  cases h with
  | folded hb =>
    have hfolded : Updated (t.answered m) (.ok ()) (t.answered m).folded := .folded hb
    rw [folded_answered t hm hb] at hfolded
    rwa [answered_folded]
  | waiting hu hw => exact .waiting hu hw
  | unreflected hu hd ht hr => exact .unreflected hu hd ht hr
  | unmatched hu hd ht hr hs => exact .unmatched hu hd ht hr hs
  | @bound table schema s b hu hd ht hr hs =>
    have hfolded : Task.folded { t.answered m with
        source := s, context := { (t.answered m).context with binding? := some b } } =
        Task.answered { t with source := s, context := { t.context with binding? := some b } } m := by
      refine folded_eq rfl hm ?_
      show OrderedMap.keys (if t.context.isBound then m else []) <+: m.keys
      rw [isBound_eq_false.mpr hu]
      exact List.nil_prefix
    rw [answered_folded, ← hfolded]
    exact .bound hu hd ht hr hs

/-- A call for the database or the table does not depend on the answers. -/
theorem Call.perform_answered (hc : c.redirects = true) (t : Task σ κ) (hm : m.keys.Nodup) :
    c.perform (t.answered m) = ((c.perform t).1, (c.perform t).2.answered m) := by
  rcases c.perform_cases t with ⟨e, ht, he⟩ | ⟨t₁, ht, hu⟩
  · rw [he]
    exact (ht.answered hc m).perform_of_error
  · exact (ht.answered hc m).perform_of_ok (hu.answered hm)

/-- A call that succeeds leaves a task that is bound as soon as it can be. -/
theorem Call.settled_of_ok (h : (c.perform t).1 = .ok ()) : Settled (c.perform t).2 := by
  obtain ⟨t₁, -, hu⟩ := Call.halves_of_ok h
  exact hu.settled_of_ok

/-- On a settled task, an answer for the profile is recorded, and nothing else happens. -/
theorem Settled.perform_of_recorded (hset : Settled t) (hstep : InStep t) {e : String × Value}
    (he : c.recorded? = some e) : c.perform t = (.ok (), t.answered (c.record t.answers)) := by
  have htaken : Taken t c (.ok ()) { t with answers := c.record t.answers } := by
    rcases c with ⟨_ | _ | ⟨id, d⟩, v⟩ | ⟨_ | _ | ⟨id, d⟩⟩ <;> try cases he
    · have hvalid : (d.required && v.isBlank) = false := by
        cases h : d.required && v.isBlank with
        | true => simp [Call.recorded?, h] at he
        | false => rfl
      rw [show Call.record (.answer (.generic id d) v) t.answers = t.answers.put id v by simp [Call.record, hvalid]]
      exact .recorded fun hr => by simpa [hr] using hvalid
    · exact .skipped
  -- What is missing for a binding is still missing, so the context is either bound already or not bound now.
  cases hb : t.context.isBound with
  | true =>
    have hnext := hstep.behind htaken
    have hfolded : Task.folded { t with answers := c.record t.answers } = t.answered (c.record t.answers) :=
      folded_eq hb hnext.nodup hnext.front
    rw [← hfolded]
    exact htaken.perform_of_ok (.folded hb)
  | false =>
    have hwaits : t.answered (c.record t.answers) = { t with answers := c.record t.answers } := by
      rw [answered, if_neg (by simp [hb]), ← hstep.unbound hb]
    rw [hwaits]
    exact htaken.perform_of_ok (.waiting (isBound_eq_false.mp hb) (hset hb))

/-- A call that neither chooses the database or the table nor records anything fails. -/
theorem Call.perform_of_unrecorded (hc : c.redirects = false) (he : c.recorded? = none) (t : Task σ κ) :
    (c.perform t).1 ≠ .ok () := by
  rcases c with ⟨_ | _ | ⟨id, d⟩, v⟩ | ⟨_ | _ | ⟨id, d⟩⟩ <;> try cases hc
  · have hinvalid : d.required = true ∧ v.isBlank = true := by
      simpa [recorded?] using he
    rw [(Taken.blank hinvalid.1 hinvalid.2).perform_of_error]
    simp
  · rw [(Taken.kept (p := .database) (by decide)).perform_of_error]
    simp
  · rw [(Taken.kept (p := .table) (by decide)).perform_of_error]
    simp
  · cases he

/-! ### Accepted runs -/

/-- Every call of a run returns normally. -/
def Accepts (t : Task σ κ) : List Call → Prop
  | [] => True
  | c :: calls => (c.perform t).1 = .ok () ∧ Accepts (c.perform t).2 calls

variable {calls : List Call}

theorem answers_after (t : Task σ κ) (calls : List Call) :
    (t.after calls).answers = calls.foldl (fun m c => c.record m) t.answers := by
  induction calls generalizing t with
  | nil => rfl
  | cons c calls ih => rw [after_cons, ih, c.answers_perform, List.foldl_cons]

theorem Accepts.settled (h : Accepts t calls) (hset : Settled t) : Settled (t.after calls) := by
  induction calls generalizing t with
  | nil => exact hset
  | cons c calls ih => exact ih h.2 (Call.settled_of_ok h.1)

/-- Calls for the database and the table do not depend on the answers. -/
theorem after_answered (hc : ∀ c ∈ calls, c.redirects = true) (t : Task σ κ) (hm : m.keys.Nodup) :
    (Accepts (t.answered m) calls ↔ Accepts t calls) ∧ (t.answered m).after calls = (t.after calls).answered m := by
  induction calls generalizing t with
  | nil => exact ⟨Iff.rfl, rfl⟩
  | cons c calls ih =>
    rw [List.forall_mem_cons] at hc
    obtain ⟨haccepts, hafter⟩ := ih hc.2 (c.perform t).2
    rw [Accepts, after_cons, c.perform_answered hc.1 t hm]
    exact ⟨and_congr_right fun _ => haccepts, hafter⟩

/-- A run is accepted exactly if its calls for the database and the table are, without the others, and each of the
others records something. -/
theorem accepts_iff (hstep : InStep t) (hset : Settled t) (calls : List Call) :
    Accepts t calls ↔
      Accepts t (calls.filter Call.redirects) ∧ ∀ c ∈ calls, c.redirects = false → ∃ e, c.recorded? = some e := by
  induction calls generalizing t with
  | nil => simp [Accepts]
  | cons c calls ih =>
    rw [List.forall_mem_cons]
    cases hc : c.redirects with
    | true =>
      rw [List.filter_cons_of_pos hc, Accepts, Accepts, and_assoc]
      refine and_congr_right fun hok => ?_
      rw [ih (hstep.perform c) (Call.settled_of_ok hok)]
      simp
    | false =>
      rw [List.filter_cons_of_neg (by simp [hc]), Accepts]
      cases he : c.recorded? with
      | none => simp [Call.perform_of_unrecorded hc he t]
      | some e =>
        -- The call only records something, which the calls for the database and the table do not look at.
        have hm : (c.record t.answers).keys.Nodup := c.answers_perform t ▸ (hstep.perform c).nodup
        have hperform := hset.perform_of_recorded hstep he
        have hok : (c.perform t).1 = .ok () := by rw [hperform]
        rw [ih (hstep.perform c) (Call.settled_of_ok hok), hperform,
          (after_answered (fun _ hc => (List.mem_filter.mp hc).2) t hm).1]
        simp

/-- An accepted run ends as its calls for the database and the table do, with the answers of all its calls. -/
theorem Accepts.after_eq (h : Accepts t calls) (hstep : InStep t) (hset : Settled t) :
    t.after calls = (t.after (calls.filter Call.redirects)).answered (t.after calls).answers := by
  -- A call that records something is moved behind the others, which do not look at the answers.
  induction calls generalizing t with
  | nil => exact hstep.answered_self.symm
  | cons c calls ih =>
    have hnext := ih h.2 (hstep.perform c) (Call.settled_of_ok h.1)
    cases hc : c.redirects with
    | true =>
      rw [List.filter_cons_of_pos hc]
      exact hnext
    | false =>
      rw [List.filter_cons_of_neg (by simp [hc]), after_cons]
      cases he : c.recorded? with
      | none => exact absurd h.1 (Call.perform_of_unrecorded hc he t)
      | some e =>
        have hm : (c.record t.answers).keys.Nodup := c.answers_perform t ▸ (hstep.perform c).nodup
        rw [hset.perform_of_recorded hstep he] at hnext ⊢
        rwa [(after_answered (fun _ hc => (List.mem_filter.mp hc).2) t hm).2, answered_answered] at hnext

/-! ### Ready after all answers -/

theorem Taken.prompts_of_ok (h : Taken t c (.ok ()) t₁) : t₁.prompts = t.prompts := by
  cases h <;> rfl

theorem Call.prompts_of_ok (h : (c.perform t).1 = .ok ()) : (c.perform t).2.prompts = t.prompts := by
  obtain ⟨t₁, ht, hu⟩ := Call.halves_of_ok h
  exact hu.prompts_eq.trans ht.prompts_of_ok

theorem Accepts.prompts_eq (h : Accepts t calls) : (t.after calls).prompts = t.prompts := by
  induction calls generalizing t with
  | nil => rfl
  | cons c calls ih => exact (ih h.2).trans (Call.prompts_of_ok h.1)

theorem Call.connection_perform (hc : c.prompt ≠ .database) (t : Task σ κ) :
    (c.perform t).2.connection = t.connection := by
  rcases c.perform_cases t with ⟨e, ht, -⟩ | ⟨t₁, ht, hu⟩
  · exact ht.connection_eq hc
  · exact hu.target_eq.1.trans (ht.connection_eq hc)

/-- A table that is known stays known while calls are accepted, and one is known after an answer to its prompt. -/
theorem Call.table_of_ok (h : (c.perform t).1 = .ok ()) :
    ((c.perform t).2.table = t.table ∧ c.prompt ≠ .table) ∨ (c.perform t).2.table ≠ none := by
  obtain ⟨t₁, ht, hu⟩ := Call.halves_of_ok h
  rw [hu.target_eq.2]
  cases ht with
  | chosen => exact .inr (by simp [reported])
  | _ => exact .inl ⟨rfl, by simp [Call.prompt]⟩

theorem isAnswered_database {t : Task σ κ} : t.isAnswered .database = true ↔ t.databaseName ≠ "" := by
  simp [isAnswered]

theorem isAnswered_table {t : Task σ κ} : t.isAnswered .table = true ↔ t.table ≠ none :=
  Option.isSome_iff_ne_none

theorem Call.isAnswered_of_ok (h : (c.perform t).1 = .ok ()) (hc : c.prompt ≠ .database) :
    (c.perform t).2.isAnswered c.prompt = true := by
  cases hp : c.prompt with
  | database => exact absurd hp hc
  | table =>
    rcases Call.table_of_ok h with ⟨-, hne⟩ | hsome
    · exact absurd hp hne
    · exact isAnswered_table.mpr hsome
  | generic id d => exact c.contains_of_ok hp h

theorem Call.isAnswered_perform (h : (c.perform t).1 = .ok ()) {p : TaskPrompt} (hp : p ≠ .database)
    (ha : t.isAnswered p = true) : (c.perform t).2.isAnswered p = true := by
  cases p with
  | database => exact absurd rfl hp
  | table =>
    rw [isAnswered_table] at ha ⊢
    rcases Call.table_of_ok h with ⟨he, -⟩ | hsome
    · rwa [he]
    · exact hsome
  | generic id d => exact contains_answers_after ha [c]

/-- What an accepted run answers, apart from the database, has its answer in the end. -/
theorem Accepts.isAnswered_after (h : Accepts t calls) {p : TaskPrompt} (hp : p ≠ .database)
    (hm : t.isAnswered p = true ∨ p ∈ calls.map Call.prompt) : (t.after calls).isAnswered p = true := by
  induction calls generalizing t with
  | nil => simpa using hm
  | cons c calls ih =>
    refine ih h.2 ?_
    rw [List.map_cons, List.mem_cons] at hm
    rcases hm with ha | rfl | hm
    · exact .inl (Call.isAnswered_perform h.1 hp ha)
    · exact .inl (Call.isAnswered_of_ok h.1 hp)
    · exact .inr hm

theorem connection_after (hc : ∀ c ∈ calls, c.prompt ≠ .database) (t : Task σ κ) :
    (t.after calls).connection = t.connection := by
  induction calls generalizing t with
  | nil => rfl
  | cons c calls ih =>
    rw [List.forall_mem_cons] at hc
    exact (ih hc.2 _).trans (Call.connection_perform hc.1 t)

/-- An accepted answer to the prompt for the database binds one. -/
theorem Call.connection_of_ok (h : (c.perform t).1 = .ok ()) (hc : c.prompt = .database) :
    ∃ v s, c = .answer .database v ∧
      Source.bind t.connection v.text t.source = (.ok (c.perform t).2.connection, s) := by
  obtain ⟨t₁, ht, hu⟩ := Call.halves_of_ok h
  rw [hu.target_eq.1]
  cases ht with
  | rebound hb => exact ⟨_, _, rfl, hb⟩
  | checked hb => exact ⟨_, _, rfl, hb⟩
  | _ => cases hc

/-- The answers for the database are not empty, and a connection that binds one has it as its database. -/
def BindsDatabase (connection : κ) (calls : List Call) : Prop :=
  ∀ v, .answer .database v ∈ calls → v.text ≠ "" ∧
    ∀ (c : κ) (s s' : σ), Source.bind connection v.text s = (.ok c, s') → Source.databaseName σ c = v.text

/-- A run that is accepted and answers the prompt for the database once leaves a database bound. -/
theorem Accepts.databaseName_ne (h : Accepts t calls) (hn : (calls.map Call.prompt).Nodup)
    (hm : .database ∈ calls.map Call.prompt) (hdb : BindsDatabase (σ := σ) t.connection calls) :
    (t.after calls).databaseName ≠ "" := by
  induction calls generalizing t with
  | nil => cases hm
  | cons c calls ih =>
    rw [List.map_cons, List.nodup_cons] at hn
    by_cases hc : c.prompt = .database
    · -- No later call is about the database, so what is bound now stays bound.
      obtain ⟨v, s, rfl, hb⟩ := Call.connection_of_ok h.1 hc
      obtain ⟨hv, hname⟩ := hdb v List.mem_cons_self
      have hrest : ∀ c ∈ calls, c.prompt ≠ .database := fun c hm he =>
        hn.1 (List.mem_map.mpr ⟨c, hm, he⟩)
      rw [after_cons, databaseName, connection_after hrest, hname _ _ _ hb]
      exact hv
    · have hconnection := Call.connection_perform hc t
      rw [List.map_cons, List.mem_cons] at hm
      refine ih h.2 hn.2 (hm.resolve_left (Ne.symm hc)) ?_
      rw [hconnection]
      exact fun v hv => hdb v (List.mem_cons_of_mem _ hv)

/-- After a run that answers every prompt once, the task is ready. -/
theorem Accepts.isReady (h : Accepts t calls) (hset : Settled t) {profile : Profile} (hp : Prompted profile t)
    (hn : t.prompts.Nodup) (hall : (calls.map Call.prompt).Perm t.prompts)
    (hdb : BindsDatabase (σ := σ) t.connection calls) : (t.after calls).isReady = true := by
  have hn' : (calls.map Call.prompt).Nodup := hall.nodup_iff.mpr hn
  have hdatabase : (t.after calls).databaseName ≠ "" := by
    by_cases hm : .database ∈ calls.map Call.prompt
    · exact h.databaseName_ne hn' hm hdb
    · -- A task that does not ask for the database has one bound, and no call binds another.
      have hkept : (t.after calls).connection = t.connection :=
        connection_after (fun c hc he => hm (List.mem_map.mpr ⟨c, hc, he⟩)) t
      rw [databaseName, hkept]
      exact fun hempty => hm (hall.mem_iff.mpr (hp.database hempty))
  have hrest : ∀ p ≠ .database, (p = .table ∨ p ∈ t.prompts) → (t.after calls).isAnswered p = true := by
    intro p hne hm
    refine h.isAnswered_after hne ?_
    by_cases hmem : p ∈ t.prompts
    · exact .inr (hall.mem_iff.mpr hmem)
    · obtain rfl : p = .table := hm.resolve_right hmem
      exact .inl (isAnswered_table.mpr fun hnone => hmem (hp.table hnone))
  have hbound : (t.after calls).context.isBound = true := by
    cases hb : (t.after calls).context.isBound with
    | true => rfl
    | false =>
      rcases h.settled hset hb with hd | ht
      · exact absurd hd hdatabase
      · exact absurd ht (isAnswered_table.mp (hrest .table (by decide) (.inl rfl)))
  have hwaiting : (t.after calls).unanswered = [] := by
    rw [unanswered, h.prompts_eq, List.filter_eq_nil_iff]
    intro p hm
    by_cases hne : p = .database
    · simp [hne, isAnswered_database.mpr hdatabase]
    · simp [hrest p hne (.inr hm)]
  rw [Task.isReady, hbound, hwaiting]
  rfl

/-! ### The same answers in another order -/

/-- No answer for the table comes before one for the database. -/
def DatabaseFirst (calls : List Call) : Prop :=
  calls.Pairwise fun c c' => ¬(c.prompt = .table ∧ c'.prompt = .database)

/-- There is only one order for the calls for the database and the table. -/
theorem filter_redirects_eq {first second : List Call} (hperm : second.Perm first)
    (hn : (first.map Call.prompt).Nodup) (hfirst : DatabaseFirst first) (hsecond : DatabaseFirst second) :
    second.filter Call.redirects = first.filter Call.redirects := by
  refine (hperm.filter _).eq_of_pairwise ?_ (hsecond.filter _) (hfirst.filter _)
  intro c c' hc hc' hle hle'
  rw [List.mem_filter] at hc hc'
  have hprompt : c.prompt = c'.prompt := by
    rcases c with ⟨_ | _ | _, _⟩ | _ <;> rcases c' with ⟨_ | _ | _, _⟩ | _ <;>
      simp_all [Call.redirects, Call.prompt]
  exact List.inj_on_of_nodup_map hn (hperm.mem_iff.mp hc.1) hc'.1 hprompt

theorem Setup.nodup_prompts (s : Setup) (name : String) (hn : s.profile.config.prompts.Nodup) :
    (s.prompts name).Nodup := by
  have hprofile : s.profile.taskPrompts.Nodup := by
    refine hn.filterMap fun id id' p hp hp' => ?_
    rw [Option.mem_def, Option.map_eq_some_iff] at hp hp'
    obtain ⟨d, -, rfl⟩ := hp
    obtain ⟨d', -, he⟩ := hp'
    cases he
    rfl
  have hkind : ∀ p ∈ s.profile.taskPrompts, p.kind = .generic := fun p => Profile.kind_of_mem_taskPrompts
  have hdatabase : .database ∉ s.profile.taskPrompts := fun h => absurd (hkind _ h) (by decide)
  have htable : .table ∉ s.profile.taskPrompts := fun h => absurd (hkind _ h) (by decide)
  rw [s.prompts_eq, databasePrompts]
  split <;> split <;> simp [hprofile, hdatabase, htable]

/-- **The order of the answers does not matter.** Take a task whose prompts have different ids, and one answer to each
of its prompts. If a run with these answers is accepted, so is every other one, as long as the database comes before
the table; both leave the same table, the same database, the same answers and the same binding, and a task that is
ready. -/
theorem same_in_any_order {s : Setup} {w : Workspace} {source : σ} {rest : Workspace × σ}
    (h : start s (w, source) = (.ok t, rest)) (hids : s.profile.config.prompts.Nodup) {first second : List Call}
    (hall : (first.map Call.prompt).Perm t.prompts) (hperm : second.Perm first) (hfirst : DatabaseFirst first)
    (hsecond : DatabaseFirst second) (hdb : BindsDatabase (σ := σ) t.connection first) (hok : Accepts t first) :
    Accepts t second ∧
    (t.after second).table = (t.after first).table ∧
    (t.after second).databaseName = (t.after first).databaseName ∧
    (∀ id, (t.after second).answers.get? id = (t.after first).answers.get? id) ∧
    (t.after second).context.binding?.map Binding.untimed = (t.after first).context.binding?.map Binding.untimed ∧
    (t.after first).isReady = true ∧ (t.after second).isReady = true := by
  have hstarted := start_started h
  have hstep := hstarted.inStep
  have hset := hstarted.settled
  have hn : t.prompts.Nodup := hstarted.prompts ▸ s.nodup_prompts _ hids
  have hnfirst : (first.map Call.prompt).Nodup := hall.nodup_iff.mpr hn
  have hall' : (second.map Call.prompt).Perm t.prompts := (hperm.map _).trans hall
  -- Both runs choose the database and the table alike, and record the same answers.
  have hfilter := filter_redirects_eq hperm hnfirst hfirst hsecond
  have hok' : Accepts t second := by
    rw [accepts_iff hstep hset] at hok ⊢
    exact ⟨hfilter ▸ hok.1, fun c hc => hok.2 c (hperm.mem_iff.mp hc)⟩
  have hafter := hok.after_eq hstep hset
  have hafter' := hok'.after_eq hstep hset
  rw [hfilter] at hafter'
  have hentries : ∀ calls : List Call,
      (t.after calls).answers = OrderedMap.ofEntries (calls.filterMap Call.recorded?) := by
    intro calls
    rw [answers_after, foldl_record, hstarted.answers]
    rfl
  have hkeys : (OrderedMap.keys (first.filterMap Call.recorded?)).Nodup :=
    nodup_keys_recorded hstarted.listed hnfirst fun c hc => hall.mem_iff.mp (List.mem_map_of_mem hc)
  have hkeys' : (OrderedMap.keys (second.filterMap Call.recorded?)).Nodup :=
    (((hperm.filterMap Call.recorded?).map Prod.fst).nodup_iff).mpr hkeys
  have hdb' : BindsDatabase (σ := σ) t.connection second := fun v hv => hdb v (hperm.mem_iff.mp hv)
  refine ⟨hok', ?_, ?_, fun id => ?_, ?_, hok.isReady hset hstarted.prompted hn hall hdb,
    hok'.isReady hset hstarted.prompted hn hall' hdb'⟩
  · rw [hafter', hafter]
    rfl
  · rw [hafter', hafter]
    rfl
  · rw [hentries, hentries, OrderedMap.ofEntries_of_nodup hkeys, OrderedMap.ofEntries_of_nodup hkeys']
    exact OrderedMap.get?_of_perm hkeys' (hperm.filterMap _) id
  · rw [hafter', hafter]
    rfl

namespace Shop

/-- Answers to all prompts, in the order of these. -/
def answers : List Call :=
  [.answer .database (.str "shop"), .answer .table (.str "orders"), .answer (.generic "title" title) (.str "Orders")]

/-- The same answers in another order. -/
def answersReordered : List Call :=
  [.answer (.generic "title" title) (.str "Orders"), .answer .database (.str "shop"), .answer .table (.str "orders")]

end Shop

theorem same_in_any_order_in_shop :
    ∃ (t : Task Memory String) (rest : Workspace × Memory),
      start (Shop.setup none) ({}, Shop.memory "") = (.ok t, rest) ∧ Accepts t Shop.answersReordered ∧
      (t.after Shop.answersReordered).table = some "orders" ∧ (t.after Shop.answersReordered).isReady = true := by
  have h : start (Shop.setup none) (({} : Workspace), Shop.memory "") = (.ok _, _) := rfl
  have hperm : Shop.answersReordered.Perm Shop.answers :=
    (List.perm_append_comm : ([_] ++ [_, _]).Perm _)
  have hdb : BindsDatabase (σ := Memory) "" Shop.answers := by
    intro v hv
    obtain rfl : v = .str "shop" := by simpa [Shop.answers] using hv
    refine ⟨by decide, fun c m m' hb => ?_⟩
    rw [Memory.bind_apply] at hb
    split at hb <;> cases hb
    rfl
  obtain ⟨hok, htable, -, -, -, -, hready⟩ := same_in_any_order h (by decide) (.refl _) hperm
    (by simp [DatabaseFirst, Shop.answers, Call.prompt]) (by simp [DatabaseFirst, Shop.answersReordered, Call.prompt])
    hdb ⟨rfl, rfl, rfl, trivial⟩
  exact ⟨_, _, h, hok, htable, hready⟩

end Task

end Stencil
