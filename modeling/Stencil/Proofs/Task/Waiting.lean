import Stencil.Proofs.Task.Answers
import Stencil.Proofs.Task.Freshness

namespace Stencil.Task

/-!
# What a task waits for

Whatever a task lacks, one of its prompts asks for it; so a task of which no prompt waits lacks nothing. This
survives calls that are for prompts that wait and that are accepted, or rejected as bad input.

* `Prompted` — the prompts of a task ask for all that it lacks;
* `Settled.perform` — a task binds its context as soon as it can;
* `Sound` — all that is known of a task along an interview;
* `Sound.isReady` — a sound task of which no prompt waits is ready.
-/

variable {σ κ : Type} {known : σ → Prop} {s : Setup} {t t₁ : Task σ κ} {c : Call} {r : Except Fault Unit}

/-! ### Prompts -/

theorem mem_withTablePrompt {p : TaskPrompt} {prompts : List TaskPrompt} :
    p ∈ withTablePrompt prompts ↔ p = .table ∨ p ∈ prompts := by
  unfold withTablePrompt
  split
  · rename_i h
    obtain ⟨q, hq, ht⟩ := List.any_eq_true.mp h
    have hmem : TaskPrompt.table ∈ prompts := by
      cases q <;> simp only [TaskPrompt.isTable, Bool.false_eq_true] at ht
      exact hq
    exact ⟨.inr, fun h => h.elim (· ▸ hmem) id⟩
  · split
    · simp only [List.mem_cons]
      exact or_left_comm
    · exact List.mem_cons

/-- The prompt of a call is of the profile, as the profile defines it, or asks for the database or the table. -/
def Defined (profile : Profile) : TaskPrompt → Prop
  | .generic id d => id ∈ profile.config.prompts ∧ profile.prompt.get? id = some d
  | _ => True

variable [Source σ κ]

theorem mem_unanswered {p : TaskPrompt} : p ∈ t.unanswered ↔ p ∈ t.prompts ∧ t.isAnswered p = false := by
  simp [unanswered]

/-- The prompts of a task are those of the profile, and ask for the database and the table if these are not known. -/
structure Prompted (profile : Profile) (t : Task σ κ) : Prop where
  defined : ∀ p ∈ t.prompts, Defined profile p
  listed : ∀ id d, id ∈ profile.config.prompts → profile.prompt.get? id = some d → .generic id d ∈ t.prompts
  database : t.databaseName = "" → .database ∈ t.prompts
  table : t.table = none → .table ∈ t.prompts

variable {profile : Profile}

theorem Taken.prompts_cases (h : Taken t c r t₁) :
    t₁.prompts = t.prompts ∨ t₁.prompts = withTablePrompt t.prompts := by
  cases h with
  | dropped => exact .inr rfl
  | _ => exact .inl rfl

theorem Taken.mem_prompts (h : Taken t c r t₁) {p : TaskPrompt} (hp : p ∈ t.prompts) : p ∈ t₁.prompts := by
  rcases h.prompts_cases with he | he
  · rwa [he]
  · rw [he]
    exact mem_withTablePrompt.mpr (.inr hp)

/-- Only answers to the prompt for the database bind one. -/
theorem Taken.connection_eq (h : Taken t c r t₁) (hc : c.prompt ≠ .database) : t₁.connection = t.connection := by
  cases h <;> first | rfl | exact absurd rfl hc

/-- A table that is not known any more is asked for. -/
theorem Taken.table_none (h : Taken t c r t₁) (hn : t₁.table = none) : t.table = none ∨ .table ∈ t₁.prompts := by
  cases h with
  | dropped => exact .inr (mem_withTablePrompt.mpr (.inl rfl))
  | chosen => cases hn
  | _ => exact .inl hn

theorem Prompted.taken (h : Prompted profile t) (ht : Taken t c r t₁) (hc : c.prompt ∈ t.prompts) :
    Prompted profile t₁ where
  defined p hp := by
    rcases ht.prompts_cases with he | he <;> rw [he] at hp
    · exact h.defined p hp
    · rcases mem_withTablePrompt.mp hp with rfl | hp
      · trivial
      · exact h.defined p hp
  listed id d hid hd := ht.mem_prompts (h.listed id d hid hd)
  database hn := by
    -- Only a call for the database can change what is bound, and that prompt is there already.
    by_cases hp : c.prompt = .database
    · exact ht.mem_prompts (hp ▸ hc)
    · rw [databaseName, ht.connection_eq hp] at hn
      exact ht.mem_prompts (h.database hn)
  table hn := by
    rcases ht.table_none hn with hn | hp
    · exact ht.mem_prompts (h.table hn)
    · exact hp

theorem Updated.prompts_eq (h : Updated t r t₁) : t₁.prompts = t.prompts := by
  cases h <;> rfl

theorem Prompted.updated (h : Prompted profile t) (hu : Updated t r t₁) : Prompted profile t₁ := by
  obtain ⟨hk, ht⟩ := hu.target_eq
  have hp := hu.prompts_eq
  refine ⟨hp ▸ h.defined, hp ▸ h.listed, ?_, ht ▸ hp ▸ h.table⟩
  rw [databaseName, hk, hp]
  exact h.database

theorem Prompted.perform (h : Prompted profile t) (hc : c.prompt ∈ t.prompts) :
    Prompted profile (c.perform t).2 := by
  rcases c.perform_cases t with ⟨e, ht, -⟩ | ⟨t₁, ht, hu⟩
  · exact h.taken ht hc
  · exact (h.taken ht hc).updated hu

theorem Started.prompted {source : σ} (h : Started s source t) : Prompted s.profile t := by
  have hp := h.prompts
  unfold Setup.prompts at hp
  refine ⟨fun p hm => ?_, fun id d hid hd => ?_, fun hn => ?_, fun hn => ?_⟩
  · rw [hp, List.mem_append, List.mem_append] at hm
    rcases hm with (hm | hm) | hm
    · split at hm <;> simp at hm
      subst hm
      trivial
    · split at hm <;> simp at hm
      subst hm
      trivial
    · obtain ⟨id, hid, hm⟩ := List.mem_filterMap.mp hm
      obtain ⟨d, hd, rfl⟩ := Option.map_eq_some_iff.mp hm
      exact ⟨hid, hd⟩
  · rw [hp, List.mem_append]
    exact .inr (List.mem_filterMap.mpr ⟨id, hid, by rw [hd]; rfl⟩)
  · rw [hp]
    simp [hn]
  · rw [hp, ← h.table]
    simp [hn]

/-! ### Binding as soon as possible -/

/-- A call that is accepted, or rejected as bad input, leaves a task settled. -/
theorem Settled.perform (hagree : Source.Agreeing known) (hs : known t.source) (h : Settled t) {t' : Task σ κ}
    (hp : c.perform t = (r, t')) (hr : ∀ e, r = .error e → e.isValidation = true) : Settled t' := by
  have hk := hagree.toKeeps
  have hcases := c.perform_cases t
  rw [hp] at hcases
  rcases hcases with ⟨e, ht, rfl⟩ | ⟨t₁, ht, hu⟩
  · refine h.failed ht fun s hl => ?_
    exact absurd ((hagree.listTables_error hl).symm.trans (hr e rfl)) (by decide)
  · cases r with
    | ok => exact hu.settled_of_ok
    | error e =>
      cases hu with
      | unreflected _ _ _ hreflect =>
        exact absurd ((hagree.reflect_error hreflect).symm.trans (hr _ rfl)) (by decide)
      | unmatched hu hd htable hreflect hnone =>
        obtain ⟨names, s, hl, hm, hs'⟩ := h.vetted ht (isBound_eq_false.mpr hu) hd htable
        -- What was asked of the source since does not lead out of its known states, so both answers agree.
        have hsource : known s := by
          rcases hs' with rfl | ⟨name, rfl⟩
          · exact hs
          · exact hk.bind _ name _ hs
        have hlisted := (hagree.mem_tableNames hsource (ht.known_source hk hs) hl hreflect _).mp hm
        exact absurd hlisted (Database.table?_eq_none.mp hnone)

theorem Started.settled {source : σ} (h : Started s source t) : Settled t := by
  obtain ⟨dsn, opened, hc, ho⟩ := h.opened
  cases ho with
  | deferred hw => exact fun _ => hw
  | eager _ _ _ _ _ _ hctx =>
    intro hf
    rw [hctx] at hf
    cases hf

/-! ### Sound tasks -/

/-- All that is known of a task along an interview. -/
structure Sound (known : σ → Prop) (profile : Profile) (t : Task σ κ) : Prop where
  source : known t.source
  prompted : Prompted profile t
  settled : Settled t
  inStep : InStep t
  fresh : Fresh known t

theorem Started.sound {source : σ} (hk : Source.Keeps known) (hs : known source) (h : Started s source t) :
    Sound known s.profile t :=
  ⟨h.known_source hk hs, h.prompted, h.settled, h.inStep, h.fresh hk hs⟩

theorem Sound.perform (hagree : Source.Agreeing known) (h : Sound known profile t) {t' : Task σ κ}
    (hp : c.perform t = (r, t')) (hr : ∀ e, r = .error e → e.isValidation = true) (hmem : c.prompt ∈ t.prompts)
    (hwait : c.redirects = true → c.prompt ∈ t.unanswered) : Sound known profile t' := by
  have hk := hagree.toKeeps
  obtain rfl : (c.perform t).2 = t' := congrArg Prod.snd hp
  exact ⟨c.known_perform hk h.source, h.prompted.perform hmem, h.settled.perform hagree h.source hp hr,
    h.inStep.perform c, h.fresh.perform hk h.source fun hc => h.fresh.binding?_of_redirects hc (hwait hc)⟩

/-- A sound task of which no prompt waits is ready. -/
theorem Sound.isReady (h : Sound known profile t) (hw : t.unanswered = []) : t.isReady = true := by
  have hanswered : ∀ p ∈ t.prompts, t.isAnswered p = true := by
    simpa [unanswered, List.filter_eq_nil_iff] using hw
  have hb : t.context.isBound = true := by
    cases hb : t.context.isBound with
    | true => rfl
    | false =>
      rcases h.settled hb with hd | ht
      · exact absurd (hanswered _ (h.prompted.database hd)) (by simp [isAnswered, hd])
      · exact absurd (hanswered _ (h.prompted.table ht)) (by simp [isAnswered, ht])
  simp [Task.isReady, hb, hw]

end Stencil.Task
