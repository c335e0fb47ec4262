import Stencil.Proofs.Task.Order

namespace Stencil.Task

/-!
# The prompt that is next

An interview always answers the first prompt that waits. As long as only this one is answered, apart from prompts of the
profile, nothing is ever asked for out of turn: a table is asked for when a database is bound, and the profile asks when
there is a table, too. A prompt that has its answer keeps it, with one exception: a table that was given at the start is
given up if the database does not have it. Then it has not been asked for yet.

* `Queued` — a database that is missing is asked for, and a table was not asked for before there was a database;
* `Queued.head_of_unbound`, `Queued.databaseName_ne`, `Queued.table_ne_none` — what is known when a prompt is next;
* `Call.InTurn`, `Queued.perform` — calls that keep it so;
* `Advanced`, `Queued.advanced` — what such a call does to the list and to the prompts that have their answers;
* `Advanced.sublist`, `Advanced.length_le` — how many prompts wait afterwards;
* `Reached`, `InOrder`, `Advanced.inOrder` — prompts that were next at some time, and their places on the list.
-/

variable {σ κ : Type} {t t' t₁ : Task σ κ} {c : Call} {r : Except Fault Unit} {profile : Profile} {name : String}
  {p q : TaskPrompt}

/-- The place of a prompt on the list. -/
def place (t : Task σ κ) (p : TaskPrompt) : Nat :=
  t.prompts.findIdx fun q => q = p

variable [Source σ κ]

/-- A database that is missing is asked for, and a table that is on the list was not given before there was a database. -/
structure Queued (name : String) (profile : Profile) (t : Task σ κ) : Prop extends Listed name profile t where
  database : t.databaseName = "" → name = ""
  bound : t.table ≠ none → .table ∈ t.prompts → t.databaseName ≠ ""

theorem Started.queued {s : Setup} {source : σ} (h : Started s source t) : Queued t.databaseName s.profile t where
  toListed := h.listed
  database hn := hn
  bound ht hm := by
    -- At the start, the list has no prompt for a table that is given.
    rw [h.prompts, Setup.prompts_eq, ← h.table, Option.isNone_eq_false_iff.mpr (Option.isSome_iff_ne_none.mpr ht)] at hm
    exact absurd hm (table_not_mem_prompts _ _)

/-! ### The first prompt that waits -/

/-- A database that is missing is always asked for first. -/
theorem Queued.head_of_unbound (h : Queued name profile t) (hn : t.databaseName = "") :
    t.unanswered.head? = some .database := by
  simp [h.toListed.unanswered_eq h.database, hn, databasePrompts]

theorem Queued.databaseName_ne (h : Queued name profile t) (hw : t.unanswered.head? = some p) (hp : p ≠ .database) :
    t.databaseName ≠ "" := fun hn =>
  hp (Option.some.inj (hw.symm.trans (h.head_of_unbound hn)))

/-- When the profile asks, there are a database and a table. -/
theorem Queued.table_ne_none (h : Queued name profile t) (hw : t.unanswered.head? = some p) (hp : p.kind = .generic) :
    t.table ≠ none := by
  intro hn
  have hd := h.databaseName_ne hw (by rintro rfl; cases hp)
  rw [h.toListed.unanswered_eq h.database] at hw
  simp only [databasePrompts, hd, hn, if_false, Option.isNone_none, if_true, List.nil_append, List.cons_append,
    List.head?_cons, Option.some.injEq] at hw
  cases hw
  cases hp

theorem isAnswered_of_head (hw : t.unanswered.head? = some p) : t.isAnswered p = false :=
  (mem_unanswered.mp (List.mem_of_head? hw)).2

/-! ### Calls in turn -/

/-- A call is for a prompt of the profile, or for the one that is next. -/
def Call.InTurn (c : Call) (t : Task σ κ) : Prop :=
  c.prompt.kind = .generic ∨ t.unanswered.head? = some c.prompt

theorem Call.InTurn.unbound (h : c.InTurn t) (hc : c.prompt = .database) : t.databaseName = "" := by
  have hw := h.resolve_left (by simp [hc, TaskPrompt.kind])
  simpa [isAnswered, hc] using isAnswered_of_head hw

theorem Call.InTurn.bound (h : c.InTurn t) (hq : Queued name profile t) (hc : c.prompt = .table) :
    t.databaseName ≠ "" := by
  have hw := h.resolve_left (by simp [hc, TaskPrompt.kind])
  exact hq.databaseName_ne hw (by simp [hc])

theorem Queued.taken (h : Queued name profile t) (ht : Taken t c r t₁) (hc : c.InTurn t) : Queued name profile t₁ where
  toListed := h.toListed.taken ht
  database hn := by
    by_cases hp : c.prompt = .database
    · exact h.database (hc.unbound hp)
    · rw [databaseName, ht.connection_eq hp] at hn
      exact h.database hn
  bound htable hm := by
    cases ht with
    | rebound hb ht => exact absurd ht htable
    -- A call for the database finds none, so the table that it keeps is not on the list.
    | unchecked | checked => exact absurd (hc.unbound rfl) (h.bound htable hm)
    | dropped => exact absurd rfl htable
    | chosen => exact hc.bound h rfl
    | _ => exact h.bound htable hm

theorem Queued.updated (h : Queued name profile t) (hu : Updated t r t₁) : Queued name profile t₁ := by
  obtain ⟨hk, ht⟩ := hu.target_eq
  refine ⟨h.toListed.updated hu, ?_, ?_⟩
  · rw [databaseName, hk]
    exact h.database
  · rw [databaseName, hk, ht, hu.prompts_eq]
    exact h.bound

theorem Queued.perform (h : Queued name profile t) (hc : c.InTurn t) : Queued name profile (c.perform t).2 := by
  rcases c.perform_cases t with ⟨e, ht, -⟩ | ⟨t₁, ht, hu⟩
  · exact h.taken ht hc
  · exact (h.taken ht hc).updated hu

/-- The queue of a task does not depend on its source. -/
theorem Queued.with_source (h : Queued name profile t) (s : σ) : Queued name profile { t with source := s } :=
  ⟨⟨h.prompts, h.table⟩, h.database, h.bound⟩

/-- An answer for the database is turned down and the list stays, or the database is bound. -/
theorem Taken.kept_or_bound {v : Value} (h : Taken t (.answer .database v) r t₁) :
    (r ≠ .ok () ∧ t₁.prompts = t.prompts) ∨ ∃ s, Source.bind t.connection v.text t.source = (.ok t₁.connection, s) := by
  cases h with
  | refused => exact .inl ⟨by simp, rfl⟩
  | rebound hb | unchecked hb | dropped hb | checked hb => exact .inr ⟨_, hb⟩

theorem Call.kept_or_bound (v : Value) {t' : Task σ κ} (h : (Call.answer .database v).perform t = (r, t')) :
    (r ≠ .ok () ∧ t'.prompts = t.prompts) ∨ ∃ s, Source.bind t.connection v.text t.source = (.ok t'.connection, s) := by
  have hcases := (Call.answer .database v).perform_cases t
  rw [h] at hcases
  rcases hcases with ⟨e, ht, rfl⟩ | ⟨t₁, ht, hu⟩
  · exact ht.kept_or_bound
  · rw [hu.target_eq.1]
    exact .inr (ht.kept_or_bound.resolve_left fun hno => hno.1 rfl)

/-! ### The queue moves on -/

/-- What a call in turn can do: the list stays, and every prompt keeps its answer; or a table that was given at the
start is given up, which is then asked for. -/
inductive Advanced (profile : Profile) (t t' : Task σ κ) : Prop where
  | kept (hp : t'.prompts = t.prompts) (ha : ∀ q, t.isAnswered q = true → t'.isAnswered q = true)
  | dropped (hp : t.prompts = .database :: profile.taskPrompts)
      (hp' : t'.prompts = .database :: .table :: profile.taskPrompts) (hd : t.databaseName = "")
      (ht : t'.table = none) (ha : t'.answers = t.answers)

/-- Answers stay if the table does, and the database. -/
theorem isAnswered_of_target (hd : t.databaseName ≠ "" → t'.databaseName ≠ "") (ht : t.table ≠ none → t'.table ≠ none)
    (ha : ∀ id, t.answers.contains id = true → t'.answers.contains id = true) (h : t.isAnswered q = true) :
    t'.isAnswered q = true := by
  cases q with
  | database => exact isAnswered_database.mpr (hd (isAnswered_database.mp h))
  | table => exact isAnswered_table.mpr (ht (isAnswered_table.mp h))
  | generic id d => exact ha id h

theorem Taken.advanced (h : Taken t c r t₁) (hq : Queued name profile t) (hc : c.InTurn t) : Advanced profile t t₁ := by
  have hanswers : ∀ id, t.answers.contains id = true → t₁.answers.contains id = true := fun id hid => by
    rw [h.answers_eq]
    exact c.contains_record hid
  -- A call for the database finds none, so no prompt for it loses its answer.
  have hdatabase : t.databaseName ≠ "" → t₁.databaseName ≠ "" := fun hd => by
    rw [databaseName, h.connection_eq fun hp => hd (hc.unbound hp)]
    exact hd
  cases h with
  | @dropped v k s table names s' hb ht hl hn =>
    have hd := hc.unbound rfl
    have hmissing : .table ∉ t.prompts := fun hm => hq.bound (by simp [ht]) hm hd
    have hprompts : t.prompts = databasePrompts name ++ profile.taskPrompts :=
      hq.prompts.resolve_right fun he => hmissing (by simp [he])
    have hname := hq.database hd
    refine .dropped (by simpa [databasePrompts, hname] using hprompts) ?_ hd rfl rfl
    show withTablePrompt t.prompts = _
    rw [hprompts, withTablePrompt_of_missing]
    simp [databasePrompts, hname]
  | chosen => exact .kept rfl fun q => isAnswered_of_target hdatabase (by simp [reported]) hanswers
  | _ => exact .kept rfl fun q => isAnswered_of_target hdatabase id hanswers

theorem Advanced.updated (h : Advanced profile t t₁) (hu : Updated t₁ r t') : Advanced profile t t' := by
  obtain ⟨hk, ht⟩ := hu.target_eq
  have hp := hu.prompts_eq
  cases h with
  | kept hp₁ ha =>
    refine .kept (hp.trans hp₁) fun q hq => ?_
    refine isAnswered_of_target ?_ (ht ▸ id) (fun id => hu.answers_eq ▸ fun h => h) (ha q hq)
    rw [databaseName, databaseName, hk]
    exact id
  | dropped hp₁ hp' hd htable ha =>
    exact .dropped hp₁ (hp.trans hp') hd (ht.trans htable) (hu.answers_eq.trans ha)

theorem Queued.advanced (h : Queued name profile t) (hc : c.InTurn t) : Advanced profile t (c.perform t).2 := by
  rcases c.perform_cases t with ⟨e, ht, -⟩ | ⟨t₁, ht, hu⟩
  · exact ht.advanced h hc
  · exact (ht.advanced h hc).updated hu

/-- A prompt on the list that has its answer keeps both. -/
theorem Advanced.isAnswered (h : Advanced profile t t') (hq : q ∈ t.prompts) (ha : t.isAnswered q = true) :
    q ∈ t'.prompts ∧ t'.isAnswered q = true := by
  cases h with
  | kept hp hkept => exact ⟨hp ▸ hq, hkept q ha⟩
  | dropped hp hp' hd ht hanswers =>
    rw [hp, List.mem_cons] at hq
    rcases hq with rfl | hq
    · exact absurd hd (isAnswered_database.mp ha)
    · obtain ⟨id, -, d, -, rfl⟩ := Profile.mem_taskPrompts.mp hq
      refine ⟨by simp [hp', hq], ?_⟩
      rw [Task.isAnswered, hanswers]
      exact ha

/-- If the list stays, no prompt comes to wait. -/
theorem Advanced.sublist (h : Advanced profile t t') (hp : t'.prompts = t.prompts) : t'.unanswered.Sublist t.unanswered := by
  cases h with
  | kept _ ha =>
    rw [unanswered, hp]
    refine List.monotone_filter_right _ fun q => ?_
    have hq := ha q
    cases h₁ : t.isAnswered q <;> cases h₂ : t'.isAnswered q <;> simp_all
  | dropped hd hd' =>
    rw [hd, hd'] at hp
    have hlength := congrArg List.length hp
    simp at hlength

/-- If the list stays and a prompt that waits is answered, fewer prompts wait than before. -/
theorem Advanced.length_lt (h : Advanced profile t t') (hp : t'.prompts = t.prompts) (hw : p ∈ t.unanswered)
    (ha : t'.isAnswered p = true) : t'.unanswered.length < t.unanswered.length := by
  have hsub := h.sublist hp
  refine lt_of_le_of_ne hsub.length_le fun he => ?_
  have hopen := (mem_unanswered.mp ((hsub.eq_of_length he).symm ▸ hw)).2
  cases ha.symm.trans hopen

/-- If the database that is bound has a name, no more prompts wait than before. -/
theorem Advanced.length_le (h : Advanced profile t t') (hd : t'.prompts ≠ t.prompts → t'.databaseName ≠ "") :
    t'.unanswered.length ≤ t.unanswered.length := by
  by_cases hp : t'.prompts = t.prompts
  · exact (h.sublist hp).length_le
  · cases h with
    | kept hp' => exact absurd hp' hp
    | dropped hlist hlist' hn ht hanswers =>
      -- The prompt for the table waits in place of that for the database.
      have hdatabase : t.isAnswered .database = false := by simp [Task.isAnswered, hn]
      have hdatabase' : t'.isAnswered .database = true := isAnswered_database.mpr (hd hp)
      have htable' : t'.isAnswered .table = false := by simp [Task.isAnswered, ht]
      have hsame : profile.taskPrompts.filter (!t'.isAnswered ·) = profile.taskPrompts.filter (!t.isAnswered ·) := by
        refine List.filter_congr fun q hq => ?_
        obtain ⟨id, -, d, -, rfl⟩ := Profile.mem_taskPrompts.mp hq
        rw [Task.isAnswered, Task.isAnswered, hanswers]
      simp [unanswered, hlist, hlist', hdatabase, hdatabase', htable', hsame]

/-! ### Places -/

/-- All prompts that are listed before a prompt have their answers. -/
def Reached (t : Task σ κ) (p : TaskPrompt) : Prop :=
  ∃ before since, t.prompts = before ++ p :: since ∧ ∀ q ∈ before, t.isAnswered q = true

theorem Reached.of_head (hw : t.unanswered.head? = some p) : Reached t p := by
  rw [unanswered, List.head?_filter, List.find?_eq_some_iff_append] at hw
  obtain ⟨-, before, since, hp, hbefore⟩ := hw
  exact ⟨before, since, hp, fun q hq => by simpa using hbefore q hq⟩

/-- A prompt that waits is not listed before one that has been reached. -/
theorem Reached.place_le (h : Reached t p) (hq : q ∈ t.unanswered) : t.place p ≤ t.place q := by
  obtain ⟨before, since, hp, hbefore⟩ := h
  have hopen : q ∉ before := fun hm => by
    cases (hbefore q hm).symm.trans (mem_unanswered.mp hq).2
  have hle : t.place p ≤ before.length := by
    rw [place, hp, List.findIdx_append]
    split
    · exact List.findIdx_le_length
    · simp [List.findIdx_cons]
  have hge : before.length ≤ t.place q := by
    rw [place, hp, List.findIdx_append, if_neg (by simpa using hopen)]
    exact Nat.le_add_left _ _
  exact hle.trans hge

/-- A prompt that has been reached stays so, and no prompt gets in front of it. -/
theorem Advanced.reached (h : Advanced profile t t') (hr : Reached t p) :
    Reached t' p ∧ ∀ q, t.place p ≤ t.place q → t'.place p ≤ t'.place q := by
  obtain ⟨before, since, hp, hbefore⟩ := hr
  cases h with
  | kept hp' ha =>
    refine ⟨⟨before, since, hp'.trans hp, fun q hq => ha q (hbefore q hq)⟩, fun q hle => ?_⟩
    rwa [place, place, hp']
  | dropped hd hd' hn ht hanswers =>
    -- Only the prompt for the database has been reached: it waits, and it is the first one.
    have hfirst : before = [] := by
      cases before with
      | nil => rfl
      | cons q before =>
        obtain rfl : TaskPrompt.database = q := (List.cons.inj (hd.symm.trans hp)).1
        exact absurd hn (isAnswered_database.mp (hbefore _ List.mem_cons_self))
    subst hfirst
    obtain rfl : TaskPrompt.database = p := (List.cons.inj (hd.symm.trans hp)).1
    refine ⟨⟨[], _, hd', by simp⟩, fun q _ => ?_⟩
    simp [place, hd', List.findIdx_cons]

/-- Prompts that were next one after the other: each has been reached, and none is listed before an earlier one. -/
structure InOrder (t : Task σ κ) (ps : List TaskPrompt) : Prop where
  reached : ∀ p ∈ ps, Reached t p
  places : ps.Pairwise fun p q => t.place p ≤ t.place q

theorem InOrder.next {ps : List TaskPrompt} (h : InOrder t ps) (hw : t.unanswered.head? = some p) :
    InOrder t (ps ++ [p]) where
  reached q hq := by
    rcases List.mem_append.mp hq with hq | hq
    · exact h.reached q hq
    · obtain rfl := List.mem_singleton.mp hq
      exact Reached.of_head hw
  places := by
    refine List.pairwise_append.mpr ⟨h.places, List.pairwise_singleton _ _, fun q hq q' hq' => ?_⟩
    obtain rfl := List.mem_singleton.mp hq'
    exact (h.reached q hq).place_le (List.mem_of_head? hw)

theorem Advanced.inOrder {ps : List TaskPrompt} (h : Advanced profile t t') (ho : InOrder t ps) : InOrder t' ps where
  reached p hp := (h.reached (ho.reached p hp)).1
  places := ho.places.imp_of_mem fun hp _ hle => (h.reached (ho.reached _ hp)).2 _ hle

/-! ### When the profile asks -/

/-- When the profile asks, the context is bound. -/
theorem Queued.isBound (h : Queued name profile t) (hs : Settled t) (hw : t.unanswered.head? = some p)
    (hp : p.kind = .generic) : t.context.isBound = true := by
  by_contra hb
  rcases hs (by simpa using hb) with hd | ht
  · exact h.databaseName_ne hw (by rintro rfl; cases hp) hd
  · exact h.table_ne_none hw hp ht

/-- Once the context is bound, a call for a prompt of the profile that fails changes nothing. -/
theorem Call.perform_of_bound {e : Fault} (hb : t.context.isBound = true) (hc : c.prompt.kind = .generic)
    (h : c.perform t = (.error e, t')) : t' = t := by
  have hcases := c.perform_cases t
  rw [h] at hcases
  rcases hcases with ⟨e', ht, -⟩ | ⟨t₁, ht, hu⟩
  · cases ht with
    | blank => rfl
    | kept hp => exact absurd hc hp
    | _ => cases hc
  · -- A bound context is brought up to date without any question to the source.
    obtain ⟨b, hb⟩ := isBound_iff.mp (ht.context_eq ▸ hb)
    cases hu with
    | unreflected hu => cases hb.symm.trans hu
    | unmatched hu => cases hb.symm.trans hu

end Stencil.Task
