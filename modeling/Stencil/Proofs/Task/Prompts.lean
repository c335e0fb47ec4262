import Stencil.Proofs.Profile.Reading
import Stencil.Proofs.Task.Waiting

namespace Stencil

/-!
# The list of prompts

A task asks for the database first, then for the table, then for what its profile asks. Whatever is called, this list
changes once at most: if a table has to be given up, the prompt for it is put where it belongs.

* `Profile.taskPrompts` — the prompts of a profile, one for each id that it lists;
* `Task.Listed` — the prompts of a task are those for the database and the table, if need be, and of its profile;
* `Task.Listed.findPrompt_of_mem`, `Task.Listed.findPrompt_of_not_mem` — a prompt is found by its id exactly if the
  profile lists it;
* `Task.Listed.perform`, `Task.prompts_after_of_mem` — a call keeps the list, or puts the prompt for the table in it;
* `Task.Listed.unanswered_eq` — what waits for an answer, in order;
* `Task.contains_answers_after` — an answer is never taken back;
* `Task.prompts_in_order` — all this, along every run.
-/

/-! ### The prompts of a profile -/

namespace Profile

variable {p : Profile} {id : String} {d : PromptDefinition} {q : TaskPrompt}

/-- The prompts of a profile, in the order in which it lists them. -/
def taskPrompts (p : Profile) : List TaskPrompt :=
  p.config.prompts.filterMap fun id => (p.prompt.get? id).map fun definition => .generic id definition

theorem mem_taskPrompts :
    q ∈ p.taskPrompts ↔ ∃ id ∈ p.config.prompts, ∃ d, p.prompt.get? id = some d ∧ .generic id d = q := by
  simp [taskPrompts, List.mem_filterMap, Option.map_eq_some_iff]

theorem kind_of_mem_taskPrompts (h : q ∈ p.taskPrompts) : q.kind = .generic := by
  obtain ⟨id, -, d, -, rfl⟩ := mem_taskPrompts.mp h
  rfl

/-- If every listed id has a definition, there is one prompt for each of them, in the same order. -/
theorem forall₂_taskPrompts (h : p.checkReferences = .ok ()) :
    List.Forall₂ (fun id q => ∃ d, p.prompt.get? id = some d ∧ q = .generic id d) p.config.prompts p.taskPrompts := by
  have hall : ∀ ids : List String, (∀ id ∈ ids, id ∈ p.config.prompts) →
      List.Forall₂ (fun id q => ∃ d, p.prompt.get? id = some d ∧ q = .generic id d) ids
        (ids.filterMap fun id => (p.prompt.get? id).map fun definition => TaskPrompt.generic id definition) := by
    intro ids
    induction ids with
    | nil => exact fun _ => .nil
    | cons id ids ih =>
      intro hids
      rw [List.forall_mem_cons] at hids
      obtain ⟨d, hd⟩ := get?_of_checkReferences h hids.1
      rw [List.filterMap_cons_some (b := .generic id d) (by rw [hd]; rfl)]
      exact .cons ⟨d, hd, rfl⟩ (ih hids.2)
  exact hall _ fun _ => id

end Profile

namespace Task

/-! ### The list -/

/-- The prompt for the database is there if the connection started with none. -/
def databasePrompts (name : String) : List TaskPrompt :=
  if name = "" then [.database] else []

theorem mem_databasePrompts {p : TaskPrompt} {name : String} (h : p ∈ databasePrompts name) : p = .database := by
  unfold databasePrompts at h
  split at h
  · exact List.mem_singleton.mp h
  · cases h

theorem Setup.prompts_eq (s : Setup) (name : String) :
    s.prompts name =
      databasePrompts name ++ ((if s.table.isNone then [.table] else []) ++ s.profile.taskPrompts) := by
  rw [Setup.prompts, List.append_assoc]
  rfl

theorem table_not_mem_prompts (name : String) (profile : Profile) :
    .table ∉ databasePrompts name ++ profile.taskPrompts := by
  intro h
  rcases List.mem_append.mp h with h | h
  · cases mem_databasePrompts h
  · exact absurd (Profile.kind_of_mem_taskPrompts h) (by decide)

/-- The prompt for the table is put between that for the database and those of the profile. -/
theorem withTablePrompt_of_missing (name : String) (profile : Profile) :
    withTablePrompt (databasePrompts name ++ profile.taskPrompts) =
      databasePrompts name ++ .table :: profile.taskPrompts := by
  have hany : (databasePrompts name ++ profile.taskPrompts).any (·.isTable) = false := by
    refine List.any_eq_false.mpr fun p hp => ?_
    cases p with
    | table => exact absurd hp (table_not_mem_prompts name profile)
    | _ => simp [TaskPrompt.isTable]
  unfold withTablePrompt
  rw [if_neg (by simp [hany])]
  by_cases hname : name = ""
  · simp [databasePrompts, hname]
  · -- Without a prompt for the database, the first one is of the profile, if there is one at all.
    simp only [databasePrompts, if_neg hname, List.nil_append]
    split
    · rename_i heq
      have hmem : TaskPrompt.database ∈ profile.taskPrompts := heq ▸ List.mem_cons_self
      exact absurd (Profile.kind_of_mem_taskPrompts hmem) (by decide)
    · rfl

theorem withTablePrompt_of_mem {prompts : List TaskPrompt} (h : .table ∈ prompts) :
    withTablePrompt prompts = prompts :=
  if_pos (List.any_eq_true.mpr ⟨_, h, rfl⟩)

variable {σ κ : Type} {t t₁ : Task σ κ} {c : Call} {r : Except Fault Unit} {profile : Profile} {name : String}

/-- The prompts of a task are that for the database, perhaps that for the table, and those of the profile; while there
is no table, the prompt for it is there. -/
structure Listed (name : String) (profile : Profile) (t : Task σ κ) : Prop where
  prompts : t.prompts = databasePrompts name ++ profile.taskPrompts ∨
    t.prompts = databasePrompts name ++ .table :: profile.taskPrompts
  table : t.table = none → .table ∈ t.prompts

theorem Listed.generic_mem_prompts (h : Listed name profile t) {id : String} {d : PromptDefinition} :
    .generic id d ∈ t.prompts ↔ id ∈ profile.config.prompts ∧ profile.prompt.get? id = some d := by
  have hdatabase : TaskPrompt.generic id d ∉ databasePrompts name := fun hm => by
    cases mem_databasePrompts hm
  have hprofile : .generic id d ∈ profile.taskPrompts ↔
      id ∈ profile.config.prompts ∧ profile.prompt.get? id = some d := by
    simp [Profile.mem_taskPrompts]
  rcases h.prompts with he | he <;> simp [he, hdatabase, hprofile]

/-! ### Finding a prompt -/

/-- A prompt of the profile is found by its id. -/
theorem Listed.findPrompt_of_mem (h : Listed name profile t) {id : String} {d : PromptDefinition}
    (hid : id ∈ profile.config.prompts) (hd : profile.prompt.get? id = some d) :
    t.findPrompt id = .ok (.generic id d) := by
  unfold findPrompt
  cases hfind : t.prompts.find? (·.hasId id) with
  | none =>
    have hmiss := List.find?_eq_none.mp hfind _ (h.generic_mem_prompts.mpr ⟨hid, hd⟩)
    simp [TaskPrompt.hasId] at hmiss
  | some p =>
    -- The prompt that is found has the id, and so the definition of the profile.
    have hmem := List.mem_of_find?_eq_some hfind
    have hhas := List.find?_some hfind
    cases p with
    | database | table => cases hhas
    | generic id' d' =>
      obtain rfl : id' = id := by simpa [TaskPrompt.hasId] using hhas
      obtain ⟨-, hd'⟩ := h.generic_mem_prompts.mp hmem
      rw [Option.some.inj (hd'.symm.trans hd)]

/-- No other id leads to a prompt. -/
theorem Listed.findPrompt_of_not_mem (h : Listed name profile t) {id : String} (hid : id ∉ profile.config.prompts) :
    t.findPrompt id = .error (.validation ("Unknown prompt: " ++ id)) := by
  have hfind : t.prompts.find? (·.hasId id) = none := by
    refine List.find?_eq_none.mpr fun p hp hhas => ?_
    cases p with
    | database | table => cases hhas
    | generic id' d =>
      obtain rfl : id' = id := by simpa [TaskPrompt.hasId] using hhas
      exact hid (h.generic_mem_prompts.mp hp).1
  rw [findPrompt, hfind]

/-! ### Calls -/

variable [Source σ κ]

/-- The first half of a call leaves the list as it is, or puts the prompt for the table in its place. -/
theorem Listed.taken (h : Listed name profile t) (ht : Taken t c r t₁) : Listed name profile t₁ where
  prompts := by
    rcases ht.prompts_cases with he | he <;> rw [he]
    · exact h.prompts
    · rcases h.prompts with hs | hs <;> rw [hs]
      · exact .inr (withTablePrompt_of_missing name profile)
      · exact .inr (withTablePrompt_of_mem (by simp))
  table hn := by
    rcases ht.table_none hn with hn | hm
    · rcases ht.prompts_cases with he | he <;> rw [he]
      · exact h.table hn
      · exact mem_withTablePrompt.mpr (.inl rfl)
    · exact hm

theorem Listed.updated (h : Listed name profile t) (hu : Updated t r t₁) : Listed name profile t₁ where
  prompts := hu.prompts_eq ▸ h.prompts
  table := hu.prompts_eq ▸ hu.target_eq.2 ▸ h.table

theorem Listed.perform (h : Listed name profile t) (c : Call) : Listed name profile (c.perform t).2 := by
  rcases c.perform_cases t with ⟨e, ht, -⟩ | ⟨t₁, ht, hu⟩
  · exact h.taken ht
  · exact (h.taken ht).updated hu

theorem Started.listed {s : Setup} {source : σ} (h : Started s source t) : Listed t.databaseName s.profile t where
  prompts := by
    rw [h.prompts, Setup.prompts_eq]
    cases s.table with
    | none => exact .inr rfl
    | some table => exact .inl rfl
  table hn := by
    rw [h.prompts, Setup.prompts_eq, ← h.table, hn]
    simp

theorem Call.prompts_perform (c : Call) (t : Task σ κ) :
    (c.perform t).2.prompts = t.prompts ∨ (c.perform t).2.prompts = withTablePrompt t.prompts := by
  rcases c.perform_cases t with ⟨e, ht, -⟩ | ⟨t₁, ht, hu⟩
  · exact ht.prompts_cases
  · exact hu.prompts_eq ▸ ht.prompts_cases

/-- Once the prompt for the table is on the list, the list does not change any more. -/
theorem prompts_after_of_mem (h : .table ∈ t.prompts) (calls : List Call) : (t.after calls).prompts = t.prompts := by
  refine after_induction (P := fun t' => t'.prompts = t.prompts) (fun t' c ih => ?_) rfl calls
  rcases c.prompts_perform t' with he | he
  · exact he.trans ih
  · rw [he, ih, withTablePrompt_of_mem h]

/-! ### What waits -/

theorem filter_databasePrompts (h : t.databaseName = "" → name = "") :
    (databasePrompts name).filter (!t.isAnswered ·) = databasePrompts t.databaseName := by
  by_cases hn : t.databaseName = ""
  · simp [databasePrompts, h hn, hn, isAnswered]
  · by_cases hname : name = "" <;> simp [databasePrompts, hname, hn, isAnswered]

/-- If a database that is missing is on the list, what waits is the database, the table, and what the profile asks, in
this order. -/
theorem Listed.unanswered_eq (h : Listed name profile t) (hd : t.databaseName = "" → name = "") :
    t.unanswered = databasePrompts t.databaseName ++
      ((if t.table.isNone then [.table] else []) ++ profile.taskPrompts.filter (!t.isAnswered ·)) := by
  have hdatabase := filter_databasePrompts hd
  have htable : [TaskPrompt.table].filter (!t.isAnswered ·) = if t.table.isNone then [.table] else [] := by
    cases ht : t.table <;> simp [isAnswered, ht]
  rcases h.prompts with he | he
  · -- Without a prompt for the table there is one.
    have hsome : t.table.isNone = false := by
      rw [Option.isNone_eq_false_iff, Option.isSome_iff_ne_none]
      exact fun hn => table_not_mem_prompts name profile (he ▸ h.table hn)
    simp [unanswered, he, List.filter_append, hdatabase, hsome]
  · rw [unanswered, he, List.filter_append, hdatabase, ← htable, ← List.filter_append]
    rfl

/-! ### Answers stay -/

/-- What a call records takes no answer back. -/
theorem Call.contains_record {id : String} {m : OrderedMap Value} (c : Call) (h : m.contains id = true) :
    (c.record m).contains id = true := by
  rcases c.record_cases m with he | ⟨id', d, v, -, he⟩
  · rwa [he]
  · rw [he]
    exact (OrderedMap.contains_put _ _ _ _).mpr (.inr h)

/-- An answer is never taken back. -/
theorem contains_answers_after {id : String} (h : t.answers.contains id = true) (calls : List Call) :
    (t.after calls).answers.contains id = true := by
  refine after_induction (P := fun t => t.answers.contains id = true) (fun t c ih => ?_) h calls
  rw [c.answers_perform]
  exact c.contains_record ih

/-- A call that is accepted answers its prompt of the profile. -/
theorem Call.contains_of_ok {id : String} {d : PromptDefinition} (hc : c.prompt = .generic id d)
    (h : (c.perform t).1 = .ok ()) : (c.perform t).2.answers.contains id = true := by
  have hput : ∃ v, (c.perform t).2.answers = t.answers.put id v := by
    cases c with
    | answer p v =>
      obtain rfl : p = .generic id d := hc
      exact ⟨v, Call.answers_of_ok (Prod.ext h rfl)⟩
    | skip p =>
      obtain rfl : p = .generic id d := hc
      exact ⟨.str "", Call.answers_perform _ _⟩
  obtain ⟨v, hv⟩ := hput
  rw [hv]
  exact (OrderedMap.contains_put _ _ _ _).mpr (.inl rfl)

theorem not_mem_unanswered {id : String} (h : t.answers.contains id = true) (d : PromptDefinition) :
    .generic id d ∉ t.unanswered := by
  simp [unanswered, isAnswered, h]

/-! ### Runs -/

/-- **The list of prompts keeps its shape.** Whatever is called, a task for an accepted profile has the prompt for the
database exactly if its connection started with none, then perhaps that for the table, then one for each id of the
profile, in order. While there is no table, the prompt for it is there; the list changes only if this prompt is put in
its place. Exactly the ids of the profile lead to a prompt, and a prompt of the profile that has been answered does not
wait for an answer again. -/
theorem prompts_in_order {v : Value} {profileName : Option String} {s : Setup} {w : Workspace} {source : σ}
    {rest : Workspace × σ} (hprofile : Profile.ofDocument v profileName = .ok s.profile)
    (h : start s (w, source) = (.ok t, rest)) :
    List.Forall₂ (fun id q => ∃ d, s.profile.prompt.get? id = some d ∧ q = .generic id d) s.profile.config.prompts
      s.profile.taskPrompts ∧
    ∀ calls,
      ((t.after calls).prompts = databasePrompts t.databaseName ++ s.profile.taskPrompts ∨
        (t.after calls).prompts = databasePrompts t.databaseName ++ .table :: s.profile.taskPrompts) ∧
      ((t.after calls).table = none → .table ∈ (t.after calls).prompts) ∧
      (∀ more, ((t.after calls).after more).prompts = (t.after calls).prompts ∨
        ((t.after calls).prompts = databasePrompts t.databaseName ++ s.profile.taskPrompts ∧
          ((t.after calls).after more).prompts =
            databasePrompts t.databaseName ++ .table :: s.profile.taskPrompts)) ∧
      (∀ id, (id ∈ s.profile.config.prompts → ∃ d, s.profile.prompt.get? id = some d ∧
          (t.after calls).findPrompt id = .ok (.generic id d)) ∧
        (id ∉ s.profile.config.prompts →
          (t.after calls).findPrompt id = .error (.validation ("Unknown prompt: " ++ id)))) ∧
      (∀ id d, (t.after calls).isAnswered (.generic id d) = true →
        ∀ more d', .generic id d' ∉ ((t.after calls).after more).unanswered) ∧
      ∀ (c : Call) id d, c.prompt = .generic id d → (c.perform (t.after calls)).1 = .ok () →
        (c.perform (t.after calls)).2.isAnswered (.generic id d) = true := by
  have href := (Profile.accepted_of_ofDocument hprofile).references
  have hlisted : ∀ calls, Listed t.databaseName s.profile (t.after calls) :=
    after_induction (fun t' c h => h.perform c) (start_started h).listed
  refine ⟨Profile.forall₂_taskPrompts href, fun calls => ?_⟩
  have hnow := hlisted calls
  refine ⟨hnow.prompts, hnow.table, fun more => ?_, fun id => ⟨fun hid => ?_, hnow.findPrompt_of_not_mem⟩,
    fun id d ha more => ?_, fun c id d hc hok => c.contains_of_ok hc hok⟩
  · -- The list can only change from the one without the prompt for the table to the one with it.
    have hlater := hlisted (calls ++ more)
    rw [after_append] at hlater
    rcases hnow.prompts with hs | hl
    · rcases hlater.prompts with hs' | hl'
      · exact .inl (hs'.trans hs.symm)
      · exact .inr ⟨hs, hl'⟩
    · exact .inl (prompts_after_of_mem (by simp [hl]) more)
  · obtain ⟨d, hd⟩ := Profile.get?_of_checkReferences href hid
    exact ⟨d, hd, hnow.findPrompt_of_mem hid hd⟩
  · exact not_mem_unanswered (contains_answers_after ha more)

theorem prompts_in_order_in_shop :
    ∃ (t : Task Memory String) (rest : Workspace × Memory),
      start (Shop.setup (some "invoices")) ({}, Shop.memory "") = (.ok t, rest) ∧
      t.prompts = [.database, .generic "title" Shop.title] ∧
      (t.after [.answer .database (.str "shop")]).prompts = [.database, .table, .generic "title" Shop.title] ∧
      (t.after [.answer .database (.str "shop")]).findPrompt "title" = .ok (.generic "title" Shop.title) ∧
      .generic "title" Shop.title ∉
        ((t.after [.skip (.generic "title" Shop.title)]).after [.answer .database (.str "shop")]).unanswered := by
  have hprofile : Profile.ofDocument Shop.profile.toDocument.toValue = .ok Shop.profile := by
    decide +kernel
  have h : start (Shop.setup (some "invoices")) (({} : Workspace), Shop.memory "") = (.ok _, _) := rfl
  have hall := (prompts_in_order hprofile h).2
  obtain ⟨-, -, -, hfind, -⟩ := hall [.answer .database (.str "shop")]
  obtain ⟨d, hd, hfound⟩ := (hfind "title").1 (by decide)
  obtain ⟨-, -, -, -, hstays, -⟩ := hall [.skip (.generic "title" Shop.title)]
  refine ⟨_, _, h, rfl, rfl, ?_, hstays "title" Shop.title rfl [.answer .database (.str "shop")] Shop.title⟩
  cases hd
  exact hfound

end Task

end Stencil
