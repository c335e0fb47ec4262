import Stencil.Dialog.Replay
import Stencil.Proofs.Dialog.Rounds
import Stencil.Proofs.Profile.Reading
import Stencil.Proofs.Task.Waiting

namespace Stencil.Dialog.Interview

/-!
# Finished interviews

An interview keeps its task sound, because each round is for a prompt that waits; so an interview after which no
prompt waits leaves a task that is ready. A prompt that has its answer is not asked again, so preset answers stay
as they are, and an answer that came in a round is one that was accepted in it.

* `Finishes` — interviews that come to their end;
* `Rounds.sound` — the rounds of an interview keep its task sound;
* `Rounds.answers` — where the answers after some rounds come from;
* `task_of_finishes` — what the task is like after an interview.
-/

variable {σ κ α : Type} [Source σ κ] {known : σ → Prop} {profile : Profile} {t t' : Task σ κ} {p : TaskPrompt}
  {r : Except Fault Unit}

open Stencil.Task (Sound Defined Shows Started start_started)

/-! ### Sound tasks -/

theorem sound_of_listed (hk : Source.Keeps known) (h : Sound known profile t) {s : σ} (hs : Listed t s) :
    Sound known profile { t with source := s } := by
  have hsource : known s := by
    rcases hs with rfl | rfl | rfl
    · exact h.source
    · exact hk.listDatabases _ _ h.source
    · exact hk.listTables _ _ h.source
  obtain ⟨hdefined, hlisted, hdatabase, htable⟩ := h.prompted
  obtain ⟨hnodup, hbound, hunbound⟩ := h.inStep
  exact ⟨hsource, ⟨hdefined, hlisted, hdatabase, htable⟩, h.settled, ⟨hnodup, hbound, hunbound⟩, h.fresh⟩

/-- A round for a prompt that waits keeps the task sound. -/
theorem Asked.sound (hagree : Source.Agreeing known) (h : Sound known profile t) (ha : Asked t p r t')
    (hr : ∀ e, r = .error e → e.isValidation = true) (hw : p ∈ t.unanswered) : Sound known profile t' := by
  have hmem : p ∈ t.prompts := List.mem_of_mem_filter hw
  cases ha with
  | failed hs => exact sound_of_listed hagree.toKeeps h hs
  | answered hs hp => exact (sound_of_listed hagree.toKeeps h hs).perform hagree hp hr hmem fun _ => hw
  | passed _ hp => exact h.perform hagree hp hr hmem fun _ => hw

/-- Preset answers keep the task sound, are recorded one after the other, and open no dialog. -/
theorem preset_sound (hagree : Source.Agreeing known) {presets : OrderedMap Value} {i i' : Interview σ κ α}
    (h : preset presets i = (.ok (), i')) (hsound : Sound known profile i.task) :
    Sound known profile i'.task ∧ i'.asker = i.asker ∧
      i'.task.answers = presets.foldl (fun m (e : String × Value) => OrderedMap.put m e.1 e.2) i.task.answers := by
  induction presets generalizing i with
  | nil =>
    cases h
    exact ⟨hsound, rfl, rfl⟩
  | cons e presets ih =>
    obtain ⟨id, v⟩ := e
    obtain ⟨d, t, hmem, hanswer, h⟩ := preset_cons h
    have hnext := hsound.perform hagree hanswer (fun e he => by cases he) hmem fun hc => by cases hc
    obtain ⟨hsound', hasker, hanswers⟩ := ih h hnext
    refine ⟨hsound', hasker, ?_⟩
    rw [hanswers, Task.Call.answers_of_ok hanswer, List.foldl_cons]

variable [Asker α] {i₀ i i' : Interview σ κ α} {ps : List TaskPrompt}

/-- The rounds of an interview keep its task sound, and they are for prompts of the profile. -/
theorem Rounds.sound (hagree : Source.Agreeing known) (h₀ : Sound known profile i₀.task) (h : Rounds i₀ ps i) :
    Sound known profile i.task ∧ ∀ p ∈ ps, Defined profile p := by
  induction h with
  | none => exact ⟨h₀, by simp⟩
  | @more ps p waiting i i' _ hw ha ih =>
    obtain ⟨hsound, hps⟩ := ih
    obtain ⟨r, hr, hasked⟩ := askOrReport_asked ha
    -- The prompt of a round waits before it, and what waits is on the list of the task.
    have hwaits : p ∈ i.task.unanswered := hw ▸ List.mem_cons_self
    refine ⟨hasked.sound hagree hsound hr hwaits, fun q hq => ?_⟩
    rcases List.mem_append.mp hq with hq | hq
    · exact hps q hq
    · obtain rfl := List.mem_singleton.mp hq
      exact hsound.prompted.defined q (List.mem_of_mem_filter hwaits)

/-! ### Where answers come from -/

/-- An answer is not blank if the prompt must be answered, or it stands for a round in which the prompt was passed over
because its condition was not met. -/
def Accounted (i₀ : Interview σ κ α) (id : String) (d : PromptDefinition) (v : Value) : Prop :=
  (d.required = true → v.isBlank = false) ∨
    v = .str "" ∧ ∃ ps j j', Rounds i₀ ps j ∧ Rounds i₀ (ps ++ [.generic id d]) j' ∧ j.task.Passed d ∧
      j'.task = (Task.skip (.generic id d) j.task).2

/-- A round records one answer at most, to its own prompt. -/
theorem Asked.answers {t t' : Task σ κ} (h : Asked t p r t') :
    t'.answers = t.answers ∨ ∃ id d v, p = .generic id d ∧ t'.answers = t.answers.put id v ∧
      ((d.required = true → v.isBlank = false) ∨
        v = .str "" ∧ t.Passed d ∧ t' = (Task.skip (.generic id d) t).2) := by
  cases h with
  | failed => exact .inl rfl
  | @answered _ v s _ _ _ hp =>
    have hrec := Task.Call.answers_perform (.answer p v) { t with source := s }
    rw [hp] at hrec
    cases p with
    | generic id d =>
      -- A blank answer is rejected if one is required, and then nothing is recorded.
      by_cases hblank : d.required = true ∧ v.isBlank = true
      · refine .inl (hrec.trans ?_)
        simp [Task.Call.record, hblank]
      · refine .inr ⟨id, d, v, rfl, hrec.trans ?_, .inl fun hr => by simpa [hr] using hblank⟩
        simp [Task.Call.record, hblank]
    | _ => exact .inl hrec
  | @passed id d _ _ hd hp =>
    have hrec := Task.Call.answers_perform (.skip (.generic id d)) t
    rw [hp] at hrec
    exact .inr ⟨id, d, .str "", rfl, hrec, .inr ⟨rfl, hd, (congrArg Prod.snd hp).symm⟩⟩

/-- Answers that are there before some rounds stay, and are not asked for. -/
theorem Rounds.kept (h : Rounds i₀ ps i) {id : String} (hc : i₀.task.answers.contains id = true) :
    i.task.answers.get? id = i₀.task.answers.get? id ∧ ∀ p ∈ ps, p.hasId id = false := by
  induction h with
  | none => exact ⟨rfl, by simp⟩
  | @more ps p waiting i i' h hw ha ih =>
    obtain ⟨hget, hps⟩ := ih
    obtain ⟨r, -, hasked⟩ := askOrReport_asked ha
    have hopen := (List.mem_filter.mp (hw ▸ List.mem_cons_self : p ∈ i.task.unanswered)).2
    have hid : p.hasId id = false := by
      by_contra hne
      cases p with
      | generic id' d =>
        -- The prompt waits, but there is an answer to its id.
        obtain rfl : id' = id := by simpa [TaskPrompt.hasId] using hne
        obtain ⟨v, hv⟩ := OrderedMap.contains_iff_get?.mp hc
        have hanswered := OrderedMap.contains_iff_get?.mpr ⟨v, hget.trans hv⟩
        simp [Task.isAnswered, hanswered] at hopen
      | _ => exact hne rfl
    constructor
    · rcases hasked.answers with he | ⟨id', d, v, rfl, he, -⟩
      · rw [he, hget]
      · have hne : id ≠ id' := by
          rintro rfl
          simp [TaskPrompt.hasId] at hid
        rw [he, OrderedMap.get?_put_of_ne _ _ hne, hget]
    · intro q hq
      rcases List.mem_append.mp hq with hq | hq
      · exact hps q hq
      · obtain rfl := List.mem_singleton.mp hq
        exact hid

/-- An answer that is not there before some rounds has come in one of them. -/
theorem Rounds.accounted (h : Rounds i₀ ps i) {id : String} {v : Value}
    (hc : i₀.task.answers.contains id = false) (hv : i.task.answers.get? id = some v) :
    ∃ d, .generic id d ∈ ps ∧ Accounted i₀ id d v := by
  induction h with
  | none => exact absurd (OrderedMap.contains_iff_get?.mpr ⟨v, hv⟩) (by simp [hc])
  | @more ps p waiting i i' h hw ha ih =>
    have hold : i.task.answers.get? id = some v → ∃ d, .generic id d ∈ ps ++ [p] ∧ Accounted i₀ id d v :=
      fun hv => by
        obtain ⟨d, hd, hacc⟩ := ih hv
        exact ⟨d, List.mem_append_left _ hd, hacc⟩
    obtain ⟨r, -, hasked⟩ := askOrReport_asked ha
    rcases hasked.answers with he | ⟨id', d, v', rfl, he, hreason⟩
    · exact hold (he ▸ hv)
    · rw [he] at hv
      -- The round has recorded this answer, or another one, which leaves this one as it was.
      by_cases hne : id = id'
      · subst hne
        obtain rfl : v' = v := by simpa using hv
        refine ⟨d, by simp, ?_⟩
        rcases hreason with hblank | ⟨hempty, hpassed, htask⟩
        · exact .inl hblank
        · exact .inr ⟨hempty, ps, i, i', h, h.more hw ha, hpassed, htask⟩
      · exact hold (by rwa [OrderedMap.get?_put_of_ne _ _ hne] at hv)

/-! ### Finished interviews -/

/-- An interview comes to its end: after the preset answers there are so many rounds that no prompt waits. -/
def Finishes (presets : OrderedMap Value) (i₀ i : Interview σ κ α) : Prop :=
  ∃ i₁ limit, preset presets i₀ = (.ok (), i₁) ∧ askUpTo limit i₁ = (.ok true, i)

/-- An interview that succeeds comes to its end. -/
theorem finishes_of_askAll {presets : OrderedMap Value} (h : askAll presets i₀ = (.ok (), i)) :
    Finishes presets i₀ i := by
  unfold askAll at h
  obtain ⟨_, i₁, hpreset, h⟩ := Action.bind_eq_ok.mp h
  rw [Action.bind_apply, Action.get_apply] at h
  obtain ⟨finished, i₂, hrounds, h⟩ := Action.bind_eq_ok.mp h
  cases finished with
  | true =>
    cases h
    exact ⟨i₁, _, hpreset, hrounds⟩
  | false => cases h

/-- **A finished interview leaves a task that is ready.** Its context is bound to the table and a schema of the
connection and has all answers; there is an answer to every prompt of the profile. Preset answers are as given, and no
round was for them; any other answer is accounted for by the rounds. -/
theorem task_of_finishes (hagree : Source.Agreeing known) {s : Task.Setup} {w : Workspace} {source : σ}
    {rest : Workspace × σ} (hs : known source) (hp : s.profile.checkReferences = .ok ())
    (ht : Task.start s (w, source) = (.ok t, rest)) {presets : OrderedMap Value} (hn : presets.keys.Nodup)
    {asker : α} (h : Finishes presets ⟨t, asker⟩ i) :
    i.task.isReady = true ∧
    (∃ b, i.task.context.binding? = some b ∧ i.task.table = some b.tableName ∧
      Shows known i.task.connection b.database) ∧
    (∀ id ∈ s.profile.config.prompts, i.task.answers.contains id = true) ∧
    i.task.context.prompts = i.task.answers ∧
    ∃ i₁ ps, preset presets ⟨t, asker⟩ = (.ok (), i₁) ∧ i₁.asker = asker ∧ Rounds i₁ ps i ∧
      (∀ id v, presets.get? id = some v →
        i.task.answers.get? id = some v ∧ ∀ p ∈ ps, p.hasId id = false) ∧
      ∀ id d v, presets.contains id = false → i.task.answers.get? id = some v →
        s.profile.prompt.get? id = some d → Accounted i₁ id d v := by
  obtain ⟨i₁, limit, hpreset, hrounds⟩ := h
  have hstarted := start_started ht
  obtain ⟨hsound₁, hasker, hanswers⟩ := preset_sound hagree hpreset (hstarted.sound hagree.toKeeps hs)
  -- A new task has no answers, so after the first phase its answers are the preset ones, in their order.
  have hpresets : i₁.task.answers = presets := by
    rw [hanswers, hstarted.answers]
    exact OrderedMap.foldl_put_of_prefix hn List.nil_prefix
  obtain ⟨ps, hps, hw⟩ := askUpTo_rounds .none hrounds
  obtain ⟨hsound, hdefined⟩ := hps.sound hagree hsound₁
  have hready := hsound.isReady hw
  have hbound : i.task.context.isBound = true := by
    rw [Task.isReady, Bool.and_eq_true] at hready
    exact hready.1
  obtain ⟨b, hb⟩ := Task.isBound_iff.mp hbound
  obtain ⟨-, htable, hshows⟩ := hsound.fresh b hb
  refine ⟨hready, ⟨b, hb, htable, hshows⟩, fun id hid => ?_, hsound.inStep.bound hbound, i₁, ps, hpreset, hasker,
    hps, fun id v hv => ?_, fun id d v hc hv hd => ?_⟩
  · obtain ⟨d, hd⟩ := Profile.get?_of_checkReferences hp hid
    have hanswered := List.filter_eq_nil_iff.mp hw _ (hsound.prompted.listed id d hid hd)
    simpa [Task.isAnswered] using hanswered
  · have hc := OrderedMap.contains_iff_get?.mpr ⟨v, hv⟩
    obtain ⟨hget, hnone⟩ := hps.kept (hpresets ▸ hc)
    exact ⟨hget.trans (hpresets ▸ hv), hnone⟩
  · obtain ⟨d', hmem, hacc⟩ := hps.accounted (hpresets ▸ hc) hv
    obtain rfl := Option.some.inj (hd.symm.trans (hdefined _ hmem).2)
    exact hacc

namespace Shop

/-- A caller of the shop whose first table is rejected. -/
def asker : Replay :=
  { responses := [.str "shop", .str "invoices", .str "orders"] }

/-- Whether a task in the shop can be started and its interview with this caller succeeds. -/
def succeeds : Bool :=
  match Task.start (Task.Shop.setup none) (({} : Workspace), Task.Shop.memory "") with
  | (.ok t, _) => (askAll [("title", .str "Orders")] (⟨t, asker⟩ : Interview Memory String Replay)).1.isOk
  | (.error _, _) => false

end Shop

theorem task_of_finishes_in_shop :
    ∃ (t : Task Memory String) (rest : Workspace × Memory) (i : Interview Memory String Replay),
      Task.start (Task.Shop.setup none) ({}, Task.Shop.memory "") = (.ok t, rest) ∧
      askAll [("title", .str "Orders")] ⟨t, Shop.asker⟩ = (.ok (), i) ∧
      i.task.isReady = true ∧ i.task.answers.get? "title" = some (.str "Orders") := by
  have hrun : Shop.succeeds = true := by decide +kernel
  unfold Shop.succeeds at hrun
  rcases ht : Task.start (Task.Shop.setup none) (({} : Workspace), Task.Shop.memory "") with ⟨e | t, rest⟩
  · simp [ht] at hrun
  · rw [ht] at hrun
    rcases hi : askAll [("title", .str "Orders")] (⟨t, Shop.asker⟩ : Interview Memory String Replay) with
      ⟨e | _, i⟩
    · simp [hi, Except.isOk, Except.toBool] at hrun
    · obtain ⟨hready, -, -, -, i₁, ps, -, -, -, hpresets, -⟩ :=
        task_of_finishes (Memory.agreeing [("shop", Task.Shop.schema)]) rfl rfl ht (by decide)
          (finishes_of_askAll hi)
      exact ⟨t, rest, i, rfl, hi, hready, (hpresets "title" (.str "Orders") rfl).1⟩

end Stencil.Dialog.Interview
