import Stencil.Dialog.Interview
import Stencil.Proofs.Source.Steady
import Stencil.Proofs.Task.Call

namespace Stencil

/-!
# Rounds of an interview

A round asks one prompt. For the task, it is a call on the prompt or nothing at all; the dialogs in between touch
the asker alone. An interview is a preset phase without dialogs, followed by rounds for the first prompt that waits.

* `Task.Passed` — what a prompt is passed over for;
* `Interview.askItems_cons`, `Interview.askGeneric_of_no_items`, `Interview.askGeneric_of_enumerate` — a round for a
  prompt of the profile, step by step;
* `Interview.Asked` — what a round can do to a task;
* `Interview.Rounds` — the rounds of an interview, with the prompts that they asked;
* `Interview.askUpTo_rounds`, `Interview.preset_cons` — both phases of an interview.
-/

variable {σ κ α : Type}

namespace Task

/-- The condition of a prompt is not met; for a prompt with items, it is met for none of them. -/
def Passed (t : Task σ κ) (d : PromptDefinition) : Prop :=
  (d.enumerate = none ∧ t.conditionMet d none = .ok false) ∨
    (d.enumerate ≠ none ∧ ∃ items, t.enumerate d = .ok items ∧
      ∀ item ∈ items, t.conditionMet d (some item) = .ok false)

/-- A rendered prompt is to be asked exactly if its condition is met, and it has the options that its definition
renders to. -/
theorem renderPrompt_ok {t : Task σ κ} {d : PromptDefinition} {item : Option String} {rendered : RenderedPrompt}
    (h : t.renderPrompt d item = .ok rendered) :
    t.conditionMet d item = .ok rendered.ask ∧ t.renderOptions d item = .ok rendered.options := by
  unfold renderPrompt at h
  obtain ⟨ask, hask, h⟩ := Action.except_bind_eq_ok.mp h
  obtain ⟨options, hoptions, h⟩ := Action.except_bind_eq_ok.mp h
  obtain ⟨default, -, h⟩ := Action.except_bind_eq_ok.mp h
  obtain ⟨prompt, -, h⟩ := Action.except_bind_eq_ok.mp h
  cases h
  exact ⟨hask, hoptions⟩

theorem findPrompt_ok {t : Task σ κ} {id : String} {p : TaskPrompt} (h : t.findPrompt id = .ok p) :
    p ∈ t.prompts ∧ ∃ d, p = .generic id d := by
  unfold findPrompt at h
  cases hf : t.prompts.find? (·.hasId id) with
  | none =>
    rw [hf] at h
    cases h
  | some q =>
    rw [hf] at h
    cases h
    have hid := List.find?_some hf
    cases p with
    | generic id' d =>
      obtain rfl : id' = id := by simpa [TaskPrompt.hasId] using hid
      exact ⟨List.mem_of_find?_eq_some hf, d, rfl⟩
    | _ => cases hid

end Task

namespace Dialog.Interview

/-! ### Preset answers -/

section Preset

variable [Source σ κ]

/-- Preset answers are given to the task one by one; the asker has no part in it. -/
theorem preset_cons {id : String} {v : Value} {answers : OrderedMap Value} {i i' : Interview σ κ α}
    (h : preset ((id, v) :: answers) i = (.ok (), i')) :
    ∃ d t, .generic id d ∈ i.task.prompts ∧ (Task.Call.answer (.generic id d) v).perform i.task = (.ok (), t) ∧
      preset answers { i with task := t } = (.ok (), i') := by
  let act : Action (Task σ κ) Unit := do Task.answer (← Action.ofExcept ((← get).findPrompt id)) v
  have h : (onTask act >>= fun _ => preset answers) i = (.ok (), i') := h
  obtain ⟨_, i₁, hact, h⟩ := Action.bind_eq_ok.mp h
  obtain ⟨hok, rfl⟩ := Prod.mk.inj hact
  have hact : act i.task = (.ok (), (act i.task).2) := Prod.ext hok rfl
  obtain ⟨t, _, hget, hact⟩ := Action.bind_eq_ok.mp hact
  cases hget
  obtain ⟨p, _, hfind, hanswer⟩ := Action.bind_eq_ok.mp hact
  obtain ⟨hp, rfl⟩ := Prod.mk.inj hfind
  obtain ⟨hmem, d, rfl⟩ := Task.findPrompt_ok hp
  exact ⟨d, _, hmem, hanswer, h⟩

end Preset

/-! ### Dialogs -/

section Parts

variable {β : Type} {i i' : Interview σ κ α} {r : Except Fault β}

theorem onAsker_task {act : Action α β} (h : onAsker act i = (r, i')) : i'.task = i.task := by
  obtain ⟨-, rfl⟩ := Prod.mk.inj h
  rfl

theorem onAsker_eq {act : Action α β} {a : α} (h : act i.asker = (r, a)) :
    onAsker act i = (r, { i with asker := a }) := by
  rw [onAsker, h]

theorem onTask_inv {act : Action (Task σ κ) β} (h : onTask act i = (r, i')) :
    act i.task = (r, i'.task) ∧ i'.asker = i.asker := by
  rcases hact : act i.task with ⟨r₁, t⟩
  rw [onTask, hact] at h
  cases h
  exact ⟨rfl, rfl⟩

end Parts

variable [Asker α]

/-- The first item is asked for if the prompt that is rendered for it is to be asked; then come the others. -/
theorem askItems_cons (d : PromptDefinition) (item : String) (items : List String) (answers : OrderedMap Value)
    (i : Interview σ κ α) :
    askItems d (item :: items) answers i = match i.task.renderPrompt d (some item) with
      | .error e => (.error e, i)
      | .ok rendered =>
        if rendered.ask then (onAsker (askRendered rendered) >>= fun v => askItems d items (answers.put item v)) i
        else askItems d items answers i := by
  simp only [askItems, Action.get_bind_apply]
  cases i.task.renderPrompt d (some item) with
  | error e => rfl
  | ok rendered => cases ha : rendered.ask <;> simp [Action.bind_apply, ha]

/-- Asking for items leaves the task alone. If no item gets an answer, its condition was met for none. -/
theorem askItems_task {d : PromptDefinition} {items : List String} {answers : OrderedMap Value}
    {i i' : Interview σ κ α} {r : Except Fault (OrderedMap Value)} (h : askItems d items answers i = (r, i')) :
    i'.task = i.task ∧ (r = .ok [] →
      answers = [] ∧ ∀ item ∈ items, i.task.conditionMet d (some item) = .ok false) := by
  -- The answers so far are arbitrary: there is no way back to none.
  induction items generalizing answers i with
  | nil =>
    cases h
    exact ⟨rfl, fun he => ⟨Except.ok.inj he, by simp⟩⟩
  | cons item items ih =>
    rw [askItems_cons] at h
    cases hrendered : i.task.renderPrompt d (some item) with
    | error e =>
      rw [hrendered] at h
      cases h
      exact ⟨rfl, nofun⟩
    | ok rendered =>
      simp only [hrendered] at h
      cases ha : rendered.ask with
      | true =>
        rw [ha, if_pos rfl] at h
        rcases Action.bind_eq.mp h with ⟨e, he, rfl⟩ | ⟨v, i₁, hv, h⟩
        · exact ⟨onAsker_task he, nofun⟩
        · obtain ⟨htask, hempty⟩ := ih h
          refine ⟨htask.trans (onAsker_task hv), fun hok => ?_⟩
          -- An answer that was put in cannot be missing at the end.
          have hput := (hempty hok).1
          cases answers <;> simp [OrderedMap.put] at hput
          split at hput <;> cases hput
      | false =>
        rw [ha, if_neg (by decide)] at h
        obtain ⟨htask, hempty⟩ := ih h
        refine ⟨htask, fun hok => ?_⟩
        obtain ⟨hnil, hitems⟩ := hempty hok
        exact ⟨hnil, List.forall_mem_cons.mpr ⟨ha ▸ (Task.renderPrompt_ok hrendered).1, hitems⟩⟩

section Generic

variable [Source σ κ] {id : String} {d : PromptDefinition}

/-- A prompt without items is asked or passed over, once it is rendered. -/
theorem askGeneric_of_no_items (hd : d.enumerate = none) (i : Interview σ κ α) : askGeneric id d i =
    match i.task.renderPrompt d with
    | .error e => (.error e, i)
    | .ok rendered =>
      if rendered.ask then (onAsker (askRendered rendered) >>= fun v => onTask (Task.answer (.generic id d) v)) i
      else onTask (Task.skip (.generic id d)) i := by
  rw [askGeneric, if_pos (by simp [hd]), Action.get_bind_apply, Action.bind_apply, Action.ofExcept_apply]
  cases i.task.renderPrompt d with
  | error e => rfl
  | ok rendered => cases ha : rendered.ask <;> simp [ha]

/-- A prompt with items is asked for them, and passed over if there are no answers. -/
theorem askGeneric_of_enumerate (hd : d.enumerate ≠ none) (i : Interview σ κ α) :
    askGeneric id d i = (Action.ofExcept (i.task.enumerate d) >>= fun items => askItems d items [] >>= fun answers =>
      if answers.isEmpty then onTask (Task.skip (.generic id d))
      else onTask (Task.answer (.generic id d) (Value.ofFields answers))) i := by
  rw [askGeneric, if_neg (by simpa using hd), Action.get_bind_apply]

end Generic

/-! ### What a round does to the task -/

variable [Source σ κ]

/-- States of the source after databases or tables may have been listed. -/
def Listed (t : Task σ κ) (s : σ) : Prop :=
  s = t.source ∨ s = (Source.listDatabases t.connection t.source).2 ∨
    s = (Source.listTables t.connection t.source).2

/-- What a round for a prompt can do to a task. -/
inductive Asked (t : Task σ κ) : TaskPrompt → Except Fault Unit → Task σ κ → Prop where
  /-- the round fails before there is an answer -/
  | failed {p e s} (hs : Listed t s) : Asked t p (.error e) { t with source := s }
  /-- the task is given an answer -/
  | answered {p v s r t'} (hs : Listed t s)
      (h : (Task.Call.answer p v).perform { t with source := s } = (r, t')) : Asked t p r t'
  /-- the prompt is passed over -/
  | passed {id d r t'} (hd : t.Passed d)
      (h : (Task.Call.skip (.generic id d)).perform t = (r, t')) : Asked t (.generic id d) r t'

/-- A round for a name fails before there is an answer, or the task is given the answer that was selected. -/
theorem askName_cases {p : TaskPrompt} {title : String} {names : κ → Action σ (List String)}
    {i i' : Interview σ κ α} {r : Except Fault Unit} (h : askName p title names i = (r, i')) :
    (∃ e, r = .error e ∧ i'.task = { i.task with source := (names i.task.connection i.task.source).2 }) ∨
      ∃ choices s v a, names i.task.connection i.task.source = (.ok choices, s) ∧
        Asker.select title choices i.asker = (.ok v, a) ∧
        (Task.Call.answer p v).perform { i.task with source := s } = (r, i'.task) := by
  unfold askName at h
  rcases Action.bind_eq.mp h with ⟨e, he, rfl⟩ | ⟨choices, i₁, hchoices, h⟩
  · obtain ⟨-, rfl⟩ := Prod.mk.inj he
    exact .inl ⟨e, rfl, rfl⟩
  · obtain ⟨hok, rfl⟩ := Prod.mk.inj hchoices
    rcases Action.bind_eq.mp h with ⟨e, he, rfl⟩ | ⟨v, i₂, hv, h⟩
    · exact .inl ⟨e, rfl, onAsker_task he⟩
    · obtain ⟨hselect, rfl⟩ := Prod.mk.inj hv
      obtain ⟨rfl, rfl⟩ := Prod.mk.inj h
      exact .inr ⟨choices, _, v, _, Prod.ext hok rfl, Prod.ext hselect rfl, rfl⟩

theorem askName_asked {p : TaskPrompt} {title : String} {names : κ → Action σ (List String)}
    {i i' : Interview σ κ α} {r : Except Fault Unit}
    (hs : Listed i.task (names i.task.connection i.task.source).2) (h : askName p title names i = (r, i')) :
    Asked i.task p r i'.task := by
  rcases askName_cases h with ⟨e, rfl, htask⟩ | ⟨choices, s, v, a, hnames, -, hanswer⟩
  · rw [htask]
    exact .failed hs
  · exact .answered (by rwa [hnames] at hs) hanswer

section Generic

variable {t : Task σ κ} {id : String} {d : PromptDefinition} {i i' : Interview σ κ α} {r : Except Fault Unit}

omit [Asker α] in
/-- A round that has not touched the task fails before there is an answer. -/
theorem Asked.of_failed {p : TaskPrompt} {e : Fault} (ht : i.task = t) : Asked t p (.error e) i.task :=
  ht ▸ .failed (.inl rfl)

omit [Asker α] in
/-- A round that has not touched the task gives it an answer. -/
theorem Asked.of_answer {p : TaskPrompt} {v : Value} (ht : i.task = t) (h : onTask (Task.answer p v) i = (r, i')) :
    Asked t p r i'.task := by
  subst ht
  exact .answered (v := v) (.inl rfl) (onTask_inv h).1

omit [Asker α] in
/-- A round that has not touched the task passes the prompt over. -/
theorem Asked.of_skip (hd : t.Passed d) (ht : i.task = t) (h : onTask (Task.skip (.generic id d)) i = (r, i')) :
    Asked t (.generic id d) r i'.task := by
  subst ht
  exact .passed hd (onTask_inv h).1

theorem askGeneric_asked (h : askGeneric id d i = (r, i')) : Asked i.task (.generic id d) r i'.task := by
  cases hd : d.enumerate with
  | none =>
    rw [askGeneric_of_no_items hd] at h
    cases hrendered : i.task.renderPrompt d with
    | error e =>
      rw [hrendered] at h
      cases h
      exact .of_failed rfl
    | ok rendered =>
      simp only [hrendered] at h
      cases ha : rendered.ask with
      | true =>
        rw [ha, if_pos rfl] at h
        rcases Action.bind_eq.mp h with ⟨e, he, rfl⟩ | ⟨v, i₁, hv, h⟩
        · exact .of_failed (onAsker_task he)
        · exact .of_answer (onAsker_task hv) h
      | false =>
        rw [ha, if_neg (by decide)] at h
        exact .of_skip (.inl ⟨hd, ha ▸ (Task.renderPrompt_ok hrendered).1⟩) rfl h
  | some source =>
    have hitems : d.enumerate ≠ none := by simp [hd]
    rw [askGeneric_of_enumerate hitems] at h
    rcases Action.bind_eq.mp h with ⟨e, he, rfl⟩ | ⟨items, i₁, hi, h⟩
    · obtain ⟨-, rfl⟩ := Action.ofExcept_eq.mp he
      exact .of_failed rfl
    obtain ⟨hlisted, rfl⟩ := Action.ofExcept_eq.mp hi
    rcases Action.bind_eq.mp h with ⟨e, he, rfl⟩ | ⟨answers, i₁, ha, h⟩
    · exact .of_failed (askItems_task he).1
    · obtain ⟨htask, hempty⟩ := askItems_task ha
      cases answers with
      | nil => exact .of_skip (.inr ⟨hitems, items, hlisted, (hempty rfl).2⟩) htask h
      | cons e answers => exact .of_answer htask h

end Generic

/-- A round does to the task what `Asked` lists. -/
theorem ask_asked {p : TaskPrompt} {i i' : Interview σ κ α} {r : Except Fault Unit} (h : ask p i = (r, i')) :
    Asked i.task p r i'.task := by
  cases p with
  | database => exact askName_asked (.inr (.inl rfl)) h
  | table => exact askName_asked (.inr (.inr rfl)) h
  | generic id d => exact askGeneric_asked h

theorem askOrReport_of_ok {p : TaskPrompt} {i i' : Interview σ κ α} (h : ask p i = (.ok (), i')) :
    askOrReport p i = (.ok (), i') := by
  rw [askOrReport, Action.tryCatch_apply, h]

/-- What is rejected is reported to the asker, and the interview goes on. -/
theorem askOrReport_of_validation {p : TaskPrompt} {i i' : Interview σ κ α} {message : String}
    {invalid : Option (List (String × String))} (h : ask p i = (.error (.validation message invalid), i')) :
    askOrReport p i = (.ok (), { i' with asker := Asker.notify message i'.asker }) := by
  rw [askOrReport, Action.tryCatch_apply, h]
  rfl

/-- A failure of the program is not reported to the asker: it ends the interview. -/
theorem askOrReport_of_runtime {p : TaskPrompt} {i i' : Interview σ κ α} {message : String}
    (h : ask p i = (.error (.runtime message), i')) : askOrReport p i = (.error (.runtime message), i') := by
  rw [askOrReport, Action.tryCatch_apply, h]
  rfl

/-- A round after which the interview goes on was accepted, or rejected as bad input. -/
theorem askOrReport_asked {p : TaskPrompt} {i i' : Interview σ κ α} (h : askOrReport p i = (.ok (), i')) :
    ∃ r, (∀ e, r = .error e → e.isValidation = true) ∧ Asked i.task p r i'.task := by
  unfold askOrReport at h
  rw [Action.tryCatch_apply] at h
  rcases hask : ask p i with ⟨e | _, i₁⟩
  · rw [hask] at h
    -- Bad input is reported to the asker; any other failure ends the interview.
    cases e with
    | validation message invalid =>
      cases h
      have hasked := ask_asked hask
      refine ⟨.error (.validation message invalid), fun e he => ?_, hasked⟩
      cases he
      rfl
    | _ => cases h
  · rw [hask] at h
    cases h
    exact ⟨.ok (), fun e he => (by cases he), ask_asked hask⟩

/-! ### Rounds -/

/-- The rounds of an interview, each for the first prompt that waits, with the prompts that they asked. -/
inductive Rounds (i₀ : Interview σ κ α) : List TaskPrompt → Interview σ κ α → Prop where
  | none : Rounds i₀ [] i₀
  | more {ps p waiting i i'} (h : Rounds i₀ ps i) (hw : i.task.unanswered = p :: waiting)
      (ha : askOrReport p i = (.ok (), i')) : Rounds i₀ (ps ++ [p]) i'

/-- An interview that comes to its end has gone through rounds, and no prompt waits. -/
theorem askUpTo_rounds {limit : Nat} {i₀ i i' : Interview σ κ α} {ps : List TaskPrompt} (h : Rounds i₀ ps i)
    (hi : askUpTo limit i = (.ok true, i')) : ∃ ps, Rounds i₀ ps i' ∧ i'.task.unanswered = [] := by
  -- The rounds so far are arbitrary: each step of the loop adds one to them.
  induction limit generalizing i ps with
  | zero =>
    obtain ⟨hw, rfl⟩ := Prod.mk.inj hi
    exact ⟨ps, h, List.isEmpty_iff.mp (Except.ok.inj hw)⟩
  | succ limit ih =>
    simp only [askUpTo] at hi
    rw [Action.bind_apply, Action.get_apply] at hi
    cases hw : i.task.unanswered with
    | nil =>
      simp only [hw] at hi
      cases hi
      exact ⟨ps, h, hw⟩
    | cons p waiting =>
      simp only [hw] at hi
      obtain ⟨_, i₁, ha, hi⟩ := Action.bind_eq_ok.mp hi
      exact ih (h.more hw ha) hi

end Dialog.Interview

end Stencil
