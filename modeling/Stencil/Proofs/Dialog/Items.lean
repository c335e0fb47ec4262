import Stencil.Dialog.Replay
import Stencil.Proofs.Dialog.Transcript
import Stencil.Proofs.OrderedMap
import Stencil.Proofs.Task.Required

namespace Stencil

/-!
# Prompts with items

A prompt with items is asked once for each item that its condition admits, and the answers are put together to one
mapping. This is all or nothing: the task gets the whole mapping, or it is left as it was.

* `Task.asksFor` — whether a prompt is asked for an item;
* `Dialog.ItemDialog` — a dialog for an item, with the answer that it gives;
* `Dialog.Completed`, `Dialog.BrokenOff` — the dialogs if all goes well, and those up to the first failure;
* `Dialog.offered` — the mapping that the dialogs give;
* `Dialog.Interview.askItems_dialogs` — asking for items opens these dialogs;
* `Dialog.Interview.items_all_or_nothing` — what a round does to the task.
-/

variable {σ κ α : Type}

namespace Task

/-- Whether a prompt is asked for an item: it has no condition, or its condition renders to "1" for the item, with
blanks around it or without. -/
def asksFor (t : Task σ κ) (d : PromptDefinition) (item : String) : Bool :=
  match d.condition with
  | none => true
  | some source =>
    match t.render source (some item) with
    | .ok text => Text.trimmed text == "1"
    | .error _ => false

variable {t : Task σ κ} {d : PromptDefinition} {item : String} {rendered : RenderedPrompt}

theorem asksFor_of_renderPrompt (h : t.renderPrompt d (some item) = .ok rendered) :
    t.asksFor d item = rendered.ask := by
  have hcondition := (renderPrompt_ok h).1
  unfold conditionMet at hcondition
  unfold asksFor
  cases hc : d.condition with
  | none =>
    rw [hc] at hcondition
    exact Except.ok.inj hcondition
  | some source =>
    rw [hc] at hcondition
    cases hr : t.render source (some item) with
    | error e =>
      simp only [hr, Except.map] at hcondition
      cases hcondition
    | ok text =>
      simp only [hr, Except.map] at hcondition
      simp only [hr]
      exact Except.ok.inj hcondition

/-- A prompt is never rendered to options that are there without being any. -/
theorem options_ne_of_renderPrompt {item : Option String} (h : t.renderPrompt d item = .ok rendered) :
    rendered.options ≠ .flag true := by
  have hoptions := (renderPrompt_ok h).2
  rintro hflag
  rw [hflag] at hoptions
  unfold renderOptions at hoptions
  split at hoptions
  · next source _ =>
    cases hr : t.render source item with
    | error | ok => simp [hr, Except.map] at hoptions
  all_goals cases hoptions

end Task

namespace Dialog

/-- A dialog for an item of a prompt: the prompt as it is rendered for the item, and what came of the question. -/
structure ItemDialog where
  item : String
  rendered : RenderedPrompt
  reply : Except Fault Value

namespace ItemDialog

/-- What a transcript tells of a dialog. -/
def entry (u : ItemDialog) : Question × Except Fault Value :=
  (u.rendered.question, u.reply)

/-- The answer that a dialog gives, if none of it fails. -/
def answer (u : ItemDialog) : Except Fault Value :=
  u.reply >>= u.rendered.reading

/-- The item with its answer. -/
def field? (u : ItemDialog) : Option (String × Value) :=
  u.answer.toOption.map fun v => (u.item, v)

theorem field?_of_answer {u : ItemDialog} {v : Value} (h : u.answer = .ok v) : u.field? = some (u.item, v) := by
  rw [field?, h]
  rfl

end ItemDialog

/-- Every item has been gone through: there has been one dialog for each occurrence of an item that the prompt is asked
for, in order, and each has given an answer. -/
structure Completed (t : Task σ κ) (d : PromptDefinition) (items : List String) (dialogs : List ItemDialog) : Prop where
  asked : dialogs.map (·.item) = items.filter (t.asksFor d)
  renders : ∀ item ∈ items, ∃ rendered, t.renderPrompt d (some item) = .ok rendered
  rendered : ∀ u ∈ dialogs, t.renderPrompt d (some u.item) = .ok u.rendered
  answered : ∀ u ∈ dialogs, ∃ v, u.answer = .ok v

/-- Something fails at an item, after all items before it have been gone through: a template of the prompt does not
render, so that there is no dialog for the item; or the dialog for the item fails, and it is the last one. -/
inductive BrokenOff (t : Task σ κ) (d : PromptDefinition) : List String → List ItemDialog → Fault → Prop where
  | template {before after : List String} {item : String} {dialogs : List ItemDialog} {e : Fault}
    (hbefore : Completed t d before dialogs) (h : t.renderPrompt d (some item) = .error e) :
    BrokenOff t d (before ++ item :: after) dialogs e
  | dialog {before after : List String} {dialogs : List ItemDialog} {u : ItemDialog} {e : Fault}
    (hbefore : Completed t d before dialogs) (hasked : t.asksFor d u.item = true)
    (hrendered : t.renderPrompt d (some u.item) = .ok u.rendered) (h : u.answer = .error e) :
    BrokenOff t d (before ++ u.item :: after) (dialogs ++ [u]) e

/-- The mapping that dialogs give: an item that was asked for again has its last answer. -/
def offered (dialogs : List ItemDialog) : OrderedMap Value :=
  .ofEntries (dialogs.filterMap ItemDialog.field?)

section Steps

variable {t : Task σ κ} {d : PromptDefinition} {item : String} {items : List String} {dialogs : List ItemDialog}
  {u : ItemDialog} {rendered : RenderedPrompt} {e : Fault}

/-! ### From one item to the next -/

theorem Completed.nil (t : Task σ κ) (d : PromptDefinition) : Completed t d [] [] :=
  ⟨rfl, by simp, by simp, by simp⟩

/-- An item that the prompt is not asked for comes first. -/
theorem Completed.passed (h : Completed t d items dialogs) (hr : t.renderPrompt d (some item) = .ok rendered)
    (ha : rendered.ask = false) : Completed t d (item :: items) dialogs where
  asked := by
    have hpassed : t.asksFor d item = false := (Task.asksFor_of_renderPrompt hr).trans ha
    rw [List.filter_cons_of_neg (by simp [hpassed]), h.asked]
  renders := List.forall_mem_cons.mpr ⟨⟨rendered, hr⟩, h.renders⟩
  rendered := h.rendered
  answered := h.answered

/-- A dialog that gives an answer comes first. -/
theorem Completed.dialog {v : Value} (h : Completed t d items dialogs)
    (hr : t.renderPrompt d (some u.item) = .ok u.rendered) (ha : u.rendered.ask = true) (hv : u.answer = .ok v) :
    Completed t d (u.item :: items) (u :: dialogs) where
  asked := by
    have hasked : t.asksFor d u.item = true := (Task.asksFor_of_renderPrompt hr).trans ha
    rw [List.filter_cons_of_pos hasked, List.map_cons, h.asked]
  renders := List.forall_mem_cons.mpr ⟨⟨u.rendered, hr⟩, h.renders⟩
  rendered := List.forall_mem_cons.mpr ⟨hr, h.rendered⟩
  answered := List.forall_mem_cons.mpr ⟨⟨v, hv⟩, h.answered⟩

/-- The first item is where a template fails. -/
theorem BrokenOff.of_template (items : List String) (hr : t.renderPrompt d (some item) = .error e) :
    BrokenOff t d (item :: items) [] e := by
  have hbroken : BrokenOff t d ([] ++ item :: items) [] e := .template (.nil t d) hr
  exact hbroken

/-- The first item is where a dialog fails. -/
theorem BrokenOff.of_dialog (items : List String) (hr : t.renderPrompt d (some u.item) = .ok u.rendered)
    (ha : u.rendered.ask = true) (hv : u.answer = .error e) : BrokenOff t d (u.item :: items) [u] e := by
  have hasked : t.asksFor d u.item = true := (Task.asksFor_of_renderPrompt hr).trans ha
  have hbroken : BrokenOff t d ([] ++ u.item :: items) ([] ++ [u]) e := .dialog (.nil t d) hasked hr hv
  exact hbroken

theorem BrokenOff.passed (h : BrokenOff t d items dialogs e) (hr : t.renderPrompt d (some item) = .ok rendered)
    (ha : rendered.ask = false) : BrokenOff t d (item :: items) dialogs e := by
  cases h with
  | template hbefore h => exact .template (hbefore.passed hr ha) h
  | dialog hbefore hasked hrendered h => exact .dialog (hbefore.passed hr ha) hasked hrendered h

theorem BrokenOff.asked {v : Value} (h : BrokenOff t d items dialogs e)
    (hr : t.renderPrompt d (some u.item) = .ok u.rendered) (ha : u.rendered.ask = true) (hv : u.answer = .ok v) :
    BrokenOff t d (u.item :: items) (u :: dialogs) e := by
  cases h with
  | template hbefore h => exact .template (hbefore.dialog hr ha hv) h
  | dialog hbefore hasked hrendered h => exact .dialog (hbefore.dialog hr ha hv) hasked hrendered h

/-! ### The mapping -/

/-- The keys of the mapping are the items that were asked for, each once. -/
theorem Completed.keys_offered (h : Completed t d items dialogs) :
    (offered dialogs).keys = (items.filter (t.asksFor d)).eraseDups := by
  have hkeys : (dialogs.filterMap ItemDialog.field?).map (·.1) = dialogs.map (·.item) := by
    have hanswered := h.answered
    clear h
    induction dialogs with
    | nil => rfl
    | cons u dialogs ih =>
      obtain ⟨⟨v, hv⟩, hrest⟩ := List.forall_mem_cons.mp hanswered
      rw [List.filterMap_cons_some (ItemDialog.field?_of_answer hv), List.map_cons, ih hrest, List.map_cons]
  rw [offered, OrderedMap.keys_ofEntries, hkeys, h.asked]

/-- An item has the answer of its last dialog. -/
theorem get?_offered {before after : List ItemDialog} {v : Value} (hv : u.answer = .ok v)
    (hlast : ∀ w ∈ after, w.item ≠ u.item) : (offered (before ++ u :: after)).get? u.item = some v := by
  rw [offered, List.filterMap_append, List.filterMap_cons_some (ItemDialog.field?_of_answer hv)]
  refine OrderedMap.get?_ofEntries_of_last fun e he => ?_
  obtain ⟨w, hw, hfield⟩ := List.mem_filterMap.mp he
  obtain ⟨_, -, rfl⟩ := Option.map_eq_some_iff.mp hfield
  exact hlast w hw

theorem Completed.offered_eq_nil (h : Completed t d items dialogs) : offered dialogs = [] ↔ dialogs = [] := by
  constructor
  · intro hnil
    cases dialogs with
    | nil => rfl
    | cons u dialogs =>
      have hkeys := h.keys_offered
      rw [hnil, ← h.asked] at hkeys
      have hmem : u.item ∈ ((u :: dialogs).map (·.item)).eraseDups := List.mem_eraseDups.mpr List.mem_cons_self
      rw [← hkeys] at hmem
      cases hmem
  · rintro rfl
    rfl

end Steps

namespace Interview

variable [Asker α]

/-! ### Asking for all items -/

/-- Asking for items leaves the task alone. It opens a dialog for each item that the prompt is asked for, up to the
first failure; if there is none, the answers are put into the mapping one after the other. -/
theorem askItems_dialogs {d : PromptDefinition} {items : List String} {answers : OrderedMap Value}
    {i i' : Interview σ κ (Transcribed α)} {r : Except Fault (OrderedMap Value)}
    (h : askItems d items answers i = (r, i')) :
    ∃ dialogs : List ItemDialog, i'.task = i.task ∧
      i'.asker.transcript = i.asker.transcript ++ dialogs.map ItemDialog.entry ∧
      ((∃ e, BrokenOff i.task d items dialogs e ∧ r = .error e) ∨
        (Completed i.task d items dialogs ∧
          r = .ok ((dialogs.filterMap ItemDialog.field?).foldl (fun m (k, v) => m.put k v) answers))) := by
  -- The answers so far are arbitrary; what is known of the dialogs for the rest is extended by the first item.
  induction items generalizing answers i with
  | nil =>
    cases h
    exact ⟨[], rfl, by simp, .inr ⟨.nil _ _, rfl⟩⟩
  | cons item items ih =>
    rw [askItems_cons] at h
    cases hr : i.task.renderPrompt d (some item) with
    | error e =>
      rw [hr] at h
      cases h
      exact ⟨[], rfl, by simp, .inl ⟨e, .of_template items hr, rfl⟩⟩
    | ok rendered =>
      simp only [hr] at h
      cases ha : rendered.ask with
      | false =>
        rw [ha, if_neg (by decide)] at h
        obtain ⟨dialogs, htask, htranscript, hend⟩ := ih h
        refine ⟨dialogs, htask, htranscript, ?_⟩
        rcases hend with ⟨e, hbroken, rfl⟩ | ⟨hcompleted, rfl⟩
        · exact .inl ⟨e, hbroken.passed hr ha, rfl⟩
        · exact .inr ⟨hcompleted.passed hr ha, rfl⟩
      | true =>
        rw [ha, if_pos rfl] at h
        let u : ItemDialog := ⟨item, rendered, (rendered.question.ask i.asker.asker).1⟩
        have hasked : askRendered rendered i.asker =
            (u.answer, ⟨(rendered.question.ask i.asker.asker).2, i.asker.transcript ++ [u.entry]⟩) :=
          askRendered_transcribed (Task.options_ne_of_renderPrompt hr) i.asker
        rw [Action.bind_apply, onAsker_eq hasked] at h
        cases hanswer : u.answer with
        | error e =>
          rw [hanswer] at h
          cases h
          exact ⟨[u], rfl, rfl, .inl ⟨e, .of_dialog (u := u) items hr ha hanswer, rfl⟩⟩
        | ok v =>
          rw [hanswer] at h
          obtain ⟨dialogs, htask, htranscript, hend⟩ := ih h
          refine ⟨u :: dialogs, htask, by rw [htranscript]; simp, ?_⟩
          rcases hend with ⟨e, hbroken, rfl⟩ | ⟨hcompleted, rfl⟩
          · exact .inl ⟨e, hbroken.asked (u := u) hr ha hanswer, rfl⟩
          · refine .inr ⟨hcompleted.dialog (u := u) hr ha hanswer, ?_⟩
            rw [List.filterMap_cons_some (ItemDialog.field?_of_answer hanswer)]
            rfl

/-- An interview without the transcript of its asker. -/
def plain (i : Interview σ κ (Transcribed α)) : Interview σ κ α :=
  ⟨i.task, i.asker.asker⟩

/-- Keeping a transcript makes no difference to what is asked and answered. -/
theorem askItems_plain {d : PromptDefinition} {items : List String} {answers : OrderedMap Value}
    {i i' : Interview σ κ (Transcribed α)} {r : Except Fault (OrderedMap Value)}
    (h : askItems d items answers i = (r, i')) :
    askItems d items answers i.plain = (r, i'.plain) := by
  -- Both runs keep in step: but for the transcript, their askers are in the same state before each item.
  induction items generalizing answers i with
  | nil =>
    cases h
    rfl
  | cons item items ih =>
    rw [askItems_cons] at h ⊢
    rw [show i.plain.task = i.task from rfl]
    cases hr : i.task.renderPrompt d (some item) with
    | error e =>
      rw [hr] at h
      cases h
      rfl
    | ok rendered =>
      simp only [hr] at h ⊢
      cases ha : rendered.ask with
      | false =>
        rw [ha, if_neg (by decide)] at h
        exact ih h
      | true =>
        rw [ha, if_pos rfl, Action.bind_apply] at h
        have hoptions := Task.options_ne_of_renderPrompt hr
        rw [onAsker_eq (askRendered_transcribed hoptions i.asker)] at h
        rw [if_pos rfl, Action.bind_apply, onAsker_eq (askRendered_apply hoptions i.asker.asker)]
        cases hanswer : (rendered.question.ask i.asker.asker).1 >>= rendered.reading with
        | error e =>
          rw [hanswer] at h
          cases h
          rfl
        | ok v =>
          rw [hanswer] at h
          exact ih h

/-! ### A round -/

omit [Asker α] in
theorem onTask_plain {β : Type} {act : Action (Task σ κ) β} {i i' : Interview σ κ (Transcribed α)} {r : Except Fault β}
    (h : onTask act i = (r, i')) : onTask act i.plain = (r, i'.plain) := by
  obtain ⟨hact, hasker⟩ := onTask_inv h
  rw [onTask, show i.plain.task = i.task from rfl, hact, plain, plain, hasker]

variable [Source σ κ] {id : String} {d : PromptDefinition}

theorem askGeneric_plain {i i' : Interview σ κ (Transcribed α)} {r : Except Fault Unit} (hd : d.enumerate ≠ none)
    (h : askGeneric id d i = (r, i')) : askGeneric id d i.plain = (r, i'.plain) := by
  rw [askGeneric_of_enumerate hd] at h ⊢
  rw [show i.plain.task = i.task from rfl]
  cases hitems : i.task.enumerate d with
  | error e =>
    rw [hitems] at h
    cases h
    rfl
  | ok items =>
    rcases hasked : askItems d items [] i with ⟨answers, i₂⟩
    rw [hitems] at h
    simp only [Action.bind_apply, Action.ofExcept_apply, hasked, askItems_plain hasked] at h ⊢
    cases answers with
    | error e =>
      cases h
      rfl
    | ok answers =>
      simp only at h ⊢
      split at h
      · next hempty =>
        rw [if_pos hempty]
        exact onTask_plain h
      · next hempty =>
        rw [if_neg hempty]
        exact onTask_plain h

/-- **All or nothing.** A round for a prompt with items opens one dialog for each occurrence of an item that the prompt
is asked for, in the order of the items. If a template does not render or a dialog fails, the round ends there, and the
task is as it was. Otherwise the task is given the mapping from these items to the answers, each at its first place and
with its last answer, or the prompt is passed over if there was no dialog. If the prompt is required and an answer is
blank, the task is as it was. -/
theorem items_all_or_nothing {i i' : Interview σ κ (Transcribed α)} {r : Except Fault Unit} (hd : d.enumerate ≠ none)
    (h : askGeneric id d i = (r, i')) :
    askGeneric id d i.plain = (r, i'.plain) ∧
    ((∃ e, i.task.enumerate d = .error e ∧ r = .error e ∧ i' = i) ∨
      ∃ (items : List String) (dialogs : List ItemDialog), i.task.enumerate d = .ok items ∧
      i'.asker.transcript = i.asker.transcript ++ dialogs.map ItemDialog.entry ∧
      ((∃ e, BrokenOff i.task d items dialogs e ∧ r = .error e ∧ i'.task = i.task) ∨
        Completed i.task d items dialogs ∧
        (dialogs = [] → Task.skip (.generic id d) i.task = (r, i'.task) ∧
          i'.task.answers = i.task.answers.put id (.str "")) ∧
        (dialogs ≠ [] → ∃ fields : OrderedMap Value,
          fields.keys = (items.filter (i.task.asksFor d)).eraseDups ∧
          (∀ before u after v, dialogs = before ++ u :: after → (∀ w ∈ after, w.item ≠ u.item) → u.answer = .ok v →
            fields.get? u.item = some v) ∧
          Task.answer (.generic id d) (Value.ofFields fields) i.task = (r, i'.task) ∧
          (d.required = true → (∃ e ∈ fields, e.2.isBlank = true) →
            r = .error (Task.valueRequired id) ∧ i'.task = i.task) ∧
          ((d.required = true → ∀ e ∈ fields, e.2.isBlank = false) →
            i'.task.answers = i.task.answers.put id (Value.ofFields fields))))) := by
  refine ⟨askGeneric_plain hd h, ?_⟩
  rw [askGeneric_of_enumerate hd] at h
  rcases Action.bind_eq.mp h with ⟨e, he, rfl⟩ | ⟨items, i₁, hi, h⟩
  · obtain ⟨hfails, rfl⟩ := Action.ofExcept_eq.mp he
    exact .inl ⟨e, hfails, rfl, rfl⟩
  obtain ⟨hitems, rfl⟩ := Action.ofExcept_eq.mp hi
  rcases hasked : askItems d items [] i with ⟨answers, i₂⟩
  obtain ⟨dialogs, htask, htranscript, hend⟩ := askItems_dialogs hasked
  rw [Action.bind_apply, hasked] at h
  refine .inr ⟨items, dialogs, hitems, ?_⟩
  rcases hend with ⟨e, hbroken, rfl⟩ | ⟨hcompleted, rfl⟩
  · cases h
    exact ⟨htranscript, .inl ⟨e, hbroken, rfl, htask⟩⟩
  · -- What follows the dialogs is a call on the task, which leaves the asker alone.
    have hfields : (dialogs.filterMap ItemDialog.field?).foldl (fun m (k, v) => OrderedMap.put m k v) [] =
        offered dialogs := rfl
    simp only [hfields] at h
    by_cases hnone : dialogs = []
    · have hskip : Task.skip (.generic id d) i.task = (r, i'.task) ∧ i'.asker = i₂.asker := by
        rw [if_pos (List.isEmpty_iff.mpr (hcompleted.offered_eq_nil.mpr hnone))] at h
        exact htask ▸ onTask_inv h
      exact ⟨hskip.2 ▸ htranscript,
        .inr ⟨hcompleted, fun _ => ⟨hskip.1, Task.answers_of_skip hskip.1⟩, absurd hnone⟩⟩
    · have hne : offered dialogs ≠ [] := mt hcompleted.offered_eq_nil.mp hnone
      have hanswer : Task.answer (.generic id d) (Value.ofFields (offered dialogs)) i.task = (r, i'.task) ∧
          i'.asker = i₂.asker := by
        rw [if_neg (by simpa using hne)] at h
        exact htask ▸ onTask_inv h
      obtain ⟨hrejected, hrecorded⟩ := Task.answer_fields hne hanswer.1
      have hlast : ∀ before u after v, dialogs = before ++ u :: after → (∀ w ∈ after, w.item ≠ u.item) →
          u.answer = .ok v → (offered dialogs).get? u.item = some v := by
        rintro before u after v rfl hlast hv
        exact get?_offered hv hlast
      exact ⟨hanswer.2 ▸ htranscript, .inr ⟨hcompleted, fun hnil => absurd hnil hnone, fun _ =>
        ⟨offered dialogs, hcompleted.keys_offered, hlast, hanswer.1, hrejected, hrecorded⟩⟩⟩

namespace Shop

/-- A prompt for the labels of all tables but the customers; the orders are asked for again. -/
def labels : PromptDefinition :=
  { prompt := "Label of \x7b\x7b item \x7d\x7d?", enumerate := some "orders, customers, orders, items"
    condition := some "\x7b\x7b 1 if item != 'customers' \x7d\x7d", required := true }

/-- A caller with a label for each of them. -/
def labelling : Interview Memory String (Transcribed Replay) where
  task :=
    { profile := { prompt := [("labels", labels)] }, targetDir := Path.ofString "/", engine := {}, workspace := {}
      source := Task.Shop.memory "shop", connection := "shop", prompts := [.generic "labels" labels] }
  asker := ⟨{ responses := [.str "Orders", .str "Orders by day", .str "Items"] }, []⟩

end Shop

theorem items_all_or_nothing_in_shop :
    Shop.labels.enumerate ≠ none ∧
    ∃ (i : Interview Memory String (Transcribed Replay)) (fields : OrderedMap Value),
      askGeneric "labels" Shop.labels Shop.labelling = (.ok (), i) ∧
      i.asker.transcript.map (·.1) =
        [.input "Label of orders?" none, .input "Label of orders?" none, .input "Label of items?" none] ∧
      fields.keys = ["orders", "items"] ∧ i.task.answers = [("labels", Value.ofFields fields)] := by
  have hok : (askGeneric "labels" Shop.labels Shop.labelling).1.isOk = true := by decide +kernel
  have hquestions : (askGeneric "labels" Shop.labels Shop.labelling).2.asker.transcript.map (·.1) =
      [.input "Label of orders?" none, .input "Label of orders?" none, .input "Label of items?" none] := by
    decide +kernel
  have hasked : ["orders", "customers", "orders", "items"].filter (Shop.labelling.task.asksFor Shop.labels) =
      ["orders", "orders", "items"] := by decide +kernel
  have hitems : Shop.labelling.task.enumerate Shop.labels = .ok ["orders", "customers", "orders", "items"] := by
    decide +kernel
  rcases h : askGeneric "labels" Shop.labels Shop.labelling with ⟨e | _, i⟩
  · rw [h] at hok
    cases hok
  rw [h] at hquestions
  have hd : Shop.labels.enumerate ≠ none := by decide
  obtain ⟨-, ⟨e, -, he, -⟩ | ⟨items, dialogs, hlisted, htranscript, hend⟩⟩ := items_all_or_nothing hd h
  · cases he
  obtain rfl := Except.ok.inj (hitems.symm.trans hlisted)
  obtain ⟨e, -, he, -⟩ | ⟨-, -, hoffered⟩ := hend
  · cases he
  have hne : dialogs ≠ [] := by
    rintro rfl
    rw [htranscript] at hquestions
    cases hquestions
  obtain ⟨fields, hkeys, -, -, hrejected, hrecorded⟩ := hoffered hne
  rw [hasked] at hkeys
  refine ⟨hd, i, fields, rfl, hquestions, hkeys, hrecorded fun hrequired e he => ?_⟩
  -- The round succeeded, so that no label is blank.
  rw [Bool.eq_false_iff]
  intro hblank
  obtain ⟨hr, -⟩ := hrejected hrequired ⟨e, he, hblank⟩
  cases hr

end Interview

end Dialog

end Stencil
