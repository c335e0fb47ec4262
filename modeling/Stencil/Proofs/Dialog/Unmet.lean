import Stencil.Dialog.Replay
import Stencil.Proofs.Dialog.Rounds
import Stencil.Proofs.Task.Start
import Stencil.Proofs.Template.Engine

namespace Stencil

/-!
# Prompts whose condition does not hold

A prompt is rendered as a whole before its condition is heeded. If its condition does not hold, it is passed over without
a dialog, whatever else its definition says; but this takes all its templates to render, also those that would only be
shown if the condition held. The first template that does not render ends the round, and the interview with it.

* `PromptDefinition.templates` — the templates of a prompt, in the order in which they are rendered;
* `Task.failure?_renderPrompt` — a prompt fails to render as the first of its templates that does;
* `Task.redefine` — a task whose profile has another definition for a prompt;
* `Task.passedOver` — a task after a prompt has been passed over;
* `Dialog.Interview.unmet_condition_guards_no_template` — the round for a prompt whose condition does not hold.
-/

variable {σ κ α : Type}

/-- The template that options are rendered from, if they are not static. -/
def Options.template? : Options → Option String
  | .template source => some source
  | _ => none

/-- The templates of a prompt, in the order in which they are rendered. -/
def PromptDefinition.templates (d : PromptDefinition) : List String :=
  d.condition.toList ++ (d.options.template?.toList ++ (d.default.toList ++ [d.prompt]))

/-! ### Failures of a sequence -/

/-- The failure of a result, if it is one. -/
def failure? {β : Type} : Except Fault β → Option Fault
  | .ok _ => none
  | .error e => some e

section Failure

variable {β γ : Type} {x : Except Fault β}

theorem failure?_eq_none : failure? x = none ↔ ∃ b, x = .ok b := by
  cases x <;> simp [failure?]

theorem failure?_eq_some {e : Fault} : failure? x = some e ↔ x = .error e := by
  cases x <;> simp [failure?]

theorem failure?_map (f : β → γ) : failure? (x.map f) = failure? x := by
  cases x <;> rfl

/-- A sequence fails as its first part does, or else as the second one. -/
theorem failure?_bind {f : β → Except Fault γ} {o : Option Fault} (h : ∀ b, failure? (f b) = o) :
    failure? (x >>= f) = (failure? x).or o := by
  cases x with
  | error e => rfl
  | ok b => exact h b

end Failure

/-! ### Rendering a prompt -/

namespace Task

variable {t : Task σ κ} {d : PromptDefinition} {item : Option String}

/-- The failure to render a source, if there is one. -/
def renderFailure? (t : Task σ κ) (item : Option String) (source : String) : Option Fault :=
  failure? (t.render source item)

theorem failure?_conditionMet : failure? (t.conditionMet d item) = d.condition.toList.findSome? (t.renderFailure? item) := by
  unfold conditionMet
  cases d.condition with
  | none => rfl
  | some source => simp [failure?_map, renderFailure?]

theorem failure?_renderOptions :
    failure? (t.renderOptions d item) = d.options.template?.toList.findSome? (t.renderFailure? item) := by
  unfold renderOptions
  cases d.options with
  | template source => simp [failure?_map, renderFailure?, Options.template?]
  | _ => rfl

theorem failure?_default :
    failure? (d.default.mapM (t.render · item)) = d.default.toList.findSome? (t.renderFailure? item) := by
  cases d.default with
  | none => rfl
  | some source =>
    have hmap : (some source).mapM (t.render · item) = (t.render source item).map some := rfl
    simp [hmap, failure?_map, renderFailure?]

/-- A prompt fails to render as the first of its templates that does. -/
theorem failure?_renderPrompt :
    failure? (t.renderPrompt d item) = d.templates.findSome? (t.renderFailure? item) := by
  have hprompt : failure? (t.render d.prompt item) = [d.prompt].findSome? (t.renderFailure? item) := by
    simp [renderFailure?]
  rw [PromptDefinition.templates, List.findSome?_append, List.findSome?_append, List.findSome?_append,
    ← failure?_conditionMet, ← failure?_renderOptions, ← failure?_default, ← hprompt]
  unfold renderPrompt
  refine failure?_bind fun ask => failure?_bind fun options => failure?_bind fun default => ?_
  exact failure?_map _

/-- A prompt renders exactly if all its templates do. -/
theorem renderPrompt_succeeds_iff :
    (∃ rendered, t.renderPrompt d item = .ok rendered) ↔ ∀ source ∈ d.templates, ∃ text, t.render source item = .ok text := by
  rw [← failure?_eq_none, failure?_renderPrompt, List.findSome?_eq_none_iff]
  simp only [renderFailure?, failure?_eq_none]

/-- The first template that does not render is the one that a prompt fails with. -/
theorem renderPrompt_eq_error_of {before after : List String} {source : String} {e : Fault}
    (ht : d.templates = before ++ source :: after) (hbefore : ∀ s ∈ before, ∃ text, t.render s item = .ok text)
    (he : t.render source item = .error e) : t.renderPrompt d item = .error e := by
  rw [← failure?_eq_some, failure?_renderPrompt, List.findSome?_eq_some_iff]
  exact ⟨before, source, after, ht, failure?_eq_some.mpr he, fun s hs => failure?_eq_none.mpr (hbefore s hs)⟩

/-- A failure to render is one of the program itself, and no rejection of bad input. -/
theorem render_eq_error {source : String} {e : Fault} (he : t.render source item = .error e) :
    ∃ message, e = .runtime message := by
  rcases t.engine.renderString_cases t.workspace.disk source (t.contextData item) with ⟨text, htext⟩ | ⟨message, hmessage⟩
  · cases he.symm.trans htext
  · exact ⟨message, Except.error.inj (he.symm.trans hmessage)⟩

/-- A prompt is not asked if its condition renders to another text than "1", blanks aside. -/
theorem ask_of_unmet {source : String} (hd : d.condition = some source)
    (hunmet : ∀ text, t.render source item = .ok text → Text.trimmed text ≠ "1") {rendered : RenderedPrompt}
    (hr : t.renderPrompt d item = .ok rendered) : rendered.ask = false := by
  have hcondition := (renderPrompt_ok hr).1
  unfold conditionMet at hcondition
  rw [hd] at hcondition
  cases htext : t.render source item with
  | error e =>
    simp only [htext, Except.map] at hcondition
    cases hcondition
  | ok text =>
    simp only [htext, Except.map, Except.ok.injEq] at hcondition
    rw [← hcondition, beq_eq_false_iff_ne]
    exact hunmet text htext

/-! ### Other definitions -/

/-- A task whose profile has another definition for a prompt. -/
def redefine (t : Task σ κ) (id : String) (d : PromptDefinition) : Task σ κ :=
  { t with
    profile := { t.profile with prompt := t.profile.prompt.put id d }
    prompts := t.prompts.map fun p => if p.hasId id then .generic id d else p }

/-- A task after a prompt has been passed over: an empty text is on record for it. -/
def passedOver (t : Task σ κ) (id : String) : Task σ κ :=
  folded { t with answers := t.answers.put id (.str "") }

variable [Source σ κ] {id : String}

/-- A prompt waits whatever its definition is. -/
theorem head?_unanswered_redefine {d₀ : PromptDefinition} (h : t.unanswered.head? = some (.generic id d₀)) :
    (t.redefine id d).unanswered.head? = some (.generic id d) := by
  -- Whether a prompt waits depends on its id alone, and the id stays.
  have hanswered : ∀ p : TaskPrompt, (t.redefine id d).isAnswered (if p.hasId id then .generic id d else p) = t.isAnswered p := by
    intro p
    split
    · next hid =>
      cases p with
      | generic id' d' =>
        obtain rfl : id' = id := by simpa [TaskPrompt.hasId] using hid
        rfl
      | _ => cases hid
    · rfl
  have hmap : (t.redefine id d).unanswered = t.unanswered.map fun p => if p.hasId id then .generic id d else p := by
    simp only [unanswered, redefine, List.filter_map, Function.comp_def]
    congr 1
    refine List.filter_congr fun p _ => ?_
    rw [← hanswered p]
    rfl
  rw [hmap, List.head?_map, h]
  simp [TaskPrompt.hasId]

/-- Passing over a prompt of a bound task always succeeds. -/
theorem skip_of_bound (hb : t.context.isBound = true) : skip (.generic id d) t = (.ok (), t.passedOver id) :=
  (Taken.skipped (d := d)).perform_of_ok (.folded hb)

end Task

namespace Dialog.Interview

variable [Source σ κ] [Asker α] {t : Task σ κ} {id : String} {d : PromptDefinition} {a : α}

/-! ### A round -/

/-- A round for a prompt whose condition does not hold passes it over, if the prompt renders at all. -/
theorem askOrReport_of_unmet {source : String} (hbound : t.context.isBound = true) (hitems : d.enumerate = none)
    (hcondition : d.condition = some source)
    (hunmet : ∀ text, t.render source = .ok text → Text.trimmed text ≠ "1")
    (htemplates : ∀ s ∈ d.templates, ∃ text, t.render s = .ok text) :
    askOrReport (.generic id d) ⟨t, a⟩ = (.ok (), ⟨t.passedOver id, a⟩) := by
  obtain ⟨rendered, hrendered⟩ := Task.renderPrompt_succeeds_iff.mpr htemplates
  have hskip : onTask (Task.skip (.generic id d)) (⟨t, a⟩ : Interview σ κ α) = (.ok (), ⟨t.passedOver id, a⟩) := by
    rw [onTask, Task.skip_of_bound hbound]
  apply askOrReport_of_ok
  rw [ask, askGeneric_of_no_items hitems]
  simp only [hrendered, Task.ask_of_unmet hcondition hunmet hrendered, Bool.false_eq_true, if_false, hskip]

/-- A round for a prompt that does not render changes nothing, and ends the interview. -/
theorem askOrReport_of_unrendered {before after : List String} {source : String} {e : Fault} (hitems : d.enumerate = none)
    (ht : d.templates = before ++ source :: after) (hbefore : ∀ s ∈ before, ∃ text, t.render s = .ok text)
    (he : t.render source = .error e) : askOrReport (.generic id d) ⟨t, a⟩ = (.error e, ⟨t, a⟩) := by
  obtain ⟨message, rfl⟩ := Task.render_eq_error he
  apply askOrReport_of_runtime
  rw [ask, askGeneric_of_no_items hitems]
  simp only [Task.renderPrompt_eq_error_of ht hbefore he]

/-- **A condition that does not hold guards no template.** Let a prompt of the profile be next, in a task with a bound
context, and let its condition not render to "1". Whatever else its definition says, a round for it opens no dialog. If
all its templates render, the round ends in one and the same task, in which an empty text is on record for the prompt.
Otherwise the round fails as the first of its templates that does not render, and the task is as it was. -/
theorem unmet_condition_guards_no_template {source : String} {d₀ : PromptDefinition} (a : α)
    (hbound : t.context.isBound = true) (hnext : t.unanswered.head? = some (.generic id d₀))
    (hunmet : ∀ text, t.render source = .ok text → Text.trimmed text ≠ "1") :
    (t.passedOver id).answers = t.answers.put id (.str "") ∧
    ∀ d : PromptDefinition, d.enumerate = none → d.condition = some source →
      (t.redefine id d).unanswered.head? = some (.generic id d) ∧
      ((∀ s ∈ d.templates, ∃ text, t.render s = .ok text) →
        askOrReport (.generic id d) ⟨t.redefine id d, a⟩ = (.ok (), ⟨(t.passedOver id).redefine id d, a⟩)) ∧
      ∀ before s after e, d.templates = before ++ s :: after → (∀ s ∈ before, ∃ text, t.render s = .ok text) →
        t.render s = .error e →
        askOrReport (.generic id d) ⟨t.redefine id d, a⟩ = (.error e, ⟨t.redefine id d, a⟩) ∧
          ∃ message, e = .runtime message := by
  refine ⟨rfl, fun d hitems hcondition => ⟨Task.head?_unanswered_redefine hnext, fun htemplates => ?_, ?_⟩⟩
  · -- What is rendered does not depend on the definitions of prompts.
    exact askOrReport_of_unmet (t := t.redefine id d) hbound hitems hcondition hunmet htemplates
  · intro before s after e ht hbefore he
    exact ⟨askOrReport_of_unrendered (t := t.redefine id d) hitems ht hbefore he, Task.render_eq_error he⟩

namespace Shop

/-- A prompt for a note, if the table has a comment. -/
def note : PromptDefinition :=
  { prompt := "Note?", condition := some "\x7b\x7b '1' if table.comment \x7d\x7d" }

/-- The same prompt with a choice of the parts of the comment. -/
def noteOfParts : PromptDefinition :=
  { note with options := .template "\x7b\x7b table.comment.split(';') | join(',') \x7d\x7d" }

/-- A profile with the prompt. -/
def noted (d : PromptDefinition) : Task.Setup where
  profile := { config := { dsn := "memory:", prompts := ["note"] }, prompt := [("note", d)] }
  contextDir := Path.ofString "/"
  table := some "customers"

omit [Source σ κ] in
theorem renders_note {t : Task σ κ} (hcondition : t.render "\x7b\x7b '1' if table.comment \x7d\x7d" = .ok "")
    (hprompt : t.render "Note?" = .ok "Note?") : ∀ s ∈ note.templates, ∃ text, t.render s = .ok text := by
  intro s hs
  rcases List.mem_cons.mp hs with rfl | hs
  · exact ⟨_, hcondition⟩
  · obtain rfl := List.mem_singleton.mp hs
    exact ⟨_, hprompt⟩

omit [Source σ κ] in
theorem unmet_note {t : Task σ κ} (hcondition : t.render "\x7b\x7b '1' if table.comment \x7d\x7d" = .ok "") :
    ∀ text, t.render "\x7b\x7b '1' if table.comment \x7d\x7d" = .ok text → Text.trimmed text ≠ "1" := by
  intro text htext
  obtain rfl := Except.ok.inj (hcondition.symm.trans htext)
  decide

end Shop

open Task.Shop in
theorem unmet_condition_guards_no_template_in_shop :
    ∃ (t : Task Memory String) (rest : Workspace × Memory),
      Task.start (Shop.noted Shop.note) ({}, memory "shop") = (.ok t, rest) ∧ t.context.isBound = true ∧
      t.unanswered.head? = some (.generic "note" Shop.note) ∧
      askOrReport (.generic "note" Shop.note) ⟨t.redefine "note" Shop.note, ({} : Replay)⟩ =
        (.ok (), ⟨(t.passedOver "note").redefine "note" Shop.note, {}⟩) := by
  obtain ⟨t, rest, h, hbound, hnext, hcondition, hprompt⟩ : ∃ (t : Task Memory String) (rest : Workspace × Memory),
      Task.start (Shop.noted Shop.note) (({} : Workspace), memory "shop") = (.ok t, rest) ∧
      t.context.isBound = true ∧ t.unanswered.head? = some (.generic "note" Shop.note) ∧
      t.render "\x7b\x7b '1' if table.comment \x7d\x7d" = .ok "" ∧ t.render "Note?" = .ok "Note?" :=
    ⟨_, _, rfl, rfl, rfl, by decide +kernel, by decide +kernel⟩
  obtain ⟨-, hround⟩ := unmet_condition_guards_no_template ({} : Replay) hbound hnext (Shop.unmet_note hcondition)
  exact ⟨t, rest, h, hbound, hnext, (hround Shop.note rfl rfl).2.1 (Shop.renders_note hcondition hprompt)⟩

open Task.Shop in
/-- Of two prompts with one condition, which does not hold, one is passed over, and the other ends the interview because
its options do not render. -/
theorem unmet_condition_fails_in_shop :
    ∃ (t : Task Memory String) (rest : Workspace × Memory) (message : String),
      Task.start (Shop.noted Shop.noteOfParts) ({}, memory "shop") = (.ok t, rest) ∧ t.context.isBound = true ∧
      t.unanswered.head? = some (.generic "note" Shop.noteOfParts) ∧
      Shop.noteOfParts.condition = Shop.note.condition ∧ t.conditionMet Shop.note none = .ok false ∧
      (askOrReport (.generic "note" Shop.note) ⟨t.redefine "note" Shop.note, ({} : Replay)⟩).1 = .ok () ∧
      askOrReport (.generic "note" Shop.noteOfParts) ⟨t, ({} : Replay)⟩ = (.error (.runtime message), ⟨t, {}⟩) := by
  obtain ⟨t, rest, h, hbound, hnext, hcondition, hprompt, hoptions⟩ :
      ∃ (t : Task Memory String) (rest : Workspace × Memory),
      Task.start (Shop.noted Shop.noteOfParts) (({} : Workspace), memory "shop") = (.ok t, rest) ∧
      t.context.isBound = true ∧ t.unanswered.head? = some (.generic "note" Shop.noteOfParts) ∧
      t.render "\x7b\x7b '1' if table.comment \x7d\x7d" = .ok "" ∧ t.render "Note?" = .ok "Note?" ∧
      t.render "\x7b\x7b table.comment.split(';') | join(',') \x7d\x7d" = .error (.runtime
        ("Failed to render \"\x7b\x7b table.comment.split(';') | join(',') \x7d\x7d\": " ++ detail)) :=
    ⟨_, _, rfl, rfl, rfl, by decide +kernel, by decide +kernel, by decide +kernel⟩
  have hunmet : t.conditionMet Shop.note none = .ok false := by
    simp only [Task.conditionMet, Shop.note, hcondition, Except.map]
    decide
  have hpassed : askOrReport (.generic "note" Shop.note) ⟨t.redefine "note" Shop.note, ({} : Replay)⟩ =
      (.ok (), ⟨(t.redefine "note" Shop.note).passedOver "note", {}⟩) :=
    askOrReport_of_unmet hbound rfl rfl (Shop.unmet_note hcondition) (Shop.renders_note hcondition hprompt)
  -- The condition renders first, and then the options fail.
  have htemplates : Shop.noteOfParts.templates = ["\x7b\x7b '1' if table.comment \x7d\x7d"] ++
      "\x7b\x7b table.comment.split(';') | join(',') \x7d\x7d" :: ["Note?"] := rfl
  exact ⟨t, rest, _, h, hbound, hnext, rfl, hunmet, congrArg Prod.fst hpassed,
    askOrReport_of_unrendered rfl htemplates (List.forall_mem_singleton.mpr ⟨_, hcondition⟩) hoptions⟩

end Dialog.Interview

end Stencil
