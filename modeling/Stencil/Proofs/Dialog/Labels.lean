import Stencil.Proofs.Dialog.Items

namespace Stencil

/-!
# Labels in a text

A template renders to labels with commas between them: they are the options of a prompt, or the items that it is asked
for. Blanks around a label do not count, and neither do pieces that are empty or have nothing but blanks.

* `IsLabel`, `Listing` — what labels are, and the texts that list them;
* `splitList_eq_iff` — a text is split into labels exactly if it lists them;
* `listing_joined` — labels with nothing but commas between them are listed;
* `Task.renderOptions_of_listing`, `Task.enumerate_of_listing` — templates that render to a listing;
* `Dialog.Question.offering` — the question that offers labels;
* `Dialog.Interview.askGeneric_dialogs` — a prompt is asked for its items in order;
* `Dialog.Interview.labels_in_order` — from the text to the dialogs.
-/

/-! ### Listings -/

/-- A text that can be a label: it has no comma, there are no blanks around it, and it is not empty. -/
structure IsLabel (label : String) : Prop extends Preset.IsItem label where
  ne_empty : label ≠ ""

/-- Pieces with labels among them: each label is a piece of its own, with any blanks around it, and the pieces come in
the order of the labels; all other pieces have nothing but blanks. -/
inductive Lists : List String → List String → Prop where
  | nil : Lists [] []
  | blank {piece : String} {pieces labels : List String} (hpiece : ∀ c ∈ piece.toList, Text.isBlank c = true)
    (h : Lists pieces labels) : Lists (piece :: pieces) labels
  | label {piece label : String} {pieces labels : List String} (hlabel : IsLabel label)
    (hpiece : Preset.Padded label piece) (h : Lists pieces labels) : Lists (piece :: pieces) (label :: labels)

/-- A text that lists labels: it is made of pieces with the labels among them, and a comma between each two. -/
def Listing (text : String) (labels : List String) : Prop :=
  ∃ pieces, text = Text.joined "," pieces ∧ Lists pieces labels

/-- What a piece stands for: nothing if it has nothing but blanks, else itself without the blanks around it. -/
def labelOf? (piece : String) : Option String :=
  if Text.trim piece.toList = [] then none else some (Text.trimmed piece)

section Pieces

variable {piece label : String} {pieces labels : List String}

theorem labelOf?_of_blank (h : ∀ c ∈ piece.toList, Text.isBlank c = true) : labelOf? piece = none :=
  if_pos (Text.trim_eq_nil.mpr h)

theorem labelOf?_of_padded (hlabel : IsLabel label) (h : Preset.Padded label piece) : labelOf? piece = some label := by
  have htrim : Text.trim piece.toList = label.toList := h.trim_eq hlabel.trimmed
  have hne : label.toList ≠ [] := mt String.toList_eq_nil_iff.mp hlabel.ne_empty
  rw [labelOf?, Text.trimmed, htrim, if_neg hne, String.ofList_toList]

/-- A piece that is not all blanks has a label in it. -/
theorem isLabel_trimmed (hcomma : ',' ∉ piece.toList) (hne : Text.trim piece.toList ≠ []) :
    IsLabel (Text.trimmed piece) ∧ Preset.Padded (Text.trimmed piece) piece := by
  obtain ⟨before, after, hpiece, hbefore, hafter⟩ := Text.exists_padding Text.isBlank piece.toList
  have htrimmed : (Text.trimmed piece).toList = Text.trim piece.toList := String.toList_ofList
  refine ⟨{ no_comma := fun hc => hcomma ?_, trimmed := ?_, ne_empty := fun hempty => hne ?_ },
    before, after, ?_, hbefore, hafter⟩
  · rw [htrimmed] at hc
    rw [hpiece]
    exact List.mem_append_left after (List.mem_append_right before hc)
  · rw [htrimmed]
    exact Text.isTrimmed_trim piece.toList
  · rw [← htrimmed, hempty]
    rfl
  · rw [htrimmed]
    exact hpiece

/-- The labels are what the pieces stand for. -/
theorem Lists.labels_eq (h : Lists pieces labels) :
    (∀ piece ∈ pieces, ',' ∉ piece.toList) ∧ pieces.filterMap labelOf? = labels := by
  induction h with
  | nil => exact ⟨List.forall_mem_nil _, rfl⟩
  | @blank piece pieces labels hpiece _ ih =>
    have hcomma : ',' ∉ piece.toList := fun hc => absurd (hpiece ',' hc) (by decide)
    refine ⟨List.forall_mem_cons.mpr ⟨hcomma, ih.1⟩, ?_⟩
    rw [List.filterMap_cons_none (labelOf?_of_blank hpiece), ih.2]
  | @label piece label pieces labels hlabel hpiece _ ih =>
    have hcomma : ',' ∉ piece.toList := hpiece.not_mem (by decide) hlabel.no_comma
    refine ⟨List.forall_mem_cons.mpr ⟨hcomma, ih.1⟩, ?_⟩
    rw [List.filterMap_cons_some (labelOf?_of_padded hlabel hpiece), ih.2]

/-- Any pieces without commas have labels among them: what they stand for. -/
theorem lists_filterMap (h : ∀ piece ∈ pieces, ',' ∉ piece.toList) : Lists pieces (pieces.filterMap labelOf?) := by
  induction pieces with
  | nil => exact .nil
  | cons piece pieces ih =>
    obtain ⟨hcomma, hrest⟩ := List.forall_mem_cons.mp h
    by_cases hblank : Text.trim piece.toList = []
    · have hpiece := Text.trim_eq_nil.mp hblank
      rw [List.filterMap_cons_none (labelOf?_of_blank hpiece)]
      exact .blank hpiece (ih hrest)
    · obtain ⟨hlabel, hpadded⟩ := isLabel_trimmed hcomma hblank
      rw [List.filterMap_cons_some (labelOf?_of_padded hlabel hpadded)]
      exact .label hlabel hpadded (ih hrest)

theorem Lists.isLabel (h : Lists pieces labels) : ∀ label ∈ labels, IsLabel label := by
  induction h with
  | nil => exact List.forall_mem_nil _
  | blank _ _ ih => exact ih
  | label hlabel _ _ ih => exact List.forall_mem_cons.mpr ⟨hlabel, ih⟩

theorem lists_self (h : ∀ label ∈ labels, IsLabel label) : Lists labels labels := by
  induction labels with
  | nil => exact .nil
  | cons label labels ih =>
    obtain ⟨hlabel, hrest⟩ := List.forall_mem_cons.mp h
    exact .label hlabel (Preset.padded_self label) (ih hrest)

/-! ### Splitting -/

theorem splitList_eq (text : String) : splitList text = (Text.piecesAt ',' text).filterMap labelOf? := by
  rw [splitList, Text.piecesAt, List.filterMap_map, List.filterMap_map]
  refine List.filterMap_congr fun piece _ => ?_
  simp [labelOf?, Text.trimmed]

/-- A text is split into what its pieces stand for. -/
theorem splitList_joined (h : ∀ piece ∈ pieces, ',' ∉ piece.toList) :
    splitList (Text.joined "," pieces) = pieces.filterMap labelOf? := by
  cases pieces with
  | nil => rfl
  | cons piece pieces =>
    have hpieces : ∀ p ∈ (piece :: pieces).map String.toList, ',' ∉ p := List.forall_mem_map.mpr h
    rw [splitList_eq, Text.piecesAt, Text.joined, String.toList_ofList,
      show ",".toList = [','] from rfl, Text.splitAtChar_join (by simp) hpieces, List.map_map]
    simp [Function.comp_def]

/-- A text is split into labels exactly if it lists them. -/
theorem splitList_eq_iff {text : String} : splitList text = labels ↔ Listing text labels := by
  constructor
  · rintro rfl
    have hjoined : text = Text.joined "," (Text.piecesAt ',' text) := by
      simp [Text.joined, Text.piecesAt, Function.comp_def, Text.join_splitAtChar]
    have hcommas : ∀ piece ∈ Text.piecesAt ',' text, ',' ∉ piece.toList := by
      intro piece hpiece hc
      obtain ⟨p, hp, rfl⟩ := List.mem_map.mp hpiece
      rw [String.toList_ofList] at hc
      exact (Text.mem_of_mem_splitAtChar hp ',' hc).2 rfl
    rw [splitList_eq]
    exact ⟨_, hjoined, lists_filterMap hcommas⟩
  · rintro ⟨pieces, rfl, h⟩
    rw [splitList_joined h.labels_eq.1, h.labels_eq.2]

/-- Labels with nothing but commas between them are listed. -/
theorem listing_joined (h : ∀ label ∈ labels, IsLabel label) : Listing (Text.joined "," labels) labels :=
  ⟨labels, rfl, lists_self h⟩

theorem Listing.isLabel {text : String} (h : Listing text labels) : ∀ label ∈ labels, IsLabel label := by
  obtain ⟨_, -, hlists⟩ := h
  exact hlists.isLabel

end Pieces

/-! ### Templates that render to listings -/

variable {σ κ α : Type}

namespace Task

variable {t : Task σ κ} {d : PromptDefinition} {source text : String} {labels : List String}

theorem asksFor_of_none (hd : d.condition = none) (item : String) : t.asksFor d item = true := by
  rw [asksFor, hd]

theorem renderOptions_of_listing {item : Option String} (hd : d.options = .template source)
    (hr : t.render source item = .ok text) (h : Listing text labels) :
    t.renderOptions d item = .ok (.labels labels) := by
  rw [renderOptions, hd]
  simp only [hr, Except.map, splitList_eq_iff.mpr h]

theorem enumerate_of_listing (hd : d.enumerate = some source) (hr : t.render source = .ok text)
    (h : Listing text labels) : t.enumerate d = .ok labels := by
  rw [enumerate, hd]
  simp only [hr, Except.map, splitList_eq_iff.mpr h]

end Task

namespace Dialog

/-- The question that offers labels: to choose one or several of them. If there are none, any text is asked for. -/
def Question.offering (p : RenderedPrompt) (labels : List String) : Question :=
  if labels = [] then .input p.prompt p.default
  else if p.multiple then .multiSelect p.prompt labels p.ordered
  else .select p.prompt labels

theorem question_of_labels {p : RenderedPrompt} {labels : List String} (h : p.options = .labels labels) :
    p.question = .offering p labels := by
  simp [RenderedPrompt.question, RenderedPrompt.isConfirm, RenderedPrompt.isFreeText, RenderedOptions.captions,
    Question.offering, h]

/-- The dialogs up to the first failure are for the first items that the prompt is asked for. -/
theorem BrokenOff.asked_prefix {t : Task σ κ} {d : PromptDefinition} {items : List String} {dialogs : List ItemDialog}
    {e : Fault} (h : BrokenOff t d items dialogs e) : dialogs.map (·.item) <+: items.filter (t.asksFor d) := by
  cases h with
  | template hbefore _ =>
    rw [hbefore.asked, List.filter_append]
    exact List.prefix_append _ _
  | dialog hbefore hasked _ _ =>
    rw [List.map_append, hbefore.asked, List.filter_append, List.filter_cons_of_pos hasked]
    exact (List.prefix_append_right_inj _).mpr ⟨_, rfl⟩

namespace Interview

variable [Source σ κ] [Asker α]

/-- A round for a prompt with items opens dialogs for the items, up to the first failure. -/
theorem askGeneric_dialogs {id : String} {d : PromptDefinition} {items : List String}
    {i i' : Interview σ κ (Transcribed α)} {r : Except Fault Unit} (hd : d.enumerate ≠ none)
    (hitems : i.task.enumerate d = .ok items) (h : askGeneric id d i = (r, i')) :
    ∃ dialogs : List ItemDialog, i'.asker.transcript = i.asker.transcript ++ dialogs.map ItemDialog.entry ∧
      ((∃ e, BrokenOff i.task d items dialogs e ∧ r = .error e) ∨ Completed i.task d items dialogs) := by
  rcases hasked : askItems d items [] i with ⟨answers, i₁⟩
  obtain ⟨dialogs, -, htranscript, hend⟩ := askItems_dialogs hasked
  rw [askGeneric_of_enumerate hd, hitems, Action.bind_apply, Action.ofExcept_apply] at h
  simp only [Action.bind_apply, hasked] at h
  refine ⟨dialogs, ?_⟩
  rcases hend with ⟨e, hbroken, rfl⟩ | ⟨hcompleted, rfl⟩
  · cases h
    exact ⟨htranscript, .inl ⟨e, hbroken, rfl⟩⟩
  · -- What follows the dialogs is a call on the task, which leaves the asker alone.
    have hasker : i'.asker = i₁.asker := by
      dsimp only at h
      split at h
      · exact (onTask_inv h).2
      · exact (onTask_inv h).2
    exact ⟨hasker ▸ htranscript, .inr hcompleted⟩

/-- **Labels come as the text lists them.** Labels with commas between them are split again, and a text is split into
labels exactly if it lists them; what comes out are labels, which are split again when they are joined. If the options of
a prompt render to a text that lists labels, these are offered, in their order. If the items of a prompt do, a round opens
dialogs for them in their order, all of them unless a condition leaves some out or the round breaks off. -/
theorem labels_in_order :
    (∀ labels, (∀ label ∈ labels, IsLabel label) → splitList (Text.joined "," labels) = labels) ∧
    (∀ text labels, splitList text = labels ↔ Listing text labels) ∧
    (∀ text, (∀ label ∈ splitList text, IsLabel label) ∧
      splitList (Text.joined "," (splitList text)) = splitList text) ∧
    (∀ (t : Task σ κ) (d : PromptDefinition) item source text labels, d.options = .template source →
      t.render source item = .ok text → Listing text labels →
        t.renderOptions d item = .ok (.labels labels) ∧
        ∀ rendered, t.renderPrompt d item = .ok rendered → ∀ s : Transcribed α, ∃ reply,
          (askRendered rendered s).2.transcript = s.transcript ++ [(.offering rendered labels, reply)]) ∧
    ∀ (i i' : Interview σ κ (Transcribed α)) id (d : PromptDefinition) source text labels r,
      d.enumerate = some source → i.task.render source = .ok text → Listing text labels →
        askGeneric id d i = (r, i') →
          i.task.enumerate d = .ok labels ∧ (d.condition = none → labels.filter (i.task.asksFor d) = labels) ∧
          ∃ dialogs : List ItemDialog, i'.asker.transcript = i.asker.transcript ++ dialogs.map ItemDialog.entry ∧
            ((∃ e, BrokenOff i.task d labels dialogs e ∧ r = .error e ∧
                dialogs.map (·.item) <+: labels.filter (i.task.asksFor d)) ∨
              Completed i.task d labels dialogs ∧ dialogs.map (·.item) = labels.filter (i.task.asksFor d)) := by
  have hjoined : ∀ labels, (∀ label ∈ labels, IsLabel label) → splitList (Text.joined "," labels) = labels :=
    fun labels h => splitList_eq_iff.mpr (listing_joined h)
  have hlabels : ∀ text, ∀ label ∈ splitList text, IsLabel label := fun text => (splitList_eq_iff.mp rfl).isLabel
  refine ⟨hjoined, fun text labels => splitList_eq_iff, fun text => ⟨hlabels text, hjoined _ (hlabels text)⟩,
    fun t d item source text labels hd hr hlisting => ?_, fun i i' id d source text labels r hd hr hlisting h => ?_⟩
  · have hoptions : t.renderOptions d item = .ok (.labels labels) := Task.renderOptions_of_listing hd hr hlisting
    refine ⟨hoptions, fun rendered hrendered s => ?_⟩
    have hrenderedOptions : rendered.options = .labels labels :=
      (Except.ok.inj (hoptions.symm.trans (Task.renderPrompt_ok hrendered).2)).symm
    rw [askRendered_transcribed (Task.options_ne_of_renderPrompt hrendered), question_of_labels hrenderedOptions]
    exact ⟨_, rfl⟩
  · have hitems : i.task.enumerate d = .ok labels := Task.enumerate_of_listing hd hr hlisting
    refine ⟨hitems, fun hcondition => List.filter_eq_self.mpr fun item _ => Task.asksFor_of_none hcondition item, ?_⟩
    obtain ⟨dialogs, htranscript, hend⟩ := askGeneric_dialogs (by simp [hd]) hitems h
    refine ⟨dialogs, htranscript, hend.imp ?_ fun hcompleted => ⟨hcompleted, hcompleted.asked⟩⟩
    rintro ⟨e, hbroken, hr⟩
    exact ⟨e, hbroken, hr, hbroken.asked_prefix⟩

namespace Shop

/-- A prompt for the types of two columns, with the types to choose from. -/
def types : PromptDefinition :=
  { prompt := "Type of \x7b\x7b item \x7d\x7d?"
    enumerate := some "\x7b\x7b ['id', 'day']|join(' , ,') \x7d\x7d,"
    options := .template "\x7b\x7b ['int', 'text']|join(', ') \x7d\x7d" }

/-- A caller with a type for each of them. -/
def typing : Interview Memory String (Transcribed Replay) where
  task :=
    { profile := { prompt := [("types", types)] }, targetDir := Path.ofString "/", engine := {}, workspace := {}
      source := Task.Shop.memory "shop", connection := "shop", prompts := [.generic "types" types] }
  asker := ⟨{ responses := [.str "int", .str "text"] }, []⟩

end Shop

theorem labels_in_order_in_shop :
    splitList (Text.joined "," ["int", "text"]) = ["int", "text"] ∧
    (∃ rendered, Shop.typing.task.renderPrompt Shop.types (some "id") = .ok rendered ∧
      ∀ s : Transcribed Replay, ∃ reply,
        (askRendered rendered s).2.transcript = s.transcript ++ [(.select "Type of id?" ["int", "text"], reply)]) ∧
    ∃ (i : Interview Memory String (Transcribed Replay)) (dialogs : List ItemDialog),
      askGeneric "types" Shop.types Shop.typing = (.ok (), i) ∧ i.asker.transcript = dialogs.map ItemDialog.entry ∧
        dialogs.map (·.item) = ["id", "day"] := by
  let rendered : RenderedPrompt := { prompt := "Type of id?", options := .labels ["int", "text"], item := some "id" }
  have hrendered : Shop.typing.task.renderPrompt Shop.types (some "id") = .ok rendered := by decide +kernel
  have htypes : Shop.typing.task.render "\x7b\x7b ['int', 'text']|join(', ') \x7d\x7d" (some "id") = .ok "int, text" := by
    decide +kernel
  have hcolumns : Shop.typing.task.render "\x7b\x7b ['id', 'day']|join(' , ,') \x7d\x7d," = .ok "id , ,day," := by
    decide +kernel
  have hok : (askGeneric "types" Shop.types Shop.typing).1.isOk = true := by decide +kernel
  obtain ⟨hjoined, hsplit, hlabels, hoffers, hasks⟩ := labels_in_order (σ := Memory) (κ := String) (α := Replay)
  have htypesListed : Listing "int, text" ["int", "text"] := (hsplit _ _).mp (by decide)
  have hcolumnsListed : Listing "id , ,day," ["id", "day"] := (hsplit _ _).mp (by decide)
  obtain ⟨-, hoffered⟩ := hoffers _ Shop.types _ _ _ _ rfl htypes htypesListed
  refine ⟨hjoined _ htypesListed.isLabel, ⟨rendered, hrendered, hoffered rendered hrendered⟩, ?_⟩
  rcases h : askGeneric "types" Shop.types Shop.typing with ⟨e | _, i⟩
  · rw [h] at hok
    cases hok
  obtain ⟨-, hall, dialogs, htranscript, hend⟩ := hasks _ _ _ Shop.types _ _ _ _ rfl hcolumns hcolumnsListed h
  rcases hend with ⟨e, -, he, -⟩ | ⟨-, hitems⟩
  · cases he
  · exact ⟨i, dialogs, rfl, htranscript, hitems.trans (hall rfl)⟩

end Interview

end Dialog

end Stencil
