import Stencil.Proofs.Dialog.Rounds
import Stencil.Proofs.Dialog.Widgets
import Stencil.Proofs.Profile.Reading

namespace Stencil

/-!
# Choices and what they stand for

Options are shown by their labels, a number is read, and the value of the option is the answer.

* `RenderedOptions.values`, `RenderedOptions.captions` — what options stand for, and what is shown of them;
* `Dialog.valueOf_eq_ok` — the value at the position of a label is found again by the label;
* `Dialog.Chosen` — the answers that lines give to a prompt with options;
* `Dialog.chosen_is_recorded` — a terminal asks for exactly these answers.
-/

namespace RenderedOptions

/-- What the options stand for. -/
def values : RenderedOptions → List String
  | .flag _ => []
  | .labels xs => xs
  | .mapping es => es.keys

/-- What is shown of the options. -/
def captions : RenderedOptions → List String
  | .flag _ => []
  | .labels xs => xs
  | .mapping es => es.map (·.2)

/-- The values are "0" and "1", so that the question is answered by yes or no. -/
def AsksYesNo (o : RenderedOptions) : Prop :=
  ∃ entries, o = .mapping entries ∧ ∀ k, k ∈ entries.keys ↔ k = "0" ∨ k = "1"

/-- Every label of a value stands for it alone. -/
def Unambiguous (o : RenderedOptions) : Prop :=
  ∀ entries, o = .mapping entries → (entries.map (·.2)).Nodup

/-- An answer is the value of an option, or a list of such values. -/
inductive Offers (o : RenderedOptions) : Value → Prop
  | one {v : String} : v ∈ o.values → Offers o (.str v)
  | several {vs : List String} : (∀ v ∈ vs, v ∈ o.values) → Offers o (.list (Value.texts vs))

theorem mem_values_of_asksYesNo {o : RenderedOptions} (h : o.AsksYesNo) {v : String} :
    v ∈ o.values ↔ v = "0" ∨ v = "1" := by
  obtain ⟨entries, rfl, hkeys⟩ := h
  exact hkeys v

theorem length_captions (o : RenderedOptions) : o.captions.length = o.values.length := by
  cases o with
  | flag | labels => rfl
  | mapping entries => simp [captions, values, OrderedMap.keys]

end RenderedOptions

theorem RenderedPrompt.isConfirm_iff {r : RenderedPrompt} : r.isConfirm = true ↔ r.options.AsksYesNo := by
  unfold isConfirm RenderedOptions.AsksYesNo
  cases r.options with
  | flag | labels => simp
  | mapping entries =>
    simp only [Bool.and_eq_true, List.all_eq_true, OrderedMap.contains_iff_mem_keys, RenderedOptions.mapping.injEq,
      exists_eq_left', Bool.or_eq_true, decide_eq_true_eq, and_assoc]
    constructor
    · rintro ⟨hall, hzero, hone⟩ k
      refine ⟨fun hk => ?_, ?_⟩
      · obtain ⟨e, he, rfl⟩ := List.mem_map.mp hk
        exact hall e he
      · rintro (rfl | rfl)
        · exact hzero
        · exact hone
    · intro h
      exact ⟨fun e he => (h e.1).mp (List.mem_map_of_mem he), (h _).mpr (.inl rfl), (h _).mpr (.inr rfl)⟩

namespace Task

variable {σ κ : Type}

theorem unambiguous_of_renderOptions {t : Task σ κ} {d : PromptDefinition} {item : Option String} {o : RenderedOptions}
    (hd : d.options.Unambiguous) (h : t.renderOptions d item = .ok o) : o.Unambiguous := by
  rintro entries rfl
  unfold renderOptions at h
  split at h
  · -- A template renders to labels, never to a mapping.
    next source _ =>
    cases hs : t.render source item with
    | error | ok => simp [hs, Except.map] at h
  · cases h
  · next heq =>
    cases h
    simpa only [heq, Options.staticLabels] using hd.labels
  · cases h

end Task

namespace Dialog

open Terminal

/-! ### Labels and values -/

theorem find?_zip_of_nodup {values labels : List String} (h : labels.Nodup) {i : Nat} {l v : String}
    (hl : labels[i]? = some l) (hv : values[i]? = some v) :
    (values.zip labels).find? (fun e => e.2 == l) = some (v, l) := by
  obtain ⟨hil, rfl⟩ := List.getElem?_eq_some_iff.mp hl
  obtain ⟨hiv, rfl⟩ := List.getElem?_eq_some_iff.mp hv
  refine List.find?_eq_some_iff_getElem.mpr ⟨beq_self_eq_true _, i, by simp; omega, by simp, fun j hj => ?_⟩
  have hjl : j < labels.length := hj.trans hil
  have hne : labels[j] ≠ labels[i] := fun heq => hj.ne (h.getElem_inj_iff.mp heq)
  simpa using hne

theorem find?_zip_self {xs : List String} {x : String} (h : x ∈ xs) :
    (xs.zip xs).find? (fun e => e.2 == x) = some (x, x) := by
  have hzip : xs.zip xs = xs.map fun y => (y, y) := by
    simpa using (List.zip_map' : (xs.map id).zip (xs.map id) = _)
  rw [hzip, List.find?_map]
  cases hfind : xs.find? ((fun e => e.2 == x) ∘ fun y => (y, y)) with
  | none => exact absurd (List.find?_eq_none.mp hfind x h) (by simp)
  | some y =>
    obtain rfl : y = x := by simpa using List.find?_some hfind
    rfl

/-- A value stands at the position of its label, and is found again by the label. -/
theorem valueOf_eq_ok {o : RenderedOptions} (h : o.Unambiguous) {i : Nat} {l v : String}
    (hl : o.captions[i]? = some l) (hv : o.values[i]? = some v) : valueOf o.values o.captions (.str l) = .ok v := by
  have hfind : (o.values.zip o.captions).find? (fun e => e.2 == l) = some (v, l) := by
    cases o with
    | flag => cases hl
    | labels xs =>
      -- Labels stand for themselves, so that it does not matter at which position one is found.
      obtain rfl : l = v := Option.some.inj (hl.symm.trans hv)
      exact find?_zip_self (List.mem_of_getElem? hl)
    | mapping entries => exact find?_zip_of_nodup (h entries rfl) hl hv
  simp only [valueOf, Value.same, Value.sameLeaf, hfind]

/-- The answers that are given to a prompt with options, with the lines that are left: "1" or "0" for a yes or a no, the
value at the position of the number that was read, or the values at the positions that were selected. -/
inductive Chosen (r : RenderedPrompt) (lines : List String) : Value → List String → Prop
  | confirmed {yes : Bool} {rest : List String} : r.options.AsksYesNo →
      ReadsTo (Says (r.default == some "1")) lines yes rest → Chosen r lines (.str (if yes then "1" else "0")) rest
  | single {i : Nat} {v : String} {rest : List String} : ¬ r.options.AsksYesNo → r.multiple = false →
      ReadsTo (IsNumber r.options.values.length) lines i rest → r.options.values[i]? = some v →
      Chosen r lines (.str v) rest
  | several {positions : List Nat} {vs rest : List String} : ¬ r.options.AsksYesNo → r.multiple = true →
      Selects r.ordered r.options.values.length lines positions rest →
      List.Forall₂ (fun i v => r.options.values[i]? = some v) positions vs →
      Chosen r lines (.list (Value.texts vs)) rest

variable {r : RenderedPrompt}

theorem performs_askRendered_of_asksYesNo (h : r.options.AsksYesNo) (hp : Legible r.prompt) :
    Performs [] (askRendered r) (Chosen r) := by
  unfold askRendered
  rw [if_pos (RenderedPrompt.isConfirm_iff.mpr h)]
  refine .congr (.returning (.map (performs_confirm hp _) _) fun _ => ⟨_, rfl⟩) fun lines a rest => ?_
  have htext : ∀ yes : Bool,
      (if (Value.bool (some yes = some true)).isTrue then "1" else "0") = if yes then "1" else "0" := by decide
  constructor
  · rintro ⟨_, ⟨_, ⟨yes, hyes, rfl⟩, rfl⟩, ha⟩
    rw [htext, Performs.pure_inj] at ha
    exact ha ▸ .confirmed h hyes
  · intro hchosen
    cases hchosen with
    | @confirmed yes _ _ hyes => exact ⟨_, ⟨_, ⟨yes, hyes, rfl⟩, rfl⟩, by rw [htext]⟩
    | single hn | several hn => exact absurd h hn

theorem askRendered_eq_choose (h : ¬ r.options.AsksYesNo) (hne : r.options.values ≠ []) :
    (askRendered r : Action Terminal Value) = choose r r.options.values r.options.captions := by
  unfold askRendered
  rw [if_neg (mt RenderedPrompt.isConfirm_iff.mp h)]
  cases ho : r.options with
  | flag => exact absurd (by rw [ho]; rfl) hne
  | labels xs =>
    rw [ho] at hne
    rw [if_neg (by simpa [RenderedPrompt.isFreeText, ho, RenderedOptions.values] using hne)]
    rfl
  | mapping es =>
    rw [ho] at hne
    rw [if_neg (by simpa [RenderedPrompt.isFreeText, ho, RenderedOptions.values, OrderedMap.keys] using hne)]
    rfl

theorem mapM_ofExcept {values labels ls vs : List String}
    (h : List.Forall₂ (fun l v => valueOf values labels (.str l) = .ok v) ls vs) :
    (Value.texts ls).mapM (fun c => (Action.ofExcept (valueOf values labels c) : Action Terminal String)) =
      pure vs := by
  induction h with
  | nil => rfl
  | @cons l v ls vs hl _ ih =>
    have hhead : (Action.ofExcept (valueOf values labels (.str l)) : Action Terminal String) = pure v := by
      rw [hl]
      rfl
    rw [Value.texts, List.map_cons, List.mapM_cons, hhead, pure_bind, ← Value.texts, ih, pure_bind]

/-- There is a label at each position of a value, and only there. -/
theorem exists_caption_iff {o : RenderedOptions} {i : Nat} :
    (∃ l, o.captions[i]? = some l) ↔ ∃ v, o.values[i]? = some v := by
  rw [← Option.isSome_iff_exists, ← Option.isSome_iff_exists, isSome_getElem?, isSome_getElem?, o.length_captions]

theorem performs_choose_single (ho : r.options.Unambiguous) (h : ¬ r.options.AsksYesNo) (hm : r.multiple = false)
    (haccepts : Accepts r.options.values.length) :
    Performs [numbered r.prompt r.options.captions] (choose r r.options.values r.options.captions) (Chosen r) := by
  have hanswer : ∀ {i : Nat} {l v : String}, r.options.captions[i]? = some l → r.options.values[i]? = some v →
      (Action.ofExcept (valueOf r.options.values r.options.captions (.str l)) >>= fun v => pure (.str v) :
        Action Terminal Value) = pure (.str v) := fun hl hv => by
    rw [valueOf_eq_ok ho hl hv]
    rfl
  unfold choose
  rw [if_neg (by simp [hm])]
  rw [← RenderedOptions.length_captions] at haccepts
  -- Captions and options stand at the same positions, so the caption that was selected leads back to its option.
  refine .congr (.returning (.map (performs_select haccepts) _) ?_) fun lines a rest => ⟨?_, fun hchosen => ?_⟩
  · rintro _ _ _ ⟨l, ⟨i, -, hl⟩, rfl⟩
    obtain ⟨v, hv⟩ := exists_caption_iff.mp ⟨l, hl⟩
    exact ⟨_, hanswer hl hv⟩
  · rintro ⟨_, ⟨l, ⟨i, hi, hl⟩, rfl⟩, ha⟩
    obtain ⟨v, hv⟩ := exists_caption_iff.mp ⟨l, hl⟩
    rw [hanswer hl hv, Performs.pure_inj] at ha
    rw [RenderedOptions.length_captions] at hi
    exact ha ▸ .single h hm hi hv
  · cases hchosen with
    | confirmed hn => exact absurd hn h
    | single _ _ hi hv =>
      obtain ⟨l, hl⟩ := exists_caption_iff.mpr ⟨_, hv⟩
      rw [← RenderedOptions.length_captions] at hi
      exact ⟨_, ⟨l, ⟨_, hi, hl⟩, rfl⟩, hanswer hl hv⟩
    | several _ hn => cases hm.symm.trans hn

/-- Labels and values that are picked at the same positions belong together. -/
theorem forall₂_valueOf {o : RenderedOptions} (ho : o.Unambiguous) {positions : List Nat}
    (h : ∀ i ∈ positions, i < o.values.length) :
    List.Forall₂ (fun l v => valueOf o.values o.captions (.str l) = .ok v) (picked o.captions positions)
      (picked o.values positions) := by
  rw [picked_eq_map h, picked_eq_map (by rwa [o.length_captions]), List.forall₂_map_left_iff,
    List.forall₂_map_right_iff, List.forall₂_same]
  intro i hi
  have hiv : i < o.values.length := h i hi
  have hic : i < o.captions.length := by rwa [o.length_captions]
  exact valueOf_eq_ok (i := i) ho (by simp [hic]) (by simp [hiv])

theorem performs_choose_several (ho : r.options.Unambiguous) (h : ¬ r.options.AsksYesNo) (hm : r.multiple = true) :
    Performs [numbered r.prompt r.options.captions] (choose r r.options.values r.options.captions) (Chosen r) := by
  have hanswer : ∀ {positions : List Nat}, (∀ i ∈ positions, i < r.options.values.length) →
      ((Value.texts (picked r.options.captions positions)).mapM
          (fun c => Action.ofExcept (valueOf r.options.values r.options.captions c)) >>=
        fun vs => pure (.list (vs.map .str)) : Action Terminal Value) =
      pure (.list (Value.texts (picked r.options.values positions))) := fun hlt => by
    rw [mapM_ofExcept (forall₂_valueOf ho hlt), pure_bind]
    rfl
  unfold choose
  rw [if_pos hm]
  -- Each caption that was picked leads back to its option, so the options come in the order of the captions.
  refine .congr (.returning (.map (performs_multiSelect _ _ _) _) ?_) fun lines a rest => ⟨?_, fun hchosen => ?_⟩
  · rintro _ _ _ ⟨_, ⟨positions, hpositions, rfl⟩, rfl⟩
    rw [RenderedOptions.length_captions] at hpositions
    exact ⟨_, hanswer hpositions.lt⟩
  · rintro ⟨_, ⟨_, ⟨positions, hpositions, rfl⟩, rfl⟩, ha⟩
    rw [RenderedOptions.length_captions] at hpositions
    obtain rfl := Performs.pure_inj.mp ((hanswer hpositions.lt).symm.trans ha)
    exact .several h hm hpositions ((picked_eq_iff hpositions.lt).mp rfl)
  · cases hchosen with
    | confirmed hn => exact absurd hn h
    | single _ hn => cases hm.symm.trans hn
    | several _ _ hpositions hvs =>
      obtain rfl := (picked_eq_iff hpositions.lt).mpr hvs
      have hread := hpositions
      rw [← RenderedOptions.length_captions] at hread
      exact ⟨_, ⟨_, ⟨_, hread, rfl⟩, rfl⟩, hanswer hpositions.lt⟩

/-! ### Options and answers -/

/-- Only values of options are answers. -/
theorem Chosen.offered {lines rest : List String} {answer : Value} (h : Chosen r lines answer rest) :
    r.options.Offers answer := by
  cases h with
  | @confirmed yes _ hyesno =>
    refine .one ((RenderedOptions.mem_values_of_asksYesNo hyesno).mpr ?_)
    cases yes with
    | true => exact .inr rfl
    | false => exact .inl rfl
  | single _ _ _ hv => exact .one (List.mem_of_getElem? hv)
  | several _ _ hpositions hvs =>
    refine .several fun v hv => ?_
    rw [← (picked_eq_iff hpositions.lt).mpr hvs] at hv
    obtain ⟨i, -, hv⟩ := List.mem_filterMap.mp hv
    exact List.mem_of_getElem? hv

/-- What is selected are the values at the numbers that were entered, and in the order that they were entered in if
there is no other. -/
theorem Chosen.selected {lines rest vs : List String} (hchosen : Chosen r lines (.list (Value.texts vs)) rest) :
    ∃ entered mid us, ReadsTo (IsNumbers r.options.values.length) lines entered mid ∧
      List.Forall₂ (fun i u => r.options.values[i]? = some u) entered us ∧ vs.Perm us ∧
      (r.ordered = false → vs = us ∧ rest = mid) := by
  generalize ha : Value.list (Value.texts vs) = answer at hchosen
  cases hchosen with
  | confirmed | single => cases ha
  | @several positions vs' _ _ _ hpositions hvs =>
    obtain rfl : vs = vs' := List.map_injective_iff.mpr (fun _ _ => Value.str.inj) (Value.list.inj ha)
    obtain rfl := (picked_eq_iff hpositions.lt).mpr hvs
    obtain ⟨entered, mid, hentered, hreordered⟩ := hpositions
    obtain ⟨_, hline⟩ := hentered.fits
    refine ⟨entered, mid, _, hentered, (picked_eq_iff hline.lt).mp rfl, hreordered.perm.filterMap _, fun hordered => ?_⟩
    cases hreordered with
    | kept => exact ⟨rfl, rfl⟩
    | declined ho | sorted ho => cases hordered.symm.trans ho

/-- Every value is chosen by some line. -/
theorem chosen_of_mem (haccepts : Accepts r.options.values.length) {v : String} (hv : v ∈ r.options.values) :
    ∃ line answer, Chosen r [line] answer [] ∧ (answer = .str v ∨ answer = .list [.str v]) := by
  obtain ⟨i, hi⟩ := List.mem_iff_getElem?.mp hv
  obtain ⟨hlt, -⟩ := List.getElem?_eq_some_iff.mp hi
  by_cases hyesno : r.options.AsksYesNo
  · rcases (RenderedOptions.mem_values_of_asksYesNo hyesno).mp hv with rfl | rfl
    · exact ⟨"n", _, .confirmed hyesno (readsTo_singleton (.no (by decide))), .inl rfl⟩
    · exact ⟨"y", _, .confirmed hyesno (readsTo_singleton (.yes (by decide))), .inl rfl⟩
  · cases hm : r.multiple with
    | false => exact ⟨_, _, .single hyesno hm (readsTo_singleton (isNumber_toString hlt)) hi, .inl rfl⟩
    | true =>
      have hselects : Selects r.ordered r.options.values.length [toString (i + 1)] [i] [] :=
        ⟨[i], [], readsTo_singleton (haccepts.isNumbers_toString hlt), .kept (by simp)⟩
      exact ⟨_, _, .several hyesno hm hselects (.cons hi .nil), .inr rfl⟩

/-! ### Prompts of profiles -/

/-- The table of choices that is shown first; a question that is answered by yes or no has none. -/
def choicesShown (r : RenderedPrompt) : List Event :=
  if r.isConfirm then [] else [numbered r.prompt r.options.captions]

theorem performs_askRendered (ho : r.options.Unambiguous) (hne : r.options.values ≠ []) (hp : Legible r.prompt)
    (haccepts : Accepts r.options.values.length) :
    Performs (choicesShown r) (askRendered r) (Chosen r) := by
  unfold choicesShown
  by_cases hyesno : r.options.AsksYesNo
  · rw [if_pos (RenderedPrompt.isConfirm_iff.mpr hyesno)]
    exact performs_askRendered_of_asksYesNo hyesno hp
  · rw [if_neg (mt RenderedPrompt.isConfirm_iff.mp hyesno), askRendered_eq_choose hyesno hne]
    cases hm : r.multiple with
    | false => exact performs_choose_single ho hyesno hm haccepts
    | true => exact performs_choose_several ho hyesno hm

variable {σ κ : Type}

/-- **The number chosen is the value recorded.** Let a prompt of an accepted profile have options when it is rendered. A
terminal shows their labels with numbers, and then it gives the values at the numbers that are entered, or runs out of
lines. Only values of options are given. Several ones come in the order of their numbers, or in another one if it may be
changed; and every value can be chosen. -/
theorem chosen_is_recorded {document : Value} {name : Option String} {p : Profile} {e : String × PromptDefinition}
    {task : Task σ κ} {item : Option String} (hp : Profile.ofDocument document name = .ok p) (he : e ∈ p.prompt)
    (hr : task.renderPrompt e.2 item = .ok r) (hne : r.options.values ≠ []) (hprompt : Legible r.prompt)
    (haccepts : Accepts r.options.values.length) :
    Performs (choicesShown r) (askRendered r) (Chosen r) ∧
      (∀ {lines answer rest}, Chosen r lines answer rest → r.options.Offers answer) ∧
      (∀ {lines vs rest}, Chosen r lines (.list (Value.texts vs)) rest →
        ∃ entered mid us, ReadsTo (IsNumbers r.options.values.length) lines entered mid ∧
          List.Forall₂ (fun i u => r.options.values[i]? = some u) entered us ∧ vs.Perm us ∧
          (r.ordered = false → vs = us ∧ rest = mid)) ∧
      ∀ v ∈ r.options.values, ∃ line answer,
        Chosen r [line] answer [] ∧ (answer = .str v ∨ answer = .list [.str v]) := by
  have ho : r.options.Unambiguous := Task.unambiguous_of_renderOptions
    ((Profile.accepted_of_ofDocument hp).options e he) (Task.renderPrompt_ok hr).2
  exact ⟨performs_askRendered ho hne hprompt haccepts, Chosen.offered, Chosen.selected,
    fun v hv => chosen_of_mem haccepts hv⟩

namespace Shop

/-- A document with a prompt of which several options can be chosen. -/
def document : Value :=
  .dict
    [(.str "prompt", .dict
      [(.str "sizes", .dict
        [(.str "prompt", .str "Which sizes?"),
         (.str "options", .dict [(.str "s", .str "Small"), (.str "m", .str "Medium"), (.str "l", .str "Large")]),
         (.str "multiple", .bool true), (.str "ordered", .bool true)])])]

/-- The prompt that it describes. -/
def sizes : PromptDefinition :=
  { prompt := "Which sizes?", options := .mapping [("s", "Small"), ("m", "Medium"), ("l", "Large")], multiple := true
    ordered := true }

/-- A task for the profile, without a database. -/
def task : Task Unit Unit :=
  { profile := { prompt := [("sizes", sizes)] }, targetDir := Path.ofString "/", engine := {}, workspace := {}
    source := (), connection := (), prompts := [.generic "sizes" sizes] }

/-- The prompt as it is asked. -/
def rendered : RenderedPrompt :=
  { prompt := "Which sizes?", options := .mapping [("s", "Small"), ("m", "Medium"), ("l", "Large")], multiple := true
    ordered := true }

end Shop

theorem chosen_is_recorded_sizes :
    Profile.ofDocument Shop.document = .ok Shop.task.profile ∧ Shop.task.renderPrompt Shop.sizes = .ok Shop.rendered ∧
      ∃ events, askRendered Shop.rendered (⟨["4", "3, 1", "y", "2,1", "more"], []⟩ : Terminal) =
        (.ok (.list [.str "s", .str "l"]), ⟨["more"], events⟩) := by
  have hdocument : Profile.ofDocument Shop.document = .ok Shop.task.profile := by decide +kernel
  have hrendered : Shop.task.renderPrompt Shop.sizes = .ok Shop.rendered := by decide +kernel
  have haccepts : Accepts 3 := by
    unfold Accepts
    decide
  have hnone : indexes? 3 "4" = none := by decide
  -- The first line names no choice; the selection that follows is reversed by the last line that is read.
  have hentered : ReadsTo (IsNumbers 3) ["4", "3, 1", "y", "2,1", "more"] [2, 0] ["y", "2,1", "more"] := by
    refine ⟨["4"], "3, 1", rfl, fun l hl b hb => ?_, indexes?_eq_some.mp (by decide)⟩
    obtain rfl := List.mem_singleton.mp hl
    cases hnone.symm.trans (indexes?_eq_some.mpr hb)
  have hyes : ReadsTo (Says false) ["y", "2,1", "more"] true ["2,1", "more"] := ⟨[], _, rfl, nofun, .yes (by decide)⟩
  have horder : ReadsTo (IsOrder 2) ["2,1", "more"] [1, 0] ["more"] := ⟨[], _, rfl, nofun, orderOf_eq_ok.mp (by decide)⟩
  have hreordered : Reordered true [2, 0] ["y", "2,1", "more"] ([1, 0].filterMap ([2, 0][·]?)) ["more"] :=
    .sorted rfl (by decide) hyes horder
  have hselects : Selects true 3 ["4", "3, 1", "y", "2,1", "more"] [0, 2] ["more"] := ⟨_, _, hentered, hreordered⟩
  have hyesno : ¬ Shop.rendered.options.AsksYesNo := mt RenderedPrompt.isConfirm_iff.mpr (by decide)
  have hperforms := (chosen_is_recorded hdocument List.mem_cons_self hrendered (by decide)
    (legible_of_not_mem (by decide)) haccepts).1
  obtain ⟨events, -, hrun⟩ := hperforms.returns (t := ⟨["4", "3, 1", "y", "2,1", "more"], []⟩)
    (.several hyesno rfl hselects (.cons rfl (.cons rfl .nil)))
  exact ⟨hdocument, hrendered, events, hrun⟩

end Dialog

end Stencil
