import Stencil.Proofs.Profile.Reading

namespace Stencil

/-!
# Mappings of options

The keys and labels of a mapping of options become texts when a profile is read. Different keys can have the same text;
their entries are merged into one, before anything is checked. So a mapping keeps all its entries exactly if the texts
of its keys differ.

* `Options.textsOf` — the entries of a mapping as texts;
* `Options.Merged`, `Options.merged_ofEntries` — which entries are left of them;
* `Options.readUnique_dict_eq_ok` — which mappings are options;
* `MapsOptions` — a document describes the options of a prompt by a mapping;
* `Profile.options_become_texts` — what the options of the prompt are then.
-/

/-! ### Entries as texts -/

namespace Options

/-- The entries of a mapping, with keys and labels as texts. -/
def textsOf (options : List (Value × Value)) : List (String × String) :=
  options.map fun e => (e.1.text, e.2.text)

/-- What is left of entries when they become texts: a key stands where its text occurs first, and has the label of the
last entry with this text. -/
structure Merged (options : List (Value × Value)) (m : OrderedMap String) : Prop where
  keys : m.keys = (options.map fun e => e.1.text).eraseDups
  label : ∀ before k v after, options = before ++ (k, v) :: after → (∀ e ∈ after, e.1.text ≠ k.text) →
    m.get? k.text = some v.text

variable {options : List (Value × Value)} {m : OrderedMap String}

theorem keys_textsOf (options : List (Value × Value)) :
    OrderedMap.keys (textsOf options) = options.map fun e => e.1.text := by
  rw [OrderedMap.keys, textsOf, List.map_map]
  rfl

theorem merged_ofEntries (options : List (Value × Value)) : Merged options (OrderedMap.ofEntries (textsOf options)) where
  keys := by
    rw [OrderedMap.keys_ofEntries]
    exact congrArg List.eraseDups (keys_textsOf options)
  label := by
    rintro before k v after rfl hlast
    have htexts : textsOf (before ++ (k, v) :: after) = textsOf before ++ (k.text, v.text) :: textsOf after := by
      simp [textsOf]
    rw [htexts]
    refine OrderedMap.get?_ofEntries_of_last fun e he => ?_
    obtain ⟨f, hf, rfl⟩ := List.mem_map.mp he
    exact hlast f hf

/-- A mapping is read as options if all its texts can be written and no two of the entries that are left have the same
label. -/
theorem readUnique_dict_eq_ok {o : Options} :
    readUnique (.dict options) = .ok o ↔
      (Value.dict options).hasLongNumber = false ∧ o = .mapping (OrderedMap.ofEntries (textsOf options)) ∧
        o.staticLabels.Nodup := by
  have hread : read (.dict options) = if (Value.dict options).hasLongNumber then .misfit "value_error"
      else .ok (.mapping (OrderedMap.ofEntries (textsOf options))) := rfl
  rw [readUnique, hread]
  cases (Value.dict options).hasLongNumber with
  | true => simp [Checked.misfit]
  | false =>
    simp only [Bool.false_eq_true, if_false, true_and]
    -- The labels are compared after entries with the same text as a key have been merged.
    by_cases hlabels : (Options.mapping (OrderedMap.ofEntries (textsOf options))).staticLabels.Nodup
    · rw [if_pos (by simpa using repeated_eq_nil.mpr hlabels), Checked.ok.injEq]
      exact ⟨fun h => ⟨h.symm, h ▸ hlabels⟩, fun h => h.1.symm⟩
    · rw [if_neg (by simpa using mt repeated_eq_nil.mp hlabels)]
      refine ⟨nofun, ?_⟩
      rintro ⟨rfl, h⟩
      exact absurd h hlabels

end Options

/-! ### Options in documents -/

/-- A document describes the options of a prompt by a mapping with some entries. If the keys of several definitions read
as the same id, the last of them is meant. -/
inductive MapsOptions : Value → String → List (Value × Value) → Prop where
  | intro {es before after fields options : List (Value × Value)} {key : Value} {id : String} :
    Value.lookup? es (.str "prompt") = some (.dict (before ++ (key, .dict fields) :: after)) →
    Document.text key = .ok id → (∀ e ∈ after, Document.text e.1 ≠ .ok id) →
    Value.lookup? fields (.str "options") = some (.dict options) → MapsOptions (.dict es) id options

namespace Document

/-- What is read of the last entry with a key is the value of the key. -/
theorem get?_mapping {α : Type} {read : Value → Checked α} {before after : List (Value × Value)} {key v : Value}
    {id : String} {m : OrderedMap α} (h : mapping read (.dict (before ++ (key, v) :: after)) = .ok m)
    (hkey : text key = .ok id) (hlast : ∀ e ∈ after, text e.1 ≠ .ok id) :
    ∃ a, m.get? id = some a ∧ read v = .ok a := by
  obtain ⟨entries, rfl, hentries⟩ := mapping_dict_eq_ok h
  obtain ⟨front, ⟨id', a⟩, rest, rfl, ⟨hid, ha⟩, hrest⟩ := forall₂_append_cons hentries
  obtain rfl : id = id' := Checked.ok.inj (hkey.symm.trans hid)
  refine ⟨a, OrderedMap.get?_ofEntries_of_last fun f hf => ?_, ha⟩
  obtain ⟨e, he, hread, -⟩ := exists_of_forall₂ hrest hf
  rintro rfl
  exact hlast e he hread

end Document

namespace Profile

/-- **Options become texts.** Let a document that is accepted describe the options of a prompt by a mapping. Then the
profile has this prompt, and its options are the entries of the mapping with keys and labels as texts, in order, where
entries whose keys have the same text are merged into one. So no entry is lost exactly if the texts of the keys differ.
All labels that are left differ. -/
theorem options_become_texts {document : Value} {name : Option String} {p : Profile} {id : String}
    {options : List (Value × Value)} (hp : ofDocument document name = .ok p) (h : MapsOptions document id options) :
    ∃ d m, p.prompt.get? id = some d ∧ d.options = .mapping m ∧ Options.Merged options m ∧ (m.map (·.2)).Nodup ∧
      (m = Options.textsOf options ↔ (options.map fun e => e.1.text).Nodup) := by
  obtain ⟨q, hread, rfl, -⟩ := ofDocument_eq_ok.mp hp
  obtain ⟨hprompts, hkey, hlast, hoptions⟩ := h
  obtain ⟨_, hes, -, hmapping, -⟩ := read_eq_ok hread
  obtain rfl := Value.dict.inj hes
  -- The definition was read from the last entry with the id, and its options from their field.
  obtain ⟨d, hget, hd⟩ := Document.get?_mapping (Document.optional_of_lookup? hprompts hmapping) hkey hlast
  obtain ⟨_, hfields, hfield⟩ := PromptDefinition.options_of_ofDocument hd
  obtain rfl := Value.dict.inj hfields
  obtain ⟨-, ho, hlabels⟩ := Options.readUnique_dict_eq_ok.mp (Document.optional_of_lookup? hoptions hfield)
  rw [ho] at hlabels
  refine ⟨d, _, by rwa [prompt_rename], ho, Options.merged_ofEntries _, hlabels, ?_⟩
  rw [OrderedMap.ofEntries_eq_self_iff, Options.keys_textsOf]

namespace Shop

/-- The fields of a prompt with a mapping of its options. -/
def sizeFields (options : List (Value × Value)) : List (Value × Value) :=
  [(.str "prompt", .str "Which size?"), (.str "options", .dict options)]

/-- A document with this prompt. -/
def optionsDocument (options : List (Value × Value)) : Value :=
  .dict [(.str "prompt", .dict [(.str "size", .dict (sizeFields options))])]

/-- The prompt that it describes. -/
def size (options : OrderedMap String) : PromptDefinition :=
  { prompt := "Which size?", options := .mapping options }

theorem mapsOptions_size (options : List (Value × Value)) :
    MapsOptions (optionsDocument options) "size" options := by
  refine @MapsOptions.intro _ [] [] (sizeFields options) options (.str "size") "size" ?_ rfl (by simp) ?_
  · simp [Value.lookup?, Value.same, Value.sameLeaf]
  · simp [sizeFields, Value.lookup?, Value.same, Value.sameLeaf]

end Shop

open Shop in
theorem options_become_texts_in_shop :
    ofDocument (optionsDocument [(.int 0, .bool false), (.int 1, .str "Large")]) =
      .ok { prompt := [("size", size [("0", "False"), ("1", "Large")])] } ∧
    Options.Merged [(.int 0, .bool false), (.int 1, .str "Large")] [("0", "False"), ("1", "Large")] := by
  have hp : ofDocument (optionsDocument [(.int 0, .bool false), (.int 1, .str "Large")]) =
      .ok { prompt := [("size", size [("0", "False"), ("1", "Large")])] } := by decide +kernel
  obtain ⟨d, m, hget, hm, hmerged, -⟩ := options_become_texts hp (mapsOptions_size _)
  obtain rfl : d = size [("0", "False"), ("1", "Large")] := (Option.some.inj hget).symm
  obtain rfl := Options.mapping.inj hm
  exact ⟨hp, hmerged⟩

open Shop in
/-- The number one and the text "1" are different keys with the same text. The first option is lost, and the document is
accepted. -/
theorem options_merged_in_shop :
    ∃ p d, ofDocument (optionsDocument [(.int 1, .str "Small"), (.str "1", .str "Large")]) = .ok p ∧
      MapsOptions (optionsDocument [(.int 1, .str "Small"), (.str "1", .str "Large")]) "size"
        [(.int 1, .str "Small"), (.str "1", .str "Large")] ∧
      p.prompt.get? "size" = some d ∧ d.options = .mapping [("1", "Large")] :=
  ⟨{ prompt := [("size", size [("1", "Large")])] }, size [("1", "Large")], by decide +kernel, mapsOptions_size _, rfl,
    rfl⟩

end Profile

end Stencil
