import Stencil.Proofs.Task.Preset
import Stencil.Proofs.Task.Rejection

namespace Stencil

/-!
# Answers that are required

A prompt that is required does not take a blank answer. A list is blank only if it has no items, whatever these are;
a mapping is blank if one of its answers is, at any depth.

* `Value.Blank`, `Value.CarriesText` — the answers that a required prompt rejects, and those with a text in them;
* `Value.isBlank_iff`, `Value.isBlank_ofFields` — what the check finds;
* `Task.answer_fields` — a mapping is recorded as a whole or not at all;
* `Task.required_answer` — what becomes of an answer to a prompt that is required.
-/

/-! ### Blank answers -/

namespace Value

/-- An answer that a required prompt rejects: nothing, a text of blanks, no items at all, no entries at all, or a
mapping of which an answer is blank. -/
inductive Blank : Value → Prop where
  | nothing : Blank .none
  | blanks {s : String} (h : ∀ c ∈ s.toList, Text.isBlank c = true) : Blank (.str s)
  | noItems : Blank (.list [])
  | noParts : Blank (.tuple [])
  | noEntries : Blank (.dict [])
  | entry {entries : List (Value × Value)} {e : Value × Value} (he : e ∈ entries) (h : Blank e.2) :
    Blank (.dict entries)

/-- An answer with a text in it: a text that is not all blanks, a list of which an item carries text, or a mapping
that has entries, each of which carries text. -/
inductive CarriesText : Value → Prop where
  | text {s : String} {c : Char} (hc : c ∈ s.toList) (h : Text.isBlank c = false) : CarriesText (.str s)
  | item {items : List Value} {v : Value} (hv : v ∈ items) (h : CarriesText v) : CarriesText (.list items)
  | entries {entries : List (Value × Value)} (hne : entries ≠ []) (h : ∀ e ∈ entries, CarriesText e.2) :
    CarriesText (.dict entries)

theorem hasBlank_iff {entries : List (Value × Value)} :
    hasBlank entries = true ↔ ∃ e ∈ entries, e.2.isBlank = true := by
  induction entries with
  | nil => simp [hasBlank]
  | cons e entries ih =>
    obtain ⟨k, v⟩ := e
    rw [hasBlank, Bool.or_eq_true, ih, List.exists_mem_cons_iff]

theorem isBlank_dict {entries : List (Value × Value)} :
    (Value.dict entries).isBlank = true ↔ entries = [] ∨ ∃ e ∈ entries, e.2.isBlank = true := by
  rw [isBlank, Bool.or_eq_true, List.isEmpty_iff, hasBlank_iff]

theorem isBlank_str {s : String} : (Value.str s).isBlank = true ↔ ∀ c ∈ s.toList, Text.isBlank c = true := by
  rw [isBlank, List.isEmpty_iff, Text.trim_eq_nil]

/-- A mapping from texts is blank if it is empty or one of its answers is blank. -/
theorem isBlank_ofFields {fields : OrderedMap Value} :
    (ofFields fields).isBlank = true ↔ fields = [] ∨ ∃ e ∈ fields, e.2.isBlank = true := by
  rw [ofFields, isBlank_dict, List.map_eq_nil_iff]
  simp only [List.mem_map, exists_exists_and_eq_and]

/-- The entries of a mapping are smaller than the mapping. -/
theorem sizeOf_entry_lt {entries : List (Value × Value)} {e : Value × Value} (he : e ∈ entries) :
    sizeOf e.2 < sizeOf (Value.dict entries) := by
  have hentry : sizeOf e < sizeOf entries := List.sizeOf_lt_of_mem he
  obtain ⟨k, v⟩ := e
  rw [Prod.mk.sizeOf_spec] at hentry
  rw [Value.dict.sizeOf_spec]
  show sizeOf v < 1 + sizeOf entries
  omega

theorem blank_of_isBlank {v : Value} (h : v.isBlank = true) : v.Blank := by
  -- The induction is on the size: a mapping is blank because of an entry, which is smaller.
  induction hsize : sizeOf v using Nat.strong_induction_on generalizing v with
  | h n ih =>
    cases v with
    | none => exact .nothing
    | str s => exact .blanks (isBlank_str.mp h)
    | list items =>
      obtain rfl : items = [] := by simpa [isBlank] using h
      exact .noItems
    | tuple items =>
      obtain rfl : items = [] := by simpa [isBlank] using h
      exact .noParts
    | dict entries =>
      rcases isBlank_dict.mp h with rfl | ⟨e, he, hblank⟩
      · exact .noEntries
      · exact .entry he (ih _ (hsize ▸ sizeOf_entry_lt he) hblank rfl)
    | _ => simp [isBlank] at h

theorem isBlank_iff {v : Value} : v.isBlank = true ↔ v.Blank := by
  refine ⟨blank_of_isBlank, fun h => ?_⟩
  induction h with
  | nothing | noItems | noParts | noEntries => rfl
  | blanks h => exact isBlank_str.mpr h
  | entry he _ ih => exact isBlank_dict.mpr (.inr ⟨_, he, ih⟩)

/-- An answer with a text in it is not blank. -/
theorem CarriesText.not_blank {v : Value} (h : v.CarriesText) : ¬ v.Blank := by
  induction h with
  | text hc h =>
    rintro (_ | hall)
    cases h.symm.trans (hall _ hc)
  | item hv =>
    intro hblank
    cases hblank
    cases hv
  | entries hne _ ih =>
    intro hblank
    cases hblank with
    | noEntries => exact hne rfl
    | entry he hblank => exact ih _ he hblank

end Value

/-! ### Answers to prompts that are required -/

namespace Task

variable {σ κ : Type} [Source σ κ] {t t' : Task σ κ} {id : String} {d : PromptDefinition} {v : Value}
  {r : Except Fault Unit}

/-- The failure for a blank answer to a prompt that is required. -/
def valueRequired (id : String) : Fault :=
  .validation ("Invalid answer to prompt " ++ id ++ ": a value is required")

theorem answer_of_blank (hd : d.required = true) (hv : v.Blank) :
    answer (.generic id d) v t = (.error (valueRequired id), t) :=
  Taken.perform_of_error (c := .answer (.generic id d) v) (.blank hd (Value.isBlank_iff.mpr hv))

/-- An answer that is not blank, or need not be, is recorded; it is accepted if the context is bound as soon as it can
be. -/
theorem answer_of_not_blank (hv : d.required = true → ¬ v.Blank) (h : answer (.generic id d) v t = (r, t')) :
    t'.answers = t.answers.put id v ∧ (Settled t → r = .ok ()) := by
  have hfirst : Taken t (.answer (.generic id d) v) (.ok ()) { t with answers := t.answers.put id v } := by
    refine .recorded fun hd => ?_
    rw [Bool.eq_false_iff]
    exact mt Value.isBlank_iff.mp (hv hd)
  have hsecond := updateContext_updated { t with answers := t.answers.put id v }
  obtain ⟨rfl, rfl⟩ := Prod.mk.inj (h.symm.trans (hfirst.perform_of_ok hsecond))
  refine ⟨hsecond.answers_eq, fun hset => ?_⟩
  rcases hr : (updateContext { t with answers := t.answers.put id v }).1 with e | ⟨⟩
  · -- Only a context that could have been bound before the call keeps it from being accepted.
    rw [hr] at hsecond
    obtain ⟨hkept, hcut⟩ := hsecond.cutShort (t := t) (p := .generic id d)
    exact absurd hset (hcut.not_settled (hfirst.applied.of_kept hkept) hkept.context)
  · rfl

/-- A mapping is recorded as a whole or, if one is required and an answer in it is blank, not at all. -/
theorem answer_fields {fields : OrderedMap Value} (hne : fields ≠ [])
    (h : answer (.generic id d) (Value.ofFields fields) t = (r, t')) :
    (d.required = true → (∃ e ∈ fields, e.2.isBlank = true) → r = .error (valueRequired id) ∧ t' = t) ∧
      ((d.required = true → ∀ e ∈ fields, e.2.isBlank = false) →
        t'.answers = t.answers.put id (Value.ofFields fields)) := by
  constructor
  · intro hd hblank
    have hrejected : answer (.generic id d) (Value.ofFields fields) t = (.error (valueRequired id), t) :=
      answer_of_blank hd (Value.isBlank_iff.mp (Value.isBlank_ofFields.mpr (.inr hblank)))
    obtain ⟨hr, ht⟩ := Prod.mk.inj (h.symm.trans hrejected)
    exact ⟨hr, ht⟩
  · intro hfilled
    refine (answer_of_not_blank (fun hd hblank => ?_) h).1
    rcases Value.isBlank_ofFields.mp (Value.isBlank_iff.mpr hblank) with hnil | ⟨e, he, hblank⟩
    · exact hne hnil
    · cases hblank.symm.trans (hfilled hd e he)

/-- What is passed over has the empty text on record, whether it is required or not. -/
theorem answers_of_skip (h : skip (.generic id d) t = (r, t')) : t'.answers = t.answers.put id (.str "") := by
  have hanswers : ((Call.skip (.generic id d)).perform t).2.answers = t.answers.put id (.str "") :=
    (Call.skip (.generic id d)).answers_perform t
  have hperform : (Call.skip (.generic id d)).perform t = (r, t') := h
  rwa [hperform] at hanswers

/-- **What is required must not be blank.** A blank answer is rejected, and the task is as it was. Any other answer is
recorded as it is, in particular one that carries text, and every list that has items. A pair of which nothing but
blanks follows the equals sign gives a blank answer; if there are commas among the blanks, it gives a list of empty
texts, which is recorded. -/
theorem required_answer (hd : d.required = true) (h : answer (.generic id d) v t = (r, t')) :
    (v.Blank → r = .error (valueRequired id) ∧ t' = t) ∧
    (¬ v.Blank → t'.answers = t.answers.put id v ∧ (Settled t → r = .ok ())) ∧
    (v.CarriesText → ¬ v.Blank) ∧
    (∀ items, v = .list items → (v.Blank ↔ items = [])) ∧
    ∀ key value : List Char, '=' ∉ key → (∀ c ∈ value, Text.isBlank c = true ∨ c = ',') →
      Preset.parse (.ofList (key ++ '=' :: value)) = .ok (id, v) →
      (v.Blank ↔ ',' ∉ value) ∧ (',' ∈ value → v = .list (List.replicate (value.count ',' + 1) (.str ""))) := by
  refine ⟨fun hv => ?_, fun hv => answer_of_not_blank (fun _ => hv) h, Value.CarriesText.not_blank, ?_, ?_⟩
  · obtain ⟨rfl, rfl⟩ := Prod.mk.inj (h.symm.trans (answer_of_blank hd hv))
    exact ⟨rfl, rfl⟩
  · rintro items rfl
    rw [← Value.isBlank_iff, Value.isBlank, List.isEmpty_iff]
  · intro key value hkey hvalue hparse
    -- A pair that is read has a key.
    have hne : Text.trim key ≠ [] := by
      intro htrim
      rw [Preset.parse, String.toList_ofList, Text.cut_of_not_mem hkey] at hparse
      simp [htrim] at hparse
    obtain ⟨-, rfl⟩ := Prod.mk.inj (Except.ok.inj (hparse.symm.trans (Preset.parse_pair hkey hne)))
    by_cases hcomma : ',' ∈ value
    · rw [Preset.answer_eq_of_comma hcomma hvalue]
      refine ⟨⟨fun hblank => ?_, fun hn => absurd hcomma hn⟩, fun _ => rfl⟩
      rw [List.replicate_succ] at hblank
      cases hblank
    · refine ⟨⟨fun _ => hcomma, fun _ => ?_⟩, fun hc => absurd hc hcomma⟩
      rw [Preset.answer_of_not_mem hcomma]
      refine .blanks fun c hc => ?_
      rw [String.toList_ofList] at hc
      refine (hvalue c hc).resolve_right fun heq => ?_
      exact hcomma (heq ▸ hc)

theorem required_answer_in_shop :
    ∃ (t : Task Memory String) (rest : Workspace × Memory),
      start (Shop.setup none) ({}, Shop.memory "shop") = (.ok t, rest) ∧ Shop.title.required = true ∧
      answer (.generic "title" Shop.title) (.dict [(.str "orders", .str "Orders"), (.str "customers", .str " ")]) t =
        (.error (valueRequired "title"), t) := by
  obtain ⟨t, rest, h⟩ : ∃ (t : Task Memory String) (rest : Workspace × Memory),
      start (Shop.setup none) ({}, Shop.memory "shop") = (.ok t, rest) := ⟨_, _, rfl⟩
  have hblank : (Value.dict [(.str "orders", .str "Orders"), (.str "customers", .str " ")]).Blank :=
    Value.isBlank_iff.mp rfl
  rcases hanswer : answer (.generic "title" Shop.title)
    (.dict [(.str "orders", .str "Orders"), (.str "customers", .str " ")]) t with ⟨r, t'⟩
  obtain ⟨rfl, rfl⟩ := (required_answer (d := Shop.title) rfl hanswer).1 hblank
  exact ⟨t', rest, h, rfl, hanswer⟩

/-- A list of empty texts carries no text. It is an answer all the same, as a pair with a comma gives it. -/
theorem empty_texts_recorded_in_shop :
    ∃ (t t' : Task Memory String) (rest : Workspace × Memory),
      start (Shop.setup none) ({}, Shop.memory "shop") = (.ok t, rest) ∧ Shop.title.required = true ∧
      Preset.parse "title=," = .ok ("title", .list [.str "", .str ""]) ∧
      ¬ (Value.list [.str "", .str ""]).CarriesText ∧
      answer (.generic "title" Shop.title) (.list [.str "", .str ""]) t = (.ok (), t') ∧
      t'.answers = [("title", .list [.str "", .str ""])] := by
  have h : start (Shop.setup none) (({} : Workspace), Shop.memory "shop") = (.ok _, _) := rfl
  have htextless : ¬ (Value.list [.str "", .str ""]).CarriesText := by
    intro hcarries
    cases hcarries with
    | item hv hcarries =>
      obtain rfl : _ = Value.str "" := by simpa using hv
      cases hcarries with
      | text hc => simp at hc
  exact ⟨_, _, _, h, rfl, rfl, htextless, rfl, rfl⟩

end Task

end Stencil
