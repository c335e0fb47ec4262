import Stencil.Proofs.Profile.Reading

namespace Stencil

/-!
# Profiles survive their documents

The document of a profile has one entry for each field, in which absent texts are left out. Reading takes each field
from its entry, or its default where there is none, so it finds the profile again: this holds of all profiles that
could have been read in the first place, and of no others.

* `Document.optional_of_some`, `Document.optional_of_none`, `Document.required_of_some` — reading a field of a written
  record;
* `Options.readUnique_toDocument`, `PromptDefinition.ofDocument_toDocument`, `TargetDefinition.ofDocument_toDocument`,
  `ProfileConfig.ofDocument_toDocument` — every part is read as what was written;
* `Profile.ofDocument_toDocument_iff` — a profile survives its document exactly if it is an accepted one.
-/

open Document

/-! ### Values of documents -/

namespace Yaml.Tree

theorem itemValues_eq (xs : List Tree) : itemValues xs = xs.map toValue := by
  induction xs with
  | nil => rfl
  | cons x xs ih => rw [itemValues, ih, List.map_cons]

theorem pairValues_eq (ps : List (String × Tree)) : pairValues ps = ps.map fun e => (.str e.1, e.2.toValue) := by
  induction ps with
  | nil => rfl
  | cons p ps ih => rw [pairValues, ih, List.map_cons]

/-- An entry of a written mapping is found under its key. -/
theorem lookup?_pairValues (ps : List (String × Tree)) (key : String) :
    Value.lookup? (pairValues ps) (.str key) = (OrderedMap.get? ps key).map toValue := by
  induction ps with
  | nil => rfl
  | cons p ps ih =>
    obtain ⟨k, t⟩ := p
    have hcons : Value.lookup? ((.str k, t.toValue) :: pairValues ps) (.str key) =
        if key = k then some t.toValue else Value.lookup? (pairValues ps) (.str key) := by
      by_cases h : key = k
      · simp [Value.lookup?, Value.same, Value.sameLeaf, h]
      · simp [Value.lookup?, Value.same, Value.sameLeaf, h, Ne.symm h]
    rw [pairValues, hcons, ih, OrderedMap.get?_cons]
    split <;> rfl

end Yaml.Tree

/-! ### Fields of written records -/

namespace Document

variable {α : Type} {ps : List (String × Yaml.Tree)} {name : String} {read : Value → Checked α}

theorem record_map (ps : List (String × Yaml.Tree)) (read : List (Value × Value) → Checked α) :
    record (Yaml.Tree.map ps).toValue read = read (Yaml.Tree.pairValues ps) := rfl

/-- A field is read from its entry. -/
theorem optional_of_some {names : List String} {default a : α} {t : Yaml.Tree} (hget : OrderedMap.get? ps name = some t)
    (h : read t.toValue = .ok a) : optional (Yaml.Tree.pairValues ps) (name :: names) default read = .ok a := by
  simp [optional, fieldAt?, Yaml.Tree.lookup?_pairValues, hget, h]

/-- A field without an entry has its default. -/
theorem optional_of_none {default : α} (hget : OrderedMap.get? ps name = none) :
    optional (Yaml.Tree.pairValues ps) [name] default read = .ok default := by
  simp [optional, fieldAt?, Yaml.Tree.lookup?_pairValues, hget]

/-- A field that must be there is read from its entry. -/
theorem required_of_some {t : Yaml.Tree} {a : α} (hget : OrderedMap.get? ps name = some t)
    (h : read t.toValue = .ok a) : Document.required (Yaml.Tree.pairValues ps) name read = .ok a := by
  simp [Document.required, fieldAt?, Yaml.Tree.lookup?_pairValues, hget, h]

/-- A text that may be absent is read as it was written. -/
theorem optional_text? {o : Option String} (hget : OrderedMap.get? ps name = o.map .text) :
    optional (Yaml.Tree.pairValues ps) [name] none text? = .ok o := by
  cases o with
  | none => exact optional_of_none hget
  | some s => exact optional_of_some hget rfl

theorem required_text {s : String} (hget : OrderedMap.get? ps name = some (.text s)) :
    Document.required (Yaml.Tree.pairValues ps) name text = .ok s :=
  required_of_some hget rfl

theorem optional_text {names : List String} {default s : String} (hget : OrderedMap.get? ps name = some (.text s)) :
    optional (Yaml.Tree.pairValues ps) (name :: names) default text = .ok s :=
  optional_of_some hget rfl

theorem optional_truth {default b : Bool} (hget : OrderedMap.get? ps name = some (.bool b)) :
    optional (Yaml.Tree.pairValues ps) [name] default truth = .ok b :=
  optional_of_some hget rfl

theorem get?_optionalField (key : String) (o : Option String) (other : String) :
    OrderedMap.get? (optionalField key o) other = if other = key then o.map .text else none := by
  cases o with
  | none => simp [optionalField]
  | some s => simp [optionalField, OrderedMap.get?_cons]

/-! ### Lists and mappings of texts -/

theorem items_text (start : Nat) (xs : List String) : Checked.items text start (xs.map .str) = .ok xs := by
  induction xs generalizing start with
  | nil => rfl
  | cons x xs ih => simp [Checked.items, text, ih]

theorem texts_textSeq (xs : List String) : texts (textSeq xs).toValue = .ok xs := by
  rw [textSeq, Yaml.Tree.toValue, Yaml.Tree.itemValues_eq, List.map_map]
  exact items_text 0 xs

/-- A mapping is read as it was written if each of its values is. -/
theorem entries_pairs {write : α → Yaml.Tree} {m : List (String × α)}
    (h : ∀ e ∈ m, read (write e.2).toValue = .ok e.2) :
    entries read (Yaml.Tree.pairValues (m.map fun e => (e.1, write e.2))) = .ok m := by
  induction m with
  | nil => rfl
  | cons e m ih =>
    rw [List.forall_mem_cons] at h
    simp [Yaml.Tree.pairValues, entries, text, h.1, ih h.2]

theorem mapping_pairs {write : α → Yaml.Tree} {m : OrderedMap α} (hn : m.keys.Nodup)
    (h : ∀ e ∈ m, read (write e.2).toValue = .ok e.2) :
    mapping read (Yaml.Tree.map (m.map fun e => (e.1, write e.2))).toValue = .ok m := by
  rw [Yaml.Tree.toValue, mapping, entries_pairs h]
  exact congrArg Checked.ok (OrderedMap.ofEntries_of_nodup hn)

end Document

/-! ### Options -/

namespace Options

/-- Unambiguous options are read as they were written. -/
theorem readUnique_toDocument {o : Options} (h : o.Unambiguous) : readUnique o.toDocument.toValue = .ok o := by
  have hread : read o.toDocument.toValue = .ok o := by
    cases o with
    | flag b => rfl
    | template s => rfl
    | labels xs =>
      -- The labels are read as texts of texts, none of which is a number that is too long.
      have hlong : (Value.list (xs.map .str)).hasLongNumber = false := by
        simp [Value.hasLongNumber, Value.anyPart, Value.isLongNumber, Value.anyPartOf_eq_any]
      have htexts : (xs.map Value.str).map Value.text = xs := by simp [Function.comp_def, Value.text]
      have hvalue : (textSeq xs).toValue = .list (xs.map .str) := by
        rw [textSeq, Yaml.Tree.toValue, Yaml.Tree.itemValues_eq, List.map_map]
        rfl
      simp only [toDocument, hvalue, read, hlong, htexts, Bool.false_eq_true, if_false]
    | mapping es =>
      have hlong : (Value.dict (es.map fun e => (.str e.1, .str e.2))).hasLongNumber = false := by
        simp [Value.hasLongNumber, Value.anyPart, Value.isLongNumber, Value.anyPartOfEntries_eq_any]
      have htexts : (es.map fun e => (Value.str e.1, Value.str e.2)).map (fun e => (e.1.text, e.2.text)) = es := by
        simp [Function.comp_def, Value.text]
      have hvalue : (Options.mapping es).toDocument.toValue = .dict (es.map fun e => (.str e.1, .str e.2)) := by
        rw [toDocument, Yaml.Tree.toValue, Yaml.Tree.pairValues_eq, List.map_map]
        rfl
      simp only [hvalue, read, hlong, htexts, Bool.false_eq_true, if_false]
      rw [OrderedMap.ofEntries_of_nodup (h.values es rfl)]
  rw [readUnique, hread]
  simp [repeated_eq_nil.mpr h.labels]

end Options

/-! ### The parts of a profile -/

theorem PromptDefinition.ofDocument_toDocument {d : PromptDefinition} (h : d.options.Unambiguous) :
    ofDocument d.toDocument.toValue = .ok d := by
  -- Once every field has been read, what is left is that each of them stands under its key.
  rw [ofDocument, toDocument, record_map, optional_text? (o := d.condition), optional_text? (o := d.enumerate),
    required_text (s := d.prompt), optional_of_some (t := d.options.toDocument) _ (Options.readUnique_toDocument h),
    optional_truth (b := d.multiple), optional_truth (b := d.ordered), optional_truth (b := d.required),
    optional_text? (o := d.default)]
  · rfl
  all_goals simp [OrderedMap.get?_append, OrderedMap.get?_cons, get?_optionalField]

theorem TargetDefinition.ofDocument_toDocument (d : TargetDefinition) : ofDocument d.toDocument.toValue = .ok d := by
  rw [ofDocument, toDocument, record_map, optional_text? (o := d.condition), required_text (s := d.template),
    required_text (s := d.target), optional_text? (o := d.formatter)]
  · rfl
  all_goals simp [OrderedMap.get?_append, OrderedMap.get?_cons, get?_optionalField]

theorem ProfileConfig.ofDocument_toDocument (c : ProfileConfig) : ofDocument c.toDocument.toValue = .ok c := by
  rw [ofDocument, toDocument, record_map, optional_text (s := c.name), optional_text (s := c.envFile),
    optional_text (s := c.envVar), optional_text (s := c.dsn), optional_text (s := c.targetDir),
    optional_text (s := c.templatesDir), optional_text (s := c.scriptsDir),
    optional_of_some _ (texts_textSeq c.prompts), optional_of_some _ (texts_textSeq c.targets)]
  · rfl
  all_goals simp [OrderedMap.get?_cons]

namespace Profile

theorem read_toDocument {p : Profile} (h : Accepted p) : read p.toDocument.toValue = .ok p := by
  have hprompts := mapping_pairs h.prompts fun e he => PromptDefinition.ofDocument_toDocument (h.options e he)
  have htargets := mapping_pairs h.targets fun e _ => TargetDefinition.ofDocument_toDocument e.2
  rw [read, toDocument, record_map, optional_of_some _ (ProfileConfig.ofDocument_toDocument p.config),
    optional_of_some _ hprompts, optional_of_some _ htargets]
  · rfl
  all_goals simp [OrderedMap.get?_cons]

/-- A profile survives its document exactly if it is an accepted one. -/
theorem ofDocument_toDocument_iff {p : Profile} : ofDocument p.toDocument.toValue = .ok p ↔ Accepted p :=
  ⟨accepted_of_ofDocument, fun h => ofDocument_eq_ok.mpr ⟨p, read_toDocument h, rfl, h.references⟩⟩

end Profile

end Stencil
