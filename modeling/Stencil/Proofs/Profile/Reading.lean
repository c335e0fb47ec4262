import Mathlib.Data.List.Forall2
import Mathlib.Data.List.Nodup
import Stencil.Profile.Document
import Stencil.Proofs.OrderedMap

namespace Stencil

/-!
# What an accepted profile is like

A document is accepted only if all its parts fit, and what was read of them then satisfies more than its type says:
no two options of a prompt have the same label, no id is defined twice, and every listed id is defined.

* `Checked.seq_eq_ok`, `Checked.map_eq_ok` — a combination of parts is read exactly if all parts are;
* `Document.entries_eq_ok_iff` — entries are read one by one;
* `Options.Unambiguous` — every label stands for one option, and every value for one label;
* `Profile.Accepted` — what is known of a profile that was read;
* `Profile.accepted_of_ofDocument` — every document that is accepted gives such a profile;
* `Profile.Closed`, `Profile.checkReferences_eq_ok` — every listed id is defined, which is what is checked.
-/

namespace Checked

variable {α β : Type}

@[simp] theorem pure_eq (a : α) : (pure a : Checked α) = .ok a := rfl

@[simp] theorem map_ok (f : α → β) (a : α) : f <$> (.ok a : Checked α) = .ok (f a) := rfl

@[simp] theorem seq_ok (f : α → β) (a : α) : (.ok f : Checked (α → β)) <*> .ok a = .ok (f a) := rfl

@[simp] theorem under_ok (key : String) (a : α) : (Checked.ok a).under key = .ok a := rfl

theorem map_eq_ok {f : α → β} {x : Checked α} {b : β} : f <$> x = .ok b ↔ ∃ a, x = .ok a ∧ f a = b := by
  cases x with
  | ok a => simp
  | misfits ms =>
    rw [show f <$> (.misfits ms : Checked α) = .misfits ms from rfl]
    simp

/-- A combination of two parts is read exactly if both parts are. -/
theorem seq_eq_ok {f : Checked (α → β)} {x : Checked α} {b : β} :
    f <*> x = .ok b ↔ ∃ g a, f = .ok g ∧ x = .ok a ∧ g a = b := by
  cases f with
  | ok g =>
    cases x with
    | ok a => simp
    | misfits ms =>
      rw [show (.ok g : Checked (α → β)) <*> .misfits ms = .misfits ms from rfl]
      simp
  | misfits ms =>
    cases x with
    | ok a =>
      rw [show (.misfits ms : Checked (α → β)) <*> .ok a = .misfits ms from rfl]
      simp
    | misfits ns =>
      rw [show (.misfits ms : Checked (α → β)) <*> .misfits ns = .misfits (ms ++ ns) from rfl]
      simp

theorem under_eq_ok {key : String} {x : Checked α} {a : α} : x.under key = .ok a ↔ x = .ok a := by
  cases x <;> simp [under]

end Checked

/-! ### Fields and entries -/

namespace Document

section Forall₂

variable {α β : Type} {R : α → β → Prop} {xs ys : List α} {zs : List β}

/-- Every member of a list has a counterpart. -/
theorem exists_of_forall₂ (h : List.Forall₂ R xs zs) {z : β} (hz : z ∈ zs) : ∃ x ∈ xs, R x z := by
  induction h with
  | nil => simp at hz
  | @cons x w xs zs hx _ ih =>
    rcases List.mem_cons.mp hz with rfl | hz
    · exact ⟨x, List.mem_cons_self, hx⟩
    · obtain ⟨y, hy, hyz⟩ := ih hz
      exact ⟨y, List.mem_cons_of_mem _ hy, hyz⟩

/-- A member inside a list has a counterpart at its place. -/
theorem forall₂_append_cons {y : α} (h : List.Forall₂ R (xs ++ y :: ys) zs) :
    ∃ front z rest, zs = front ++ z :: rest ∧ R y z ∧ List.Forall₂ R ys rest := by
  induction xs generalizing zs with
  | nil =>
    obtain ⟨z, rest, hz, hrest, rfl⟩ := List.forall₂_cons_left_iff.mp h
    exact ⟨[], z, rest, rfl, hz, hrest⟩
  | cons x xs ih =>
    obtain ⟨w, zs, -, hzs, rfl⟩ := List.forall₂_cons_left_iff.mp h
    obtain ⟨front, z, rest, rfl, hz, hrest⟩ := ih hzs
    exact ⟨w :: front, z, rest, rfl, hz, hrest⟩

end Forall₂

variable {α : Type} {es : List (Value × Value)}

/-- A field that was read has its default, or it was read from a value. -/
theorem optional_eq_ok {names : List String} {default a : α} {read : Value → Checked α}
    (h : optional es names default read = .ok a) : a = default ∨ ∃ v, read v = .ok a := by
  unfold optional at h
  split at h
  · exact .inr ⟨_, Checked.under_eq_ok.mp h⟩
  · exact .inl (Checked.ok.inj h).symm

/-- A field that is there was read from its value. -/
theorem optional_of_lookup? {name : String} {default a : α} {v : Value} {read : Value → Checked α}
    (hv : Value.lookup? es (.str name) = some v) (h : optional es [name] default read = .ok a) : read v = .ok a := by
  rw [optional, fieldAt?, hv] at h
  exact Checked.under_eq_ok.mp h

/-- Entries are read one by one, and their keys as texts. -/
theorem entries_eq_ok_iff {read : Value → Checked α} {m : List (String × α)} :
    entries read es = .ok m ↔
      List.Forall₂ (fun e f => text e.1 = .ok f.1 ∧ read e.2 = .ok f.2) es m := by
  induction es generalizing m with
  | nil =>
    rw [List.forall₂_nil_left_iff]
    exact ⟨fun h => (Checked.ok.inj h).symm, fun h => h ▸ rfl⟩
  | cons e es ih =>
    obtain ⟨k, v⟩ := e
    simp only [entries, Checked.seq_eq_ok, Checked.map_eq_ok, Checked.under_eq_ok, ih]
    constructor
    · rintro ⟨_, rest, ⟨_, a, ⟨key, hkey, rfl⟩, ha, rfl⟩, hrest, rfl⟩
      exact .cons ⟨hkey, ha⟩ hrest
    · rintro (_ | ⟨⟨hkey, ha⟩, hrest⟩)
      exact ⟨_, _, ⟨_, _, ⟨_, hkey, rfl⟩, ha, rfl⟩, hrest, rfl⟩

/-- Every entry that was read was read from a value. -/
theorem entries_eq_ok {read : Value → Checked α} {m : List (String × α)} (h : entries read es = .ok m) :
    ∀ e ∈ m, ∃ v, read v = .ok e.2 := by
  intro f hf
  obtain ⟨e, -, -, hread⟩ := exists_of_forall₂ (entries_eq_ok_iff.mp h) hf
  exact ⟨e.2, hread⟩

/-- A mapping is read as the map of its entries. -/
theorem mapping_dict_eq_ok {read : Value → Checked α} {m : OrderedMap α} (h : mapping read (.dict es) = .ok m) :
    ∃ entries : List (String × α), m = OrderedMap.ofEntries entries ∧
      List.Forall₂ (fun e f => text e.1 = .ok f.1 ∧ read e.2 = .ok f.2) es entries := by
  obtain ⟨entries, hentries, rfl⟩ := Checked.map_eq_ok.mp h
  exact ⟨entries, rfl, entries_eq_ok_iff.mp hentries⟩

/-- A mapping that was read has every key once, and its values were read. -/
theorem mapping_eq_ok {read : Value → Checked α} {v : Value} {m : OrderedMap α} (h : mapping read v = .ok m) :
    m.keys.Nodup ∧ ∀ e ∈ m, ∃ v, read v = .ok e.2 := by
  unfold mapping at h
  split at h
  · obtain ⟨entries, hentries, rfl⟩ := Checked.map_eq_ok.mp h
    refine ⟨OrderedMap.nodup_keys_ofEntries entries, fun e he => ?_⟩
    exact entries_eq_ok hentries e (OrderedMap.mem_of_mem_ofEntries he)
  · cases h

end Document

/-! ### Options -/

/-- Every label stands for one option, and every value has one label. -/
structure Options.Unambiguous (o : Options) : Prop where
  labels : o.staticLabels.Nodup
  values : ∀ es : OrderedMap String, o = Options.mapping es → es.keys.Nodup

theorem repeated_eq_nil {xs : List String} : repeated xs = [] ↔ xs.Nodup := by
  rw [repeated, List.filter_eq_nil_iff, List.nodup_iff_count_le_one]
  constructor
  · intro h a
    by_cases ha : a ∈ xs
    · simpa using h a ha
    · simp [List.count_eq_zero_of_not_mem ha]
  · intro h a _
    simpa using h a

namespace Options

/-- Only a mapping reads as one, and of its keys, which become texts, each is there once. -/
theorem nodup_of_read {v : Value} {es : OrderedMap String} (h : read v = .ok (.mapping es)) : es.keys.Nodup := by
  cases v with
  | dict entries =>
    simp only [read] at h
    split at h
    · cases h
    · cases h
      exact OrderedMap.nodup_keys_ofEntries _
  | list | tuple =>
    simp only [read] at h
    split at h <;> cases h
  | bool | str | markup => cases h
  | _ =>
    -- A value that is neither a collection nor a text has no reading as a mapping at all.
    simp only [read] at h
    split at h
    · cases h
    · cases h
    · cases h
    · obtain ⟨_, _, -, hdict, -⟩ := Checked.seq_eq_ok.mp h
      cases hdict

theorem unambiguous_of_readUnique {v : Value} {o : Options} (h : readUnique v = .ok o) : o.Unambiguous := by
  unfold readUnique at h
  cases hr : read v with
  | misfits ms =>
    rw [hr] at h
    cases h
  | ok o' =>
    simp only [hr] at h
    split at h
    · rename_i hlabels
      cases h
      refine ⟨repeated_eq_nil.mp (List.isEmpty_iff.mp hlabels), fun es he => ?_⟩
      exact nodup_of_read (he ▸ hr)
    · cases h

end Options

/-! ### Profiles -/

namespace PromptDefinition

/-- The options of a prompt are read from their field. -/
theorem options_of_ofDocument {v : Value} {d : PromptDefinition} (h : ofDocument v = .ok d) :
    ∃ es, v = .dict es ∧ Document.optional es ["options"] (.flag false) Options.readUnique = .ok d.options := by
  unfold ofDocument Document.record at h
  split at h
  · simp only [Checked.seq_eq_ok, Checked.map_eq_ok] at h
    obtain ⟨_, _, ⟨_, _, ⟨_, _, ⟨_, _, ⟨_, options, ⟨_, _, ⟨_, _, ⟨_, -, rfl⟩, -, rfl⟩, -, rfl⟩, hoptions, rfl⟩,
      -, rfl⟩, -, rfl⟩, -, rfl⟩, -, rfl⟩ := h
    exact ⟨_, rfl, hoptions⟩
  · cases h

/-- The options of a prompt that was read are unambiguous. -/
theorem unambiguous_of_ofDocument {v : Value} {d : PromptDefinition} (h : ofDocument v = .ok d) :
    d.options.Unambiguous := by
  obtain ⟨es, -, hoptions⟩ := options_of_ofDocument h
  rcases Document.optional_eq_ok hoptions with hdefault | ⟨v, hv⟩
  · rw [hdefault]
    exact ⟨List.nodup_nil, fun es he => by cases he⟩
  · exact Options.unambiguous_of_readUnique hv

end PromptDefinition

namespace Profile

/-- What is known of a profile that was read: no id is defined twice, options are unambiguous, and every id that is
listed is defined. -/
structure Accepted (p : Profile) : Prop where
  prompts : p.prompt.keys.Nodup
  targets : p.target.keys.Nodup
  options : ∀ e ∈ p.prompt, e.2.options.Unambiguous
  references : p.checkReferences = .ok ()

/-- The parts of a profile are read from their fields. -/
theorem read_eq_ok {v : Value} {p : Profile} (h : read v = .ok p) :
    ∃ es, v = .dict es ∧ Document.optional es ["profile", "config"] {} ProfileConfig.ofDocument = .ok p.config ∧
      Document.optional es ["prompt"] [] (Document.mapping PromptDefinition.ofDocument) = .ok p.prompt ∧
      Document.optional es ["target"] [] (Document.mapping TargetDefinition.ofDocument) = .ok p.target := by
  unfold read Document.record at h
  split at h
  · simp only [Checked.seq_eq_ok, Checked.map_eq_ok] at h
    obtain ⟨_, targets, ⟨_, prompts, ⟨config, hconfig, rfl⟩, hprompts, rfl⟩, htargets, rfl⟩ := h
    exact ⟨_, rfl, hconfig, hprompts, htargets⟩
  · cases h

theorem definitions_of_read {v : Value} {p : Profile} (h : read v = .ok p) :
    p.prompt.keys.Nodup ∧ p.target.keys.Nodup ∧ ∀ e ∈ p.prompt, e.2.options.Unambiguous := by
  obtain ⟨es, -, -, hprompts, htargets⟩ := read_eq_ok h
  refine ⟨?_, ?_, ?_⟩
  · rcases Document.optional_eq_ok hprompts with hdefault | ⟨v, hv⟩
    · rw [hdefault]
      exact List.nodup_nil
    · exact (Document.mapping_eq_ok hv).1
  · rcases Document.optional_eq_ok htargets with hdefault | ⟨v, hv⟩
    · rw [hdefault]
      exact List.nodup_nil
    · exact (Document.mapping_eq_ok hv).1
  · rcases Document.optional_eq_ok hprompts with hdefault | ⟨v, hv⟩
    · simp [hdefault]
    · intro e he
      obtain ⟨v, hv⟩ := (Document.mapping_eq_ok hv).2 e he
      exact PromptDefinition.unambiguous_of_ofDocument hv

theorem ofDocument_eq_ok {v : Value} {name : Option String} {p : Profile} :
    ofDocument v name = .ok p ↔ ∃ q, read v = .ok q ∧ q.rename name = p ∧ p.checkReferences = .ok () := by
  -- The document is read, the profile is renamed, and only then its references are checked.
  have hunfold : ofDocument v name = (read v).orFault >>= fun q =>
    (q.rename name).checkReferences >>= fun _ => .ok (q.rename name) := rfl
  rw [hunfold]
  cases read v with
  | misfits ms => simp [Checked.orFault, bind, Except.bind]
  | ok q =>
    show (q.rename name).checkReferences >>= (fun _ => .ok (q.rename name)) = .ok p ↔ _
    constructor
    · intro h
      cases hc : (q.rename name).checkReferences with
      | error e =>
        rw [hc] at h
        cases h
      | ok =>
        rw [hc] at h
        cases h
        exact ⟨q, rfl, rfl, hc⟩
    · rintro ⟨_, hq, rfl, hc⟩
      obtain rfl := Checked.ok.inj hq
      rw [hc]
      rfl

@[simp] theorem prompt_rename (p : Profile) (name : Option String) : (p.rename name).prompt = p.prompt := by
  unfold rename
  split
  · split <;> rfl
  · rfl

@[simp] theorem target_rename (p : Profile) (name : Option String) : (p.rename name).target = p.target := by
  unfold rename
  split
  · split <;> rfl
  · rfl

/-- Every document that is accepted gives a profile of which all this is known. -/
theorem accepted_of_ofDocument {v : Value} {name : Option String} {p : Profile} (h : ofDocument v name = .ok p) :
    Accepted p := by
  obtain ⟨q, hr, rfl, href⟩ := ofDocument_eq_ok.mp h
  obtain ⟨hprompts, htargets, hoptions⟩ := definitions_of_read hr
  refine ⟨?_, ?_, ?_, href⟩
  · rwa [prompt_rename]
  · rwa [target_rename]
  · rwa [prompt_rename]

/-- Every id that a profile lists is defined. -/
structure Closed (p : Profile) : Prop where
  prompts : ∀ id ∈ p.config.prompts, ∃ d, p.prompt.get? id = some d
  targets : ∀ id ∈ p.config.targets, ∃ t, p.target.get? id = some t

theorem filter_undefined_eq_nil {α : Type} {m : OrderedMap α} {ids : List String} :
    ids.filter (fun id => !m.contains id) = [] ↔ ∀ id ∈ ids, ∃ a, m.get? id = some a := by
  simp only [List.filter_eq_nil_iff, Bool.not_eq_true', Bool.not_eq_false, OrderedMap.contains_iff_get?]

/-- The check of the references of a profile succeeds exactly if the profile is closed. -/
theorem checkReferences_eq_ok {p : Profile} : p.checkReferences = .ok () ↔ p.Closed := by
  have hclosed : p.Closed ↔ p.undefinedPrompts = [] ∧ p.undefinedTargets = [] := by
    rw [undefinedPrompts, undefinedTargets, filter_undefined_eq_nil, filter_undefined_eq_nil]
    exact ⟨fun h => ⟨h.prompts, h.targets⟩, fun h => ⟨h.1, h.2⟩⟩
  rw [hclosed, checkReferences]
  by_cases hprompts : p.undefinedPrompts = []
  · by_cases htargets : p.undefinedTargets = [] <;> simp [hprompts, htargets]
  · simp [hprompts]

/-- Every prompt that is listed has a definition. -/
theorem get?_of_checkReferences {p : Profile} (h : p.checkReferences = .ok ()) {id : String}
    (hid : id ∈ p.config.prompts) : ∃ d, p.prompt.get? id = some d :=
  (checkReferences_eq_ok.mp h).prompts id hid

end Profile

end Stencil
