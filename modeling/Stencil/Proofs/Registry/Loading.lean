import Stencil.Proofs.Profile.Reading
import Stencil.Proofs.Registry.File

namespace Stencil

/-!
# Files that cannot be loaded

A profile or a registry is loaded from a file in stages: the bytes are read, they are decoded, the text is parsed, its
values are made, and the document is checked. A failure of the operating system, a malformed text and a document that
does not fit are reported as failures of the program itself. What else goes wrong is passed on as it is.

* `Profile.Unreadable`, `Registry.Unlisted` — what goes wrong in a file and is not reported as a failure of the program;
* `Profile.unreadable_iff` — what is passed on when a document is read;
* `Profile.load_ended`, `Registry.read_ended` — how a profile is loaded, and how the entries of a registry are read;
* `Registry.failures_of_loading` — how loading fails.
-/

namespace Disk

variable {d : Disk} {p : Path}

/-- The bytes of a file are not read because of the operating system, or because its path has a null character. -/
theorem read_eq_error {f : Foreign} (h : d.read p = .error f) :
    (∃ g, f = .file g) ∨ (f = .wrongValue ∧ ∃ name ∈ p.parts, '\x00' ∈ name.toList) := by
  unfold read entry locate at h
  -- The path is checked for null characters before anything is looked up.
  by_cases hnull : (p.parts.any fun name => name.toList.contains '\x00') = true
  · rw [if_pos hnull] at h
    cases h
    rw [List.any_eq_true] at hnull
    obtain ⟨name, hname, hmem⟩ := hnull
    exact .inr ⟨rfl, name, hname, List.contains_iff_mem.mp hmem⟩
  · rw [if_neg hnull] at h
    left
    split at h
    · cases h
      exact ⟨_, rfl⟩
    · cases hwalk : walk d.files (if p.isAbsolute then [] else d.current) p.parts with
      | error g =>
        simp only [hwalk, Except.mapError, bind, Except.bind] at h
        cases h
        exact ⟨g, rfl⟩
      | ok l =>
        simp only [hwalk, Except.mapError, bind, Except.bind] at h
        cases hget : d.files.get? l with
        | none =>
          rw [hget] at h
          cases h
          exact ⟨_, rfl⟩
        | some entry =>
          rw [hget] at h
          cases entry with
          | file b => cases h
          | directory =>
            cases h
            exact ⟨_, rfl⟩

/-- A path with a null character leads nowhere. -/
theorem read_of_null {name : String} (hname : name ∈ p.parts) (h : '\x00' ∈ name.toList) :
    d.read p = .error .wrongValue := by
  have hnull : (p.parts.any fun name => name.toList.contains '\x00') = true :=
    List.any_eq_true.mpr ⟨name, hname, List.contains_iff_mem.mpr h⟩
  rw [read, entry, locate, if_pos hnull]
  rfl

end Disk

namespace Profile

variable {d : Disk} {p : Path} {f : Foreign}

/-! ### Documents -/

/-- What goes wrong in a file and is not reported as a failure of the program: its path has a null character, its bytes
are not UTF-8, or its text is well-formed but has a value that cannot be made. -/
inductive Unreadable (d : Disk) (p : Path) : Foreign → Prop where
  | badPath {part : String} (hpart : part ∈ p.parts) (h : '\x00' ∈ part.toList) : Unreadable d p .wrongValue
  | notUnicode {b : ByteArray} (hread : d.read p = .ok b) (h : ¬ b.IsValidUTF8) : Unreadable d p .notUnicode
  | badValue {text : List Char} {f : Foreign} (hread : d.readText p = .ok text)
    (h : Yaml.load text = .error (.value f)) : Unreadable d p f

/-- The failures to read a document that are passed on as they are. -/
def passedOn? : Foreign ⊕ Yaml.Problem → Option Foreign
  | .inl (.file _) => none
  | .inl f => some f
  | .inr .malformed => none
  | .inr (.value f) => some f

theorem readDocument_of_error {g : Foreign} (h : d.readText p = .error g) : readDocument d p = .error (.inl g) := by
  rw [readDocument, h]
  rfl

theorem readDocument_of_ok {text : List Char} (h : d.readText p = .ok text) :
    readDocument d p = (Yaml.load text).mapError .inr := by
  rw [readDocument, h]
  rfl

/-- What is passed on are the failures that `Unreadable` lists. -/
theorem unreadable_iff : Unreadable d p f ↔ ∃ e, readDocument d p = .error e ∧ passedOn? e = some f := by
  -- The cases follow the stages: the bytes are read, then decoded, and the text has a value.
  constructor
  · intro h
    cases h with
    | badPath hpart h =>
      have htext : d.readText p = .error .wrongValue := Disk.readText_eq_error.mpr (.inl (Disk.read_of_null hpart h))
      exact ⟨_, readDocument_of_error htext, rfl⟩
    | notUnicode hread h =>
      have htext : d.readText p = .error .notUnicode := Disk.readText_eq_error.mpr (.inr ⟨_, hread, h, rfl⟩)
      exact ⟨_, readDocument_of_error htext, rfl⟩
    | badValue hread h =>
      refine ⟨.inr (.value f), ?_, rfl⟩
      rw [readDocument_of_ok hread, h]
      rfl
  · rintro ⟨e, he, hpassed⟩
    cases htext : d.readText p with
    | error g =>
      rw [readDocument_of_error htext] at he
      cases he
      rcases Disk.readText_eq_error.mp htext with herror | ⟨b, hread, hinvalid, rfl⟩
      · rcases Disk.read_eq_error herror with ⟨_, rfl⟩ | ⟨rfl, part, hpart, hnull⟩
        · cases hpassed
        · cases hpassed
          exact .badPath hpart hnull
      · cases hpassed
        exact .notUnicode hread hinvalid
    | ok text =>
      rw [readDocument_of_ok htext] at he
      cases hload : Yaml.load text with
      | ok v =>
        rw [hload] at he
        cases he
      | error problem =>
        rw [hload] at he
        cases he
        cases problem with
        | malformed => cases hpassed
        | value g =>
          cases hpassed
          exact .badValue htext hload

/-! ### Profiles -/

/-- A document that does not fit, or refers to what it does not define, is bad input. -/
theorem validation_of_ofDocument {v : Value} {name : Option String} {fault : Fault}
    (h : ofDocument v name = .error fault) : ∃ message invalid, fault = .validation message invalid := by
  unfold ofDocument at h
  cases hread : read v with
  | misfits ms =>
    rw [hread] at h
    cases h
    exact ⟨_, _, rfl⟩
  | ok q =>
    rw [hread] at h
    simp only [Checked.orFault, bind, Except.bind] at h
    cases hcheck : (q.rename name).checkReferences with
    | ok =>
      rw [hcheck] at h
      cases h
    | error e =>
      rw [hcheck] at h
      cases h
      unfold checkReferences at hcheck
      split at hcheck
      · cases hcheck
        exact ⟨_, _, rfl⟩
      · split at hcheck
        · cases hcheck
          exact ⟨_, _, rfl⟩
        · cases hcheck

theorem load_of_passedOn (name : Option String) {e : Foreign ⊕ Yaml.Problem} (h : readDocument d p = .error e)
    (hf : passedOn? e = some f) : load d p name = .error (.foreign f) := by
  rcases e with (_ | _) | (_ | _) <;> cases hf <;> simp only [load, h]

theorem load_of_reported (name : Option String) {e : Foreign ⊕ Yaml.Problem} (h : readDocument d p = .error e)
    (hf : passedOn? e = none) : ∃ message, load d p name = .error (.validation message) := by
  rcases e with (_ | _) | (_ | _) <;> cases hf <;> simp only [load, h] <;> exact ⟨_, rfl⟩

/-- A profile that is loaded refers to nothing that it does not define; a document that gives none is bad input. -/
theorem load_of_document (name : Option String) {v : Value} (h : readDocument d p = .ok v) :
    (∃ profile, load d p name = .ok profile ∧ profile.checkReferences = .ok ()) ∨
      ∃ message invalid, load d p name = .error (.validation message invalid) := by
  unfold load
  rw [h]
  dsimp only
  split
  · next entries =>
    cases hof : ofDocument (.dict entries) name with
    | ok profile =>
      obtain ⟨_, -, -, hreferences⟩ := ofDocument_eq_ok.mp hof
      exact .inl ⟨profile, rfl, hreferences⟩
    | error fault =>
      obtain ⟨message, invalid, rfl⟩ := validation_of_ofDocument hof
      exact .inr ⟨message, invalid, rfl⟩
  · exact .inr ⟨_, _, rfl⟩

/-- A profile is loaded, or the failure is bad input, or something that is passed on goes wrong in its file. -/
theorem load_ended (d : Disk) (p : Path) (name : Option String) :
    ((∃ profile, load d p name = .ok profile ∧ profile.checkReferences = .ok ()) ∨
      (∃ message invalid, load d p name = .error (.validation message invalid)) ∨
      ∃ f, load d p name = .error (.foreign f)) ∧
    ∀ f, load d p name = .error (.foreign f) ↔ Unreadable d p f := by
  simp only [unreadable_iff]
  cases hread : readDocument d p with
  | ok v =>
    refine ⟨(load_of_document name hread).imp_right .inl, fun f => ⟨fun h => ?_, nofun⟩⟩
    rcases load_of_document name hread with ⟨_, hok, -⟩ | ⟨_, _, herror⟩
    · cases hok.symm.trans h
    · cases herror.symm.trans h
  | error e =>
    cases hpassed : passedOn? e with
    | none =>
      obtain ⟨message, hreported⟩ := load_of_reported name hread hpassed
      refine ⟨.inr (.inl ⟨message, none, hreported⟩), fun f => ⟨fun h => ?_, ?_⟩⟩
      · cases hreported.symm.trans h
      · rintro ⟨e', he, hf⟩
        obtain rfl := Except.error.inj he
        cases hpassed.symm.trans hf
    | some g =>
      have hload := load_of_passedOn name hread hpassed
      refine ⟨.inr (.inr ⟨g, hload⟩), fun f => ⟨fun h => ⟨e, rfl, ?_⟩, ?_⟩⟩
      · cases hload.symm.trans h
        exact hpassed
      · rintro ⟨e', he, hf⟩
        obtain rfl := Except.error.inj he
        cases hpassed.symm.trans hf
        exact hload

end Profile

namespace Registry

variable {d : Disk} {file : Path} {w : Workspace} {asked : Option String}

/-! ### Registries -/

/-- What goes wrong in the file of a registry and is not reported as a failure of the program: the file is unreadable,
or the number for a name or a path is too long to be written. -/
inductive Unlisted (d : Disk) (file : Path) : Foreign → Prop where
  | unreadable {f : Foreign} (h : Profile.Unreadable d file f) : Unlisted d file f
  | longNumber {v : Value} (hread : Profile.readDocument d file = .ok v) (h : listsLongNumber v = true) :
    Unlisted d file .wrongValue

theorem read_of_passedOn {e : Foreign ⊕ Yaml.Problem} {f : Foreign} (h : Profile.readDocument d file = .error e)
    (hf : Profile.passedOn? e = some f) : read d file = .error (.foreign f) := by
  rcases e with (_ | _) | (_ | _) <;> cases hf <;> simp only [read, h]

theorem read_of_reported {e : Foreign ⊕ Yaml.Problem} (h : Profile.readDocument d file = .error e)
    (hf : Profile.passedOn? e = none) : ∃ message, read d file = .error (.init message) := by
  rcases e with (_ | _) | (_ | _) <;> cases hf <;> simp only [read, h] <;> exact ⟨_, rfl⟩

/-- The entries of a registry are read, or its file cannot be used, or something that is passed on goes wrong in it. -/
theorem read_ended (d : Disk) (file : Path) :
    ((∃ profiles, read d file = .ok profiles) ∨ (∃ message, read d file = .error (.init message)) ∨
      ∃ f, read d file = .error (.foreign f)) ∧
    ∀ f, read d file = .error (.foreign f) ↔ Unlisted d file f := by
  have hunlisted : ∀ {e f}, Profile.readDocument d file = .error e →
      (Unlisted d file f ↔ Profile.passedOn? e = some f) := by
    intro e f he
    constructor
    · rintro (hunreadable | ⟨hread, -⟩)
      · obtain ⟨e', he', hf⟩ := Profile.unreadable_iff.mp hunreadable
        obtain rfl := Except.error.inj (he.symm.trans he')
        exact hf
      · cases he.symm.trans hread
    · exact fun hf => .unreadable (Profile.unreadable_iff.mpr ⟨e, he, hf⟩)
  cases hread : Profile.readDocument d file with
  | ok v =>
    have hunlisted : ∀ {f}, Unlisted d file f ↔ listsLongNumber v = true ∧ f = .wrongValue := by
      intro f
      constructor
      · rintro (hunreadable | ⟨hread', hlong⟩)
        · obtain ⟨_, he, -⟩ := Profile.unreadable_iff.mp hunreadable
          cases hread.symm.trans he
        · obtain rfl := Except.ok.inj (hread.symm.trans hread')
          exact ⟨hlong, rfl⟩
      · rintro ⟨hlong, rfl⟩
        exact .longNumber hread hlong
    simp only [read, hread, hunlisted]
    cases listsLongNumber v with
    | true => simp [eq_comm]
    | false => simp
  | error e =>
    simp only [hunlisted hread]
    cases hpassed : Profile.passedOn? e with
    | none =>
      obtain ⟨message, hreported⟩ := read_of_reported hread hpassed
      rw [hreported]
      exact ⟨.inr (.inl ⟨message, rfl⟩), fun f => by simp⟩
    | some g =>
      rw [read_of_passedOn hread hpassed]
      exact ⟨.inr (.inr ⟨g, rfl⟩), fun f => by simp⟩

/-- **How loading fails.** A profile that is loaded refers to nothing that it does not define; a registry that is opened
on a file that is there changes nothing. The failures are those of the program itself, bad input for a profile and a
registry that cannot be used, unless something goes wrong in the file that is passed on as it is. -/
theorem failures_of_loading (w : Workspace) (file : Path) :
    (∀ name : Option String,
      ((∃ profile, Profile.load w.disk file name = .ok profile ∧ profile.checkReferences = .ok ()) ∨
        (∃ message invalid, Profile.load w.disk file name = .error (.validation message invalid)) ∨
        ∃ f, Profile.load w.disk file name = .error (.foreign f)) ∧
      ∀ f, Profile.load w.disk file name = .error (.foreign f) ↔ Profile.Unreadable w.disk file f) ∧
    ∀ asked : Option String, fileOf w asked = .ok file → w.disk.isEntry file = true →
      (ofFile asked w).2 = w ∧
      ((∃ profiles, (ofFile asked w).1 = .ok { file, profiles }) ∨
        (∃ message, (ofFile asked w).1 = .error (.init message)) ∨ ∃ f, (ofFile asked w).1 = .error (.foreign f)) ∧
      ∀ f, (ofFile asked w).1 = .error (.foreign f) ↔ Unlisted w.disk file f := by
  refine ⟨Profile.load_ended w.disk file, fun asked hfile hentry => ?_⟩
  obtain ⟨hended, hforeign⟩ := read_ended w.disk file
  simp only [ofFile_of_isEntry hfile hentry, ← hforeign, true_and]
  cases hread : read w.disk file with
  | ok profiles => exact ⟨.inl ⟨profiles, rfl⟩, fun f => ⟨nofun, nofun⟩⟩
  | error fault =>
    rw [hread] at hended
    simp only [Except.map, Except.error.injEq, reduceCtorEq, exists_false, false_or, implies_true, and_true] at hended ⊢
    exact hended

namespace Shop

/-- A workspace with two files: one has a date that does not exist, and one is not UTF-8. -/
def spoilt : Workspace :=
  { disk := { files := { entries :=
      [(["dated.yml"], .file "profile: \x7bname: 2024-99-99\x7d".toUTF8), (["bytes.yml"], .file ⟨#[233]⟩)] } } }

end Shop

theorem failures_of_loading_in_shop :
    fileOf Shop.spoilt (some "/dated.yml") = .ok (Path.ofString "/dated.yml") ∧
      Shop.spoilt.disk.isEntry (Path.ofString "/dated.yml") = true ∧
      Profile.load Shop.spoilt.disk (Path.ofString "/dated.yml") = .error (.foreign .wrongValue) ∧
      ofFile (some "/dated.yml") Shop.spoilt = (.error (.foreign .wrongValue), Shop.spoilt) := by
  have hfile : fileOf Shop.spoilt (some "/dated.yml") = .ok (Path.ofString "/dated.yml") := by decide +kernel
  have hentry : Shop.spoilt.disk.isEntry (Path.ofString "/dated.yml") = true := by decide +kernel
  have hread : Shop.spoilt.disk.readText (Path.ofString "/dated.yml") =
      .ok "profile: \x7bname: 2024-99-99\x7d".toList := by decide +kernel
  have hload : Yaml.load "profile: \x7bname: 2024-99-99\x7d".toList = .error (.value .wrongValue) := by
    have hevaluated : (match Yaml.load "profile: \x7bname: 2024-99-99\x7d".toList with
        | .error problem => decide (problem = .value .wrongValue)
        | .ok _ => false) = true := by decide +kernel
    split at hevaluated
    · next problem heq => rw [heq, of_decide_eq_true hevaluated]
    · cases hevaluated
  have hunreadable : Profile.Unreadable Shop.spoilt.disk (Path.ofString "/dated.yml") .wrongValue :=
    .badValue hread hload
  obtain ⟨hprofile, hregistry⟩ := failures_of_loading Shop.spoilt (Path.ofString "/dated.yml")
  obtain ⟨hsame, -, hforeign⟩ := hregistry (some "/dated.yml") hfile hentry
  exact ⟨hfile, hentry, ((hprofile none).2 _).mpr hunreadable,
    Prod.ext ((hforeign _).mpr (.unreadable hunreadable)) hsame⟩

/-- A file that is not UTF-8 is reported neither as bad input nor as a registry that cannot be used. -/
theorem not_unicode_in_shop :
    Profile.load Shop.spoilt.disk (Path.ofString "/bytes.yml") = .error (.foreign .notUnicode) ∧
      (ofFile (some "/bytes.yml") Shop.spoilt).1 = .error (.foreign .notUnicode) := by
  decide +kernel

end Registry

end Stencil
