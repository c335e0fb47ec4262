import Mathlib.Data.List.Forall2
import Stencil.Helper.Script
import Stencil.Proofs.Files.Climbing

namespace Stencil

/-!
# Disks that differ in the contents of files

Paths are followed and directories are created without a look at what is in files. So disks with the same directories and
files tell nothing of what is in the files, unless one is read.

* `Disk.IsScriptAt` — the location of a helper script;
* `Disk.Alike` — disks that differ at most in the contents of files that are no helper scripts;
* `Disk.Alike.locate`, `Disk.Alike.isDirectory` — paths lead to the same locations;
* `Disk.Alike.makeDirectories` — directories are created alike.
-/

namespace Disk

/-! ### Alike disks -/

/-- The name at a location is that of a helper script. -/
def IsScriptAt (l : Location) : Prop :=
  ∃ name, l.getLast? = some name ∧ Script.isScript name = true

/-- Entries of a location that differ at most in the content of a file, which is no helper script. -/
def AlikeAt (l : Location) (e e' : Entry) : Prop :=
  e' = e ∨ ¬ IsScriptAt l ∧ ∃ b b', e = .file b ∧ e' = .file b'

/-- Disks that differ at most in the contents of files that are no helper scripts. -/
structure Alike (d d' : Disk) : Prop where
  current : d'.current = d.current
  runnable : d'.files.runnable = d.files.runnable
  entries : List.Forall₂ (fun e e' => e'.1 = e.1 ∧ AlikeAt e.1 e.2 e'.2) d.files.entries d'.files.entries

variable {d d' : Disk} {p : Path} {l : Location}

theorem AlikeAt.directory_iff {e e' : Entry} (h : AlikeAt l e e') : e' = .directory ↔ e = .directory := by
  rcases h with rfl | ⟨-, b, b', rfl, rfl⟩
  · exact Iff.rfl
  · exact ⟨nofun, nofun⟩

@[refl] theorem Alike.refl (d : Disk) : Alike d d :=
  ⟨rfl, rfl, List.forall₂_same.mpr fun _ _ => ⟨rfl, .inl rfl⟩⟩

theorem lookup_alike {es es' : List (Location × Entry)}
    (h : List.Forall₂ (fun e e' => e'.1 = e.1 ∧ AlikeAt e.1 e.2 e'.2) es es') (l : Location) :
    es.lookup l = none ∧ es'.lookup l = none ∨ ∃ e e', es.lookup l = some e ∧ es'.lookup l = some e' ∧ AlikeAt l e e' := by
  induction h with
  | nil => exact .inl ⟨rfl, rfl⟩
  | @cons e e' es es' he _ ih =>
    obtain ⟨k, v⟩ := e
    obtain ⟨k', v'⟩ := e'
    obtain ⟨rfl, hv⟩ := he
    rw [List.lookup_cons, List.lookup_cons]
    cases hk : l == k' with
    | true =>
      obtain rfl := eq_of_beq hk
      exact .inr ⟨v, v', rfl, rfl, hv⟩
    | false => exact ih

/-- At every location there is something on both disks, or on none. -/
theorem Alike.get?_cases (h : Alike d d') (l : Location) :
    d.files.get? l = none ∧ d'.files.get? l = none ∨
      ∃ e e', d.files.get? l = some e ∧ d'.files.get? l = some e' ∧ AlikeAt l e e' := by
  unfold FileSystem.get?
  split
  · exact .inr ⟨_, _, rfl, rfl, .inl rfl⟩
  · exact lookup_alike h.entries l

theorem Alike.get?_eq_directory (h : Alike d d') (l : Location) :
    d'.files.get? l = some .directory ↔ d.files.get? l = some .directory := by
  rcases h.get?_cases l with ⟨hl, hl'⟩ | ⟨e, e', hl, hl', he⟩
  · rw [hl, hl']
  · rw [hl, hl', Option.some.injEq, Option.some.injEq, he.directory_iff]

/-- A change of both disks leaves them alike. -/
theorem Alike.set (h : Alike d d') (l : Location) (e : Entry) :
    Alike { d with files := d.files.set l e } { d' with files := d'.files.set l e } where
  current := h.current
  runnable := h.runnable
  entries := by
    -- The new entry is the same on both disks, and the old entries at its place are taken out of both.
    refine .cons ⟨rfl, .inl rfl⟩ ?_
    have hentries := h.entries
    generalize d.files.entries = es, d'.files.entries = es' at hentries ⊢
    induction hentries with
    | nil => exact .nil
    | @cons e e' es es' he _ ih =>
      by_cases hk : e.1 = l
      · rw [List.filter_cons_of_neg (by simp [hk]), List.filter_cons_of_neg (by simp [he.1, hk])]
        exact ih
      · rw [List.filter_cons_of_pos (by simp [hk]), List.filter_cons_of_pos (by simp [he.1, hk])]
        exact .cons he ih

/-! ### Paths -/

theorem Alike.walk_eq (h : Alike d d') (from_ : Location) (names : List String) :
    walk d'.files from_ names = walk d.files from_ names := by
  induction names generalizing from_ with
  | nil => rfl
  | cons name names ih =>
    rw [walk, walk]
    rcases h.get?_cases from_ with ⟨hl, hl'⟩ | ⟨e, e', hl, hl', rfl | ⟨-, b, b', rfl, rfl⟩⟩
    · rw [hl, hl']
    · rw [hl, hl']
      simp only [ih]
    · rw [hl, hl']

theorem Alike.locate_eq (h : Alike d d') (p : Path) : d'.locate p = d.locate p := by
  unfold locate
  rw [h.walk_eq, h.current]

theorem Alike.isDirectory_eq (h : Alike d d') (p : Path) : d'.isDirectory p = d.isDirectory p := by
  rw [Bool.eq_iff_iff, isDirectory_eq_true, isDirectory_eq_true]
  simp only [h.locate_eq, h.get?_eq_directory]

/-- What stands at the end of a path is the same, if it is a directory or a helper script. -/
theorem Alike.entry_eq (h : Alike d d') (hp : ∀ l, d.locate p = .ok l → IsScriptAt l) : d'.entry p = d.entry p := by
  unfold entry
  rw [h.locate_eq]
  cases hl : d.locate p with
  | error f => rfl
  | ok l =>
    simp only [bind, Except.bind]
    rcases h.get?_cases l with ⟨he, he'⟩ | ⟨e, e', he, he', rfl | ⟨hno, -⟩⟩
    · rw [he, he']
    · rw [he, he']
    · exact absurd (hp l hl) hno

/-! ### Creating directories -/

/-- Two results are alike disks, or the same failure. -/
def AlikeResults : Except Foreign Disk → Except Foreign Disk → Prop
  | .ok d, .ok d' => Alike d d'
  | .error f, .error f' => f' = f
  | _, _ => False

theorem Alike.makeDirectory (h : Alike d d') (p : Path) : AlikeResults (d.makeDirectory p) (d'.makeDirectory p) := by
  unfold Disk.makeDirectory
  rw [h.locate_eq]
  cases hl : d.locate p with
  | error f => rfl
  | ok l =>
    simp only [bind, Except.bind]
    rcases h.get?_cases l with ⟨he, he'⟩ | ⟨e, e', he, he', -⟩
    · rw [he, he']
      exact h.set l .directory
    · rw [he, he']
      rfl

theorem Alike.ensureDirectory (h : Alike d d') (p : Path) :
    AlikeResults (d.ensureDirectory p) (d'.ensureDirectory p) := by
  have hmake := h.makeDirectory p
  unfold Disk.ensureDirectory
  rw [h.isDirectory_eq]
  cases hm : d.makeDirectory p <;> cases hm' : d'.makeDirectory p <;> rw [hm, hm'] at hmake
  · obtain rfl := hmake
    split
    · next heq => cases heq
    · split
      · exact h
      · rfl
    · rfl
  · cases hmake
  · cases hmake
  · exact hmake

variable {otherwise : ExceptT Foreign (StateM Disk) Unit}

theorem Alike.ensureOr (h : Alike d d') (hotherwise : Action.Ends Alike (· = ·) (otherwise d) (otherwise d')) :
    Action.Ends Alike (· = ·) (ensureOr p otherwise d) (ensureOr p otherwise d') := by
  have hensure := h.ensureDirectory p
  rw [ensureOr_apply, ensureOr_apply]
  cases he : d.ensureDirectory p <;> cases he' : d'.ensureDirectory p <;> rw [he, he'] at hensure
  · obtain rfl := hensure
    split
    · next heq => cases heq
    · exact hotherwise
    · exact .error _ h
  · cases hensure
  · cases hensure
  · exact .ok rfl hensure

theorem Alike.makeDirectoriesUpTo (h : Alike d d') (depth : Nat) (p : Path) :
    Action.Ends Alike (· = ·) (makeDirectoriesUpTo depth p d) (makeDirectoriesUpTo depth p d') := by
  induction depth generalizing p d d' with
  | zero => exact h.ensureOr (.error _ h)
  | succ depth ih =>
    refine h.ensureOr ?_
    split
    · exact .error _ h
    · exact (ih h p.parent).bind fun _ _ _ _ _ h₁ => h₁.ensureOr (.error _ h₁)

/-- Directories are created alike. -/
theorem Alike.makeDirectories (h : Alike d d') (p : Path) :
    Action.Ends Alike (· = ·) (makeDirectories p d) (makeDirectories p d') :=
  h.makeDirectoriesUpTo maxNewDirectories p

/-! ### Helper scripts -/

theorem isScript_ne_dots {name : String} (h : Script.isScript name = true) : name ≠ ".." := by
  rintro rfl
  exact absurd h (by decide)

/-- A path whose last name is that of a helper script leads to the location of one. -/
theorem isScriptAt_of_locate {file : String} (hlast : p.parts.getLast? = some file) (hfile : Script.isScript file = true)
    (h : d.locate p = .ok l) : IsScriptAt l := by
  obtain ⟨names, hnames⟩ := List.getLast?_eq_some_iff.mp hlast
  rw [locate_eq_place h, place, hnames, lead_append, lead_singleton, if_neg (isScript_ne_dots hfile)]
  exact ⟨file, List.getLast?_concat, hfile⟩

theorem Alike.below_eq (h : Alike d d') (l : Location) :
    (d'.files.below l).map (·.1) = (d.files.below l).map (·.1) := by
  have hentries := h.entries
  unfold FileSystem.below
  generalize d.files.entries = es, d'.files.entries = es' at hentries ⊢
  induction hentries with
  | nil => rfl
  | @cons e e' es es' he _ ih =>
    rw [List.filter_cons, List.filter_cons]
    simp only [he.1]
    split
    · rw [List.map_cons, List.map_cons, ih, he.1]
    · exact ih

/-- The helper scripts in a directory are the same. -/
theorem Alike.scriptNames_eq (h : Alike d d') (dir : Path) : Script.names d' dir = Script.names d dir := by
  have hinside : ∀ l : Location, (d'.files.below l).map (fun e => e.1.drop l.length) =
      (d.files.below l).map fun e => e.1.drop l.length := fun l => by
    have hkeys := congrArg (List.map (List.drop l.length)) (h.below_eq l)
    rwa [List.map_map, List.map_map] at hkeys
  unfold Script.names
  rw [h.locate_eq]
  simp only [hinside]

/-- The last name of a helper script in a directory is that of one. -/
theorem getLast?_of_mem_scriptNames {dir : Path} {e : String × Path} (he : e ∈ Script.names d dir) :
    ∃ file, e.2.parts.getLast? = some file ∧ Script.isScript file = true := by
  unfold Script.names at he
  split at he
  · cases he
  · obtain ⟨names, hnames, rfl⟩ := List.mem_map.mp he
    rw [List.mem_mergeSort, List.mem_filter] at hnames
    obtain ⟨-, hscript⟩ := hnames
    cases hlast : names.getLast? with
    | none => simp [hlast] at hscript
    | some file =>
      refine ⟨file, ?_, by simpa [hlast] using hscript⟩
      rw [List.getLast?_append, hlast]
      rfl

theorem Alike.scriptLoad_eq (h : Alike d d') {file : String} (hlast : p.parts.getLast? = some file)
    (hfile : Script.isScript file = true) : Script.load d' p = Script.load d p := by
  rw [Script.load, Script.load, readText_congr (h.entry_eq fun l hl => isScriptAt_of_locate hlast hfile hl)]

end Disk

end Stencil
