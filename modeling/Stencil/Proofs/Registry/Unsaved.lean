import Stencil.Proofs.Registry.Calls

namespace Stencil.Registry

/-!
# Changes that cannot be written

A change is made in memory first. If the file of the registry cannot be written then, the call fails and the file stays
as it is, but the change is not taken back. So the registry in memory no longer lists what its file does, unless the
change was none.

* `Session.unsaved` — a session after a change that could not be written;
* `change_of_error` — what a change does then;
* `unsaved_change_stays` — an addition or a removal that cannot be written stays in memory, and there only.
-/

/-- A session in which a change was made in memory only. -/
def Session.unsaved (s : Session) (profiles : OrderedMap String) : Session :=
  { s with registry := { s.registry with profiles } }

variable {s : Session} {fault : FileFault}

/-- A change that cannot be written fails, and is made all the same. -/
theorem change_of_error {f : OrderedMap String → OrderedMap String} (message : String)
    (h : s.workspace.disk.write s.registry.file (fileText (f s.registry.profiles)).toUTF8 = .error (.file fault)) :
    change f message s = (.error (unwritable s.registry.file), s.unsaved (f s.registry.profiles)) := by
  have hsave : save { s.registry with profiles := f s.registry.profiles } s.workspace =
      (.error (unwritable s.registry.file), s.workspace) := save_of_error h
  rw [change_eq, Action.bind_apply]
  simp only [inWorkspace, hsave]
  rfl

theorem registry_unsaved_eq_self {profiles : OrderedMap String} :
    (s.unsaved profiles).registry = s.registry ↔ profiles = s.registry.profiles := by
  obtain ⟨w, file, listed⟩ := s
  simp [Session.unsaved]

theorem add_of_unwritable {given path name : String} {isDefault : Bool} {file : Path}
    (hentry : entryFor s.workspace given path isDefault = .ok (name, file))
    (h : s.workspace.disk.write s.registry.file (fileText (s.registry.profiles.put name file.toString)).toUTF8 =
      .error (.file fault)) :
    add given path isDefault s =
      (.error (unwritable s.registry.file), s.unsaved (s.registry.profiles.put name file.toString)) := by
  have hchange : change (·.put name file.toString) ("Added profile '" ++ name ++ "' from " ++ file.toString) s =
      (.error (unwritable s.registry.file), s.unsaved (s.registry.profiles.put name file.toString)) :=
    change_of_error _ h
  rw [add_of_entry hentry, Action.bind_apply, hchange]

theorem remove_of_unwritable {name : String} (hmem : name ∈ s.registry.profiles.keys)
    (h : s.workspace.disk.write s.registry.file (fileText (s.registry.profiles.erase name)).toUTF8 =
      .error (.file fault)) :
    remove name s = (.error (unwritable s.registry.file), s.unsaved (s.registry.profiles.erase name)) := by
  rw [remove_of_mem hmem]
  exact change_of_error _ h

theorem path_of_get? {r : Registry} {name path : String} (h : r.profiles.get? name = some path) :
    r.path name = .ok (Path.ofString path) := by
  rw [Registry.path, h]

theorem path_of_none {r : Registry} {name : String} (h : r.profiles.get? name = none) :
    r.path name = .error (r.unknown name) := by
  rw [Registry.path, h]

/-- **A change that cannot be written stays in memory.** If the file of a registry cannot be written, an addition or a
removal fails, and no file changes; so every registry that is opened on a file lists what it listed before. The registry
in memory has the change all the same: it lists the new entry, or no longer lists the old one. So it lists what it did
before, and what a file lists that agreed with it, exactly if the change was none; that is, for an addition of an entry
that was there already, and for no removal. -/
theorem unsaved_change_stays (s : Session) (fault : FileFault) :
    (∀ given path isDefault name file, entryFor s.workspace given path isDefault = .ok (name, file) →
      s.workspace.disk.write s.registry.file (fileText (s.registry.profiles.put name file.toString)).toUTF8 =
        .error (.file fault) →
      ∃ s', add given path isDefault s = (.error (unwritable s.registry.file), s') ∧ s'.workspace = s.workspace ∧
        Sets s.registry.profiles name file.toString s'.registry.profiles ∧
        s'.registry.path name = .ok (.ofString file.toString) ∧
        (s'.registry = s.registry ↔ s.registry.profiles.get? name = some file.toString)) ∧
    (∀ name, name ∈ s.registry.profiles.keys →
      s.workspace.disk.write s.registry.file (fileText (s.registry.profiles.erase name)).toUTF8 = .error (.file fault) →
      ∃ s', remove name s = (.error (unwritable s.registry.file), s') ∧ s'.workspace = s.workspace ∧
        Drops s.registry.profiles name s'.registry.profiles ∧
        s'.registry.path name = .error (s'.registry.unknown name) ∧ s'.registry ≠ s.registry) ∧
    ∀ asked c s', Call.perform asked c s = (.error (unwritable s.registry.file), s') → c ≠ .reopen →
      ∀ other r, ofFile other s.workspace = (.ok r, s.workspace) → r.profiles = s.registry.profiles →
        ofFile other s'.workspace = (.ok r, s'.workspace) ∧
          (s'.registry.profiles = r.profiles ↔ s'.registry = s.registry) := by
  -- The cases are an addition, a removal, and what is opened on any file after either of them.
  refine ⟨fun given path isDefault name file hentry hwrite => ?_, fun name hmem hwrite => ?_,
    fun asked c s' h hc other r hopen hsame => ?_⟩
  · have hget : (s.registry.profiles.put name file.toString).get? name = some file.toString :=
      OrderedMap.get?_put_self _ _ _
    refine ⟨_, add_of_unwritable hentry hwrite, rfl, sets_put _ _ _, path_of_get? hget, ?_⟩
    rw [registry_unsaved_eq_self, OrderedMap.put_eq_self_iff]
  · have hget : (s.registry.profiles.erase name).get? name = none := OrderedMap.get?_erase_self _ _
    refine ⟨_, remove_of_unwritable hmem hwrite, rfl, drops_erase _ _, path_of_none hget, ?_⟩
    rw [Ne, registry_unsaved_eq_self, OrderedMap.erase_eq_self_iff, not_not]
    exact hmem
  · have hended := Call.ended h
    rw [hsame]
    cases hended with
    | refused => exact ⟨hopen, by simp⟩
    | unsaved => exact ⟨hopen, registry_unsaved_eq_self.symm⟩
    | unopened => exact absurd rfl hc

namespace Shop

/-- The entries of a registry with one profile. -/
def listing : OrderedMap String := [("api", "/Ctgen.yml")]

/-- A session that has left the directory from which the file of its registry is named. The registry lists what the file
does, but where the session is now, the path of the file leads nowhere. -/
def moved : Session where
  workspace := { disk :=
    { files := { entries := [(["Ctgen.yml"], .file profileText.toUTF8), (["cfg"], .directory), (["other"], .directory),
        (["cfg", "profiles.yml"], .file (fileText listing).toUTF8)] }
      current := ["other"] } }
  registry := { file := Path.ofString "cfg/profiles.yml", profiles := listing }

end Shop

open Shop in
theorem unsaved_change_stays_api :
    entryFor moved.workspace "web" "/Ctgen.yml" false = .ok ("web", Path.ofString "/Ctgen.yml") ∧
      moved.workspace.disk.write moved.registry.file (fileText (listing.put "web" "/Ctgen.yml")).toUTF8 =
        .error (.file .missing) ∧
      ∃ s', add "web" "/Ctgen.yml" false moved = (.error (unwritable (Path.ofString "cfg/profiles.yml")), s') ∧
        s'.registry.path "web" = .ok (Path.ofString "/Ctgen.yml") ∧ s'.registry ≠ moved.registry ∧
        ∃ r, ofFile (some "/cfg/profiles.yml") s'.workspace = (.ok r, s'.workspace) ∧
          s'.registry.profiles ≠ r.profiles := by
  have hentry : entryFor moved.workspace "web" "/Ctgen.yml" false = .ok ("web", Path.ofString "/Ctgen.yml") := by
    decide +kernel
  have hlocate : moved.workspace.disk.locate moved.registry.file = .error (.file .missing) := by decide +kernel
  have hwrite : moved.workspace.disk.write moved.registry.file (fileText (listing.put "web" "/Ctgen.yml")).toUTF8 =
      .error (.file .missing) := by
    rw [Disk.write, hlocate]
    rfl
  have hopen : ofFile (some "/cfg/profiles.yml") moved.workspace =
      (.ok { file := Path.ofString "/cfg/profiles.yml", profiles := listing }, moved.workspace) :=
    ofFile_of_read (by decide +kernel) (by decide +kernel)
  obtain ⟨hadds, -, hfiles⟩ := unsaved_change_stays moved .missing
  obtain ⟨s', hadd, -, -, hpath, hsame⟩ := hadds _ _ _ _ _ hentry hwrite
  have hchanged : s'.registry ≠ moved.registry := mt hsame.mp (by decide)
  have hperform : Call.perform none (.add "web" "/Ctgen.yml" false) moved =
      (.error (unwritable moved.registry.file), s') := by
    rw [Call.perform, Action.map_apply, hadd]
    rfl
  have hnot : Call.add "web" "/Ctgen.yml" false ≠ .reopen := by
    intro h
    cases h
  obtain ⟨hreopen, hagree⟩ := hfiles _ _ _ hperform hnot _ _ hopen rfl
  exact ⟨hentry, hwrite, s', hadd, hpath, hchanged, _, hreopen, mt hagree.mp hchanged⟩

open Shop in
/-- A removal that cannot be written is made in memory, though the file still lists the profile. -/
theorem unsaved_removal_api :
    (ofFile (some "/cfg/profiles.yml") moved.workspace).1 =
        .ok { file := Path.ofString "/cfg/profiles.yml", profiles := moved.registry.profiles } ∧
      (remove "api" moved).1 = .error (.init "Cannot write config file cfg/profiles.yml: <detail>") ∧
      (remove "api" moved).2.registry.profiles = [] ∧
      (remove "api" moved).2.registry.path "api" =
        .error (.validation "Profile 'api' not found. Available: []") ∧
      (ofFile (some "/cfg/profiles.yml") (remove "api" moved).2.workspace).1 =
        .ok { file := Path.ofString "/cfg/profiles.yml", profiles := moved.registry.profiles } := by
  decide +kernel

end Stencil.Registry
