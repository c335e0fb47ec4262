import Stencil.Proofs.Registry.Calls

namespace Stencil.Registry

/-!
# Names of registered profiles

A name comes from the caller, is the default one, or is declared in the profile. Wherever it comes from, it is checked
before anything is stored. The check lets one line end pass behind the name.

* `IsProper` — the documented form of names;
* `Admitted`, `isName_iff` — the names that pass the check: proper ones, of which a line end may follow;
* `entryFor_of_refused`, `entryFor_of_undeclared`, `entryFor_of_admitted` — what is registered depending on the name;
* `registered_under_admitted` — additions register under the names that pass, and refuse the others.
-/

/-! ### The form of names -/

/-- A name as it is documented: letters of the English alphabet, hyphens and underscores, at least one. -/
def IsProper (name : String) : Prop :=
  name ≠ "" ∧ ∀ c ∈ name.toList, c.isAlpha = true ∨ c = '-' ∨ c = '_'

/-- A name that passes the check: a proper one, or a proper one and a line end behind it. -/
def Admitted (name : String) : Prop :=
  IsProper name ∨ ∃ front, IsProper front ∧ name = front ++ "\n"

theorem isNameChar_iff {c : Char} : isNameChar c = true ↔ c.isAlpha = true ∨ c = '-' ∨ c = '_' := by
  have halpha : c.isAlpha = (decide ('A' ≤ c ∧ c ≤ 'Z') || (decide ('a' ≤ c) && decide (c ≤ 'z'))) := rfl
  rw [isNameChar, halpha]
  simp [or_assoc, or_left_comm]

theorem isProper_iff {name : String} :
    IsProper name ↔ (!name.toList.isEmpty && name.toList.all isNameChar) = true := by
  simp [IsProper, isNameChar_iff]

/-- No line end is part of a proper name. -/
theorem IsProper.not_mem {name : String} (h : IsProper name) : '\n' ∉ name.toList := fun hmem =>
  absurd (h.2 '\n' hmem) (by decide)

/-- Of the names that pass the check, the proper ones are those without a line end. -/
theorem Admitted.isProper_iff {name : String} (h : Admitted name) : IsProper name ↔ '\n' ∉ name.toList := by
  refine ⟨IsProper.not_mem, fun hmem => h.resolve_right ?_⟩
  rintro ⟨front, -, rfl⟩
  simp at hmem

theorem isName_ended {front : String} : isName (front ++ "\n") = true ↔ IsProper front := by
  have hreverse : (front ++ "\n").toList.reverse = '\n' :: front.toList.reverse := by simp
  rw [isName, hreverse, Registry.isProper_iff]
  simp

theorem isName_of_not_ended {name : String} (h : ∀ before, name.toList.reverse ≠ '\n' :: before) :
    isName name = true ↔ IsProper name := by
  unfold isName
  split
  · rename_i before hname
    exact absurd hname (h before)
  · dsimp only
    rw [Registry.isProper_iff, List.isEmpty_reverse, List.all_reverse]

/-- What is checked is that a name is proper, apart from a line end behind it. -/
theorem isName_iff {name : String} : isName name = true ↔ Admitted name := by
  by_cases h : ∃ before, name.toList.reverse = '\n' :: before
  · obtain ⟨before, hname⟩ := h
    have hended : name = String.ofList before.reverse ++ "\n" := by
      rw [← String.toList_inj, String.toList_append, String.toList_ofList, ← List.reverse_reverse name.toList, hname]
      simp
    -- The name has a line end, so it is not proper itself.
    have hnot : ¬ IsProper name := fun hproper => hproper.not_mem (by simp [hended])
    rw [Admitted, or_iff_right hnot, hended, isName_ended]
    constructor
    · exact fun hproper => ⟨_, hproper, rfl⟩
    · rintro ⟨front, hproper, heq⟩
      rwa [(String.append_left_inj "\n").mp heq]
  · rw [not_exists] at h
    rw [isName_of_not_ended h, Admitted, or_iff_left]
    rintro ⟨front, -, rfl⟩
    exact h front.toList.reverse (by simp)

/-! ### What the name decides -/

section Entries

variable {w : Workspace} {given path : String} {isDefault : Bool} {file : Path} {p : Profile}

/-- A name that is asked for and does not pass is refused before anything is read. -/
theorem entryFor_of_refused (hne : given ≠ "") (h : ¬ Admitted given) : entryFor w given path false =
    .error (.validation ("Invalid profile name: " ++ given ++ ". Make sure it matches " ++ namePattern)) := by
  have hcheck : checkName given =
      .error (.validation ("Invalid profile name: " ++ given ++ ". Make sure it matches " ++ namePattern)) := by
    rw [checkName, if_neg (by simpa [hne] using mt isName_iff.mp h)]
  rw [entryFor, if_neg (by decide), hcheck]
  rfl

/-- A name that a profile declares and that does not pass is refused. -/
theorem entryFor_of_undeclared (hfile : profileFile w path = .ok file) (hload : Profile.load w.disk file = .ok p)
    (h : ¬ Admitted p.config.name) : entryFor w "" path false =
      .error (.validation ("Invalid profile name: " ++ Text.quoted p.config.name ++ ". Pass a name matching " ++
        namePattern)) := by
  have hname : nameFor "" p = .error (.validation ("Invalid profile name: " ++ Text.quoted p.config.name ++
      ". Pass a name matching " ++ namePattern)) := by
    rw [nameFor, if_pos rfl, if_neg (mt isName_iff.mp h)]
  have hcheck : checkName "" = .ok () := if_pos (by simp)
  rw [entryFor, if_neg (by decide), hcheck]
  simp only [bind, Except.bind, hfile, hload, hname]

/-- A name that passes is the one that is registered. -/
theorem entryFor_of_admitted (hfile : profileFile w path = .ok file) (hload : Profile.load w.disk file = .ok p)
    (h : Admitted (registeredName given isDefault p)) :
    entryFor w given path isDefault = .ok (registeredName given isDefault p, file) := by
  have hasked : registeredName given isDefault p =
      if (if isDefault then defaultName else given) = "" then p.config.name
      else if isDefault then defaultName else given := by
    cases isDefault <;> rfl
  unfold entryFor
  -- From here on it does not matter whether the name is asked for or is the default one.
  generalize (if isDefault then defaultName else given) = asked at hasked ⊢
  have hcheck : checkName asked = .ok () := by
    by_cases hempty : asked = ""
    · rw [checkName, if_pos (by simp [hempty])]
    · rw [hasked, if_neg hempty, ← isName_iff] at h
      rw [checkName, if_pos (by simp [h])]
  have hname : nameFor asked p = .ok (registeredName given isDefault p) := by
    rw [nameFor, ← hasked, if_pos (isName_iff.mpr h)]
  simp only [bind, Except.bind, hcheck, hfile, hload, hname]
  rfl

end Entries

/-! ### Additions -/

theorem add_of_write {s : Session} {given path name : String} {isDefault : Bool} {file : Path} {d : Disk}
    (h : entryFor s.workspace given path isDefault = .ok (name, file))
    (hw : s.workspace.disk.write s.registry.file (fileText (s.registry.profiles.put name file.toString)).toUTF8 = .ok d) :
    ∃ s', add given path isDefault s = (.ok name, s') := by
  have hchange : change (·.put name file.toString) ("Added profile '" ++ name ++ "' from " ++ file.toString) s =
      (.ok (), s.changed (s.registry.profiles.put name file.toString) d _) := change_of_write _ hw
  rw [add_of_entry h, Action.bind_apply, hchange]
  exact ⟨_, Action.pure_apply _ _⟩

/-- **Profiles are registered under names that pass the check.** An addition that succeeds registers the file of a
profile under the name that is asked for, or the default one, or the one that the profile declares, and this name passes
the check; it has the documented form exactly if it has no line end. A name that does not pass is refused, and nothing is
stored: one that is asked for at once, and one that is declared when the profile has been loaded. With a name that passes
and a profile that can be loaded, an addition succeeds if the file of the registry can be written. -/
theorem registered_under_admitted (s : Session) (given path : String) (isDefault : Bool) :
    (∀ name s', add given path isDefault s = (.ok name, s') →
      Admitted name ∧ (IsProper name ↔ '\n' ∉ name.toList) ∧
      ∃ file p, profileFile s.workspace path = .ok file ∧ Profile.load s.workspace.disk file = .ok p ∧
        name = registeredName given isDefault p ∧ s'.registry.profiles.get? name = some file.toString) ∧
    (isDefault = false → given ≠ "" → ¬ Admitted given →
      add given path isDefault s =
        (.error (.validation ("Invalid profile name: " ++ given ++ ". Make sure it matches " ++ namePattern)), s)) ∧
    ∀ file p, profileFile s.workspace path = .ok file → Profile.load s.workspace.disk file = .ok p →
      (isDefault = false → given = "" → ¬ Admitted p.config.name →
        add given path isDefault s = (.error (.validation ("Invalid profile name: " ++ Text.quoted p.config.name ++
          ". Pass a name matching " ++ namePattern)), s)) ∧
      (Admitted (registeredName given isDefault p) → ∀ d,
        s.workspace.disk.write s.registry.file
          (fileText (s.registry.profiles.put (registeredName given isDefault p) file.toString)).toUTF8 = .ok d →
        ∃ s', add given path isDefault s = (.ok (registeredName given isDefault p), s')) := by
  -- The cases are an addition that succeeds, a name that is refused at once, and a profile that has been loaded.
  refine ⟨fun name s' h => ?_, ?_, fun file p hfile hload => ⟨?_, ?_⟩⟩
  · have hended : Ended none s _ _ s' := ended_add h
    cases hended with
    | added message hentry hw =>
      obtain ⟨p, hfile, hload, hname, hvalid⟩ := entryFor_eq_ok hentry
      have hadmitted := isName_iff.mp hvalid
      exact ⟨hadmitted, hadmitted.isProper_iff, _, p, hfile, hload, hname, OrderedMap.get?_put_self _ _ _⟩
  · rintro rfl hne hnot
    exact add_of_error (entryFor_of_refused hne hnot)
  · rintro rfl rfl hnot
    exact add_of_error (entryFor_of_undeclared hfile hload hnot)
  · intro hadmitted d hw
    exact add_of_write (entryFor_of_admitted hfile hload hadmitted) hw

open Shop in
theorem registered_under_admitted_api :
    (∃ s', add "" "." false session = (.ok "api", s') ∧ IsProper "api" ∧
      s'.registry.profiles.get? "api" = some "/Ctgen.yml") ∧
    add "v2" "." false session =
      (.error (.validation "Invalid profile name: v2. Make sure it matches ^[a-zA-Z-_]+$"), session) := by
  have hrun : (add "" "." false session).1 = .ok "api" ∧
      (add "" "." false session).2.registry.profiles.get? "api" = some "/Ctgen.yml" := by decide +kernel
  have hadd : add "" "." false session = (.ok "api", (add "" "." false session).2) := Prod.ext hrun.1 (by dsimp only)
  have hnot : ¬ Admitted "v2" := mt isName_iff.mpr (by decide)
  obtain ⟨-, hproper, -⟩ := (registered_under_admitted session "" "." false).1 _ _ hadd
  exact ⟨⟨_, hadd, hproper.mpr (by decide), hrun.2⟩,
    (registered_under_admitted session "v2" "." false).2.1 rfl (by decide) hnot⟩

open Shop in
/-- A name with a line end behind it is registered, though it does not have the documented form. -/
theorem line_end_registered_api :
    ∃ s', add "api\n" "." false session = (.ok "api\n", s') ∧
      s'.registry.profiles.get? "api\n" = some "/Ctgen.yml" ∧ ¬ IsProper "api\n" := by
  have hrun : (add "api\n" "." false session).1 = .ok "api\n" ∧
      (add "api\n" "." false session).2.registry.profiles.get? "api\n" = some "/Ctgen.yml" := by decide +kernel
  exact ⟨_, Prod.ext hrun.1 (by dsimp only), hrun.2, fun h => h.not_mem (by decide)⟩

end Stencil.Registry
