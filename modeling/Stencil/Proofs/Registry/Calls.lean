import Stencil.Proofs.OrderedMap
import Stencil.Proofs.Profile.File
import Stencil.Proofs.Registry.File

namespace Stencil.Registry

/-!
# Calls on registries

Names are added to a registry and removed from it, and now and then another registry is opened on its file. What a
call can do is listed once, case by case. As long as every change could be written, the registry in memory and the one
in its file are the same map in the same order, and a call acts on both alike.

* `Call`, `Call.perform`, `after` — calls, and the state after several of them, whether they fail or not;
* `Sets`, `Drops` — a map that differs from another in one entry, which is set or is gone;
* `Ended`, `Call.ended` — what a call can do;
* `Grounded` — a registry belongs to its file, and lists every name once;
* `kept_after` — the file lists what the registry does;
* `acts_on_one_entry` — a call sets one entry, or removes one, or is bad input and does nothing.
-/

/-! ### Calls -/

/-- What a caller does with a registry. -/
inductive Call where
  | add (name path : String) (isDefault : Bool)
  | remove (name : String)
  /-- another registry is opened on the file, in place of this one -/
  | reopen

/-- Do a call; the name that was added, if one was. -/
def Call.perform (asked : Option String) : Call → Action Session (Option String)
  | .add name path isDefault => some <$> Registry.add name path isDefault
  | .remove name => do
    Registry.remove name
    return none
  | .reopen => do
    let registry ← inWorkspace (ofFile asked)
    modify fun s => { s with registry }
    return none

/-- The state after calls, each of which may fail. -/
def after (asked : Option String) (calls : List Call) (s : Session) : Session :=
  calls.foldl (fun s c => (c.perform asked s).2) s

/-! ### Entries -/

/-- One entry of a map has been set. All others are the same; a new one comes last, and an old one stays in its
place. -/
structure Sets (m : OrderedMap String) (name path : String) (m' : OrderedMap String) : Prop where
  entry : m'.get? name = some path
  others : ∀ other, other ≠ name → m'.get? other = m.get? other
  keys : m'.keys = if name ∈ m.keys then m.keys else m.keys ++ [name]

/-- One entry of a map has been removed. All others are the same, in the same order. -/
structure Drops (m : OrderedMap String) (name : String) (m' : OrderedMap String) : Prop where
  entry : m'.get? name = none
  others : ∀ other, other ≠ name → m'.get? other = m.get? other
  keys : m'.keys = m.keys.filter (· != name)

theorem sets_put (m : OrderedMap String) (name path : String) : Sets m name path (m.put name path) where
  entry := m.get?_put_self name path
  others _ h := m.get?_put_of_ne path h
  keys := by
    split
    · rename_i h
      exact OrderedMap.keys_put_of_mem path h
    · rename_i h
      rw [OrderedMap.put_of_not_mem path h, OrderedMap.keys_append, OrderedMap.keys_cons, OrderedMap.keys_nil]

theorem drops_erase (m : OrderedMap String) (name : String) : Drops m name (m.erase name) where
  entry := m.get?_erase_self name
  others _ h := m.get?_erase_of_ne h
  keys := m.keys_erase name

theorem nodup_keys_erase {m : OrderedMap String} (hn : m.keys.Nodup) (name : String) : (m.erase name).keys.Nodup := by
  rw [OrderedMap.keys_erase]
  exact hn.filter _

/-! ### What is added -/

/-- The name under which a profile is registered: the default one if that is asked for, else the one that is given,
else its own. -/
def registeredName (given : String) (isDefault : Bool) (p : Profile) : String :=
  if isDefault then defaultName else if given = "" then p.config.name else given

theorem profileFile_eq_ok {w : Workspace} {path : String} {file : Path} (h : profileFile w path = .ok file) :
    ∃ candidate, w.disk.isFile candidate = true ∧ file = w.disk.resolve candidate := by
  have hchecked : ∀ candidate : Path, (if w.disk.isFile candidate = true then pure (w.disk.resolve candidate)
      else throw (.validation ("Profile config file not found: " ++ candidate.toString)) : Except Fault Path) =
      .ok file → ∃ candidate, w.disk.isFile candidate = true ∧ file = w.disk.resolve candidate :=
    fun candidate hc => by
      split at hc
      · rename_i hfile
        exact ⟨candidate, hfile, (Except.ok.inj hc).symm⟩
      · cases hc
  -- Whichever file is looked for, it must be there, and its path is resolved.
  unfold profileFile at h
  dsimp only at h
  split at h
  · rw [pure_bind] at h
    exact hchecked _ h
  · obtain ⟨p, -, h⟩ := Action.except_bind_eq_ok.mp h
    split at h <;> rw [pure_bind] at h <;> exact hchecked _ h

theorem nameFor_eq_ok {given name : String} {p : Profile} (h : nameFor given p = .ok name) :
    name = (if given = "" then p.config.name else given) ∧ isName name = true := by
  unfold nameFor at h
  generalize (if given = "" then p.config.name else given) = name' at h ⊢
  dsimp only at h
  split at h
  · rename_i hvalid
    cases h
    exact ⟨rfl, hvalid⟩
  · cases h

/-- What is registered is a file that is read as a profile, under the name that is asked for. -/
theorem entryFor_eq_ok {w : Workspace} {given path name : String} {isDefault : Bool} {file : Path}
    (h : entryFor w given path isDefault = .ok (name, file)) :
    ∃ p, profileFile w path = .ok file ∧ Profile.load w.disk file = .ok p ∧
      name = registeredName given isDefault p ∧ isName name = true := by
  unfold entryFor at h
  obtain ⟨_, -, h⟩ := Action.except_bind_eq_ok.mp h
  obtain ⟨file', hfile, h⟩ := Action.except_bind_eq_ok.mp h
  obtain ⟨p, hload, h⟩ := Action.except_bind_eq_ok.mp h
  obtain ⟨name', hname, h⟩ := Action.except_bind_eq_ok.mp h
  obtain ⟨rfl, hvalid⟩ := nameFor_eq_ok hname
  cases h
  exact ⟨p, hfile, hload, by cases isDefault <;> rfl, hvalid⟩

/-! ### What calls can do -/

/-- A session after a change that was written. -/
def Session.changed (s : Session) (profiles : OrderedMap String) (d : Disk) (message : String) : Session where
  workspace := { s.workspace with disk := d }.report (.info message)
  registry := { s.registry with profiles }

/-- What a call can do. -/
inductive Ended (asked : Option String) (s : Session) : Call → Except Fault (Option String) → Session → Prop
  /-- nothing was done -/
  | refused (c : Call) (f : Fault) : Ended asked s c (.error f) s
  | added {given path name : String} {isDefault : Bool} {file : Path} {d : Disk} (message : String) :
    entryFor s.workspace given path isDefault = .ok (name, file) →
    s.workspace.disk.write s.registry.file (fileText (s.registry.profiles.put name file.toString)).toUTF8 = .ok d →
    Ended asked s (.add given path isDefault) (.ok (some name))
      (s.changed (s.registry.profiles.put name file.toString) d message)
  | removed {name : String} {d : Disk} (message : String) : name ∈ s.registry.profiles.keys →
    s.workspace.disk.write s.registry.file (fileText (s.registry.profiles.erase name)).toUTF8 = .ok d →
    Ended asked s (.remove name) (.ok none) (s.changed (s.registry.profiles.erase name) d message)
  /-- a change was made but could not be written -/
  | unsaved {c : Call} {f : Fault} {profiles : OrderedMap String} : f.isValidation = false →
    (s.registry.profiles.keys.Nodup → profiles.keys.Nodup) →
    Ended asked s c (.error f) { s with registry := { s.registry with profiles } }
  | reopened {r : Registry} {w : Workspace} : ofFile asked s.workspace = (.ok r, w) →
    Ended asked s .reopen (.ok none) ⟨w, r⟩
  | unopened {f : Fault} {w : Workspace} : ofFile asked s.workspace = (.error f, w) →
    Ended asked s .reopen (.error f) ⟨w, s.registry⟩

theorem change_eq (f : OrderedMap String → OrderedMap String) (message : String) (s : Session) :
    change f message s = (inWorkspace (save { s.registry with profiles := f s.registry.profiles }) >>=
      fun _ => inWorkspace (modify (·.report (.info message))))
      { s with registry := { s.registry with profiles := f s.registry.profiles } } :=
  rfl

/-- A change that can be written is made and written. -/
theorem change_of_write {f : OrderedMap String → OrderedMap String} {s : Session} {d : Disk} (message : String)
    (h : s.workspace.disk.write s.registry.file (fileText (f s.registry.profiles)).toUTF8 = .ok d) :
    change f message s = (.ok (), s.changed (f s.registry.profiles) d message) := by
  have hsave : save { s.registry with profiles := f s.registry.profiles } s.workspace =
      (.ok (), { s.workspace with disk := d }) := save_of_write h
  rw [change_eq, Action.bind_apply]
  simp only [inWorkspace, hsave]
  rfl

/-- A change is made, and then it is written or not. -/
theorem change_ended (f : OrderedMap String → OrderedMap String) (message : String) (s : Session) :
    (∃ d, s.workspace.disk.write s.registry.file (fileText (f s.registry.profiles)).toUTF8 = .ok d ∧
        change f message s = (.ok (), s.changed (f s.registry.profiles) d message)) ∨
      ∃ e : Fault, e.isValidation = false ∧
        change f message s =
          (.error e, { s with registry := { s.registry with profiles := f s.registry.profiles } }) := by
  rcases save_ended { s.registry with profiles := f s.registry.profiles } s.workspace with ⟨d, hd, -⟩ | ⟨e, he, hs⟩
  · exact .inl ⟨d, hd, change_of_write message hd⟩
  · refine .inr ⟨e, he, ?_⟩
    rw [change_eq, Action.bind_apply]
    simp only [inWorkspace, hs]

section Changes

variable {s s' : Session} {given path name : String} {isDefault : Bool}

theorem add_of_error {f : Fault} (hentry : entryFor s.workspace given path isDefault = .error f) :
    add given path isDefault s = (.error f, s) := by
  rw [add, Action.get_bind_apply, Action.bind_apply, Action.ofExcept_apply, hentry]

/-- What is read as a profile is added by a change. -/
theorem add_of_entry {file : Path} (hentry : entryFor s.workspace given path isDefault = .ok (name, file)) :
    add given path isDefault s =
      (change (·.put name file.toString) ("Added profile '" ++ name ++ "' from " ++ file.toString) >>=
        fun _ => pure name) s := by
  rw [add, Action.get_bind_apply, Action.bind_apply, Action.ofExcept_apply, hentry]

theorem remove_of_not_mem (h : name ∉ s.registry.profiles.keys) :
    remove name s = (.error (s.registry.unknown name), s) := by
  have hcontains : s.registry.profiles.contains name = false :=
    Bool.eq_false_iff.mpr (mt OrderedMap.contains_iff_mem_keys.mp h)
  rw [remove, Action.get_bind_apply]
  dsimp only
  rw [hcontains]
  rfl

/-- What is listed is removed by a change. -/
theorem remove_of_mem (h : name ∈ s.registry.profiles.keys) :
    remove name s = change (·.erase name) ("Removed profile '" ++ name ++ "'") s := by
  have hcontains : s.registry.profiles.contains name = true := OrderedMap.contains_iff_mem_keys.mpr h
  rw [remove, Action.get_bind_apply]
  dsimp only
  rw [hcontains, if_neg (by decide)]

theorem ended_add {asked : Option String} {res : Except Fault String} (h : add given path isDefault s = (res, s')) :
    Ended asked s (.add given path isDefault) (res.map some) s' := by
  cases hentry : entryFor s.workspace given path isDefault with
  | error f =>
    rw [add_of_error hentry] at h
    cases h
    exact .refused _ f
  | ok entry =>
    obtain ⟨name, file⟩ := entry
    rw [add_of_entry hentry, Action.bind_apply] at h
    rcases change_ended (·.put name file.toString)
      ("Added profile '" ++ name ++ "' from " ++ file.toString) s with ⟨d, hd, hs⟩ | ⟨e, he, hs⟩ <;>
      rw [hs] at h <;> cases h
    · exact .added _ hentry hd
    · exact .unsaved he fun hn => OrderedMap.nodup_keys_put hn name file.toString

theorem ended_remove {asked : Option String} {res : Except Fault Unit} (h : remove name s = (res, s')) :
    Ended asked s (.remove name) (res.map fun _ => none) s' := by
  by_cases hmem : name ∈ s.registry.profiles.keys
  · rw [remove_of_mem hmem] at h
    rcases change_ended (·.erase name) ("Removed profile '" ++ name ++ "'") s with ⟨d, hd, hs⟩ | ⟨e, he, hs⟩ <;>
      rw [hs] at h <;> cases h
    · exact .removed _ hmem hd
    · exact .unsaved he fun hn => nodup_keys_erase hn name
  · rw [remove_of_not_mem hmem] at h
    cases h
    exact .refused _ _

end Changes

/-- What a call can do is on the list. -/
theorem Call.ended {asked : Option String} {c : Call} {s s' : Session} {res : Except Fault (Option String)}
    (h : c.perform asked s = (res, s')) : Ended asked s c res s' := by
  cases c with
  | add given path isDefault =>
    rw [perform, Action.map_apply] at h
    obtain ⟨rfl, rfl⟩ := Prod.mk.inj h
    exact ended_add rfl
  | remove name =>
    rw [perform, Action.bind_apply] at h
    rcases hr : Registry.remove name s with ⟨_ | _, s₁⟩ <;> rw [hr] at h <;> cases h
    · exact ended_remove hr
    · exact ended_remove hr
  | reopen =>
    rw [perform, Action.bind_apply, inWorkspace] at h
    rcases ho : ofFile asked s.workspace with ⟨_ | _, w⟩ <;> rw [ho] at h <;> cases h
    · exact .unopened ho
    · exact .reopened ho

/-! ### What calls keep -/

section Kept

/-- A registry belongs to the file that is asked for, and lists every name once. -/
structure Grounded (asked : Option String) (s : Session) : Prop where
  file : fileOf s.workspace asked = .ok s.registry.file
  nodup : s.registry.profiles.keys.Nodup

/-- The file lists what the registry does: another registry that is opened on it is the same, and changes nothing. -/
def Kept (asked : Option String) (s : Session) : Prop :=
  ofFile asked s.workspace = (.ok s.registry, s.workspace)

variable {asked : Option String} {s s' : Session} {c : Call} {res : Except Fault (Option String)}

/-- A registry that has just been opened is kept by its file. -/
theorem opened {w w' : Workspace} {r : Registry} (h : ofFile asked w = (.ok r, w')) :
    Grounded asked ⟨w', r⟩ ∧ Kept asked ⟨w', r⟩ := by
  obtain ⟨henv, -, hr⟩ := ofFile_ended h
  obtain ⟨hfile, hread⟩ := hr r rfl
  rw [← fileOf_congr henv] at hfile
  exact ⟨⟨hfile, nodup_of_read hread⟩, ofFile_of_read hfile hread⟩

/-- A change that was written is kept. -/
theorem kept_changed (hg : Grounded asked s) {profiles : OrderedMap String} {d : Disk} (message : String)
    (hn : profiles.keys.Nodup) (hl : Legible profiles)
    (hw : s.workspace.disk.write s.registry.file (fileText profiles).toUTF8 = .ok d) :
    Kept asked (s.changed profiles d message) := by
  have hfile : fileOf (s.changed profiles d message).workspace asked = .ok s.registry.file :=
    (fileOf_congr rfl).trans hg.file
  exact ofFile_of_read hfile (read_of_write hn hl hw)

/-- No call changes the environment. -/
theorem Ended.environment_eq (h : Ended asked s c res s') : s'.workspace.environment = s.workspace.environment := by
  cases h with
  | refused | added | removed | unsaved => rfl
  | reopened ho | unopened ho => exact (ofFile_ended ho).1

theorem Grounded.ended (hg : Grounded asked s) (h : Ended asked s c res s') : Grounded asked s' := by
  cases h with
  | refused => exact hg
  | added _ _ _ => exact ⟨(fileOf_congr rfl).trans hg.file, OrderedMap.nodup_keys_put hg.nodup _ _⟩
  | removed _ _ _ => exact ⟨(fileOf_congr rfl).trans hg.file, nodup_keys_erase hg.nodup _⟩
  | unsaved _ hn => exact ⟨hg.file, hn hg.nodup⟩
  | reopened ho => exact (opened ho).1
  | unopened ho => exact ⟨(fileOf_congr (ofFile_ended ho).1).trans hg.file, hg.nodup⟩

theorem Grounded.after (hg : Grounded asked s) (calls : List Call) : Grounded asked (after asked calls s) := by
  induction calls generalizing s with
  | nil => exact hg
  | cons c calls ih =>
    have hended : Ended asked s c (c.perform asked s).1 (c.perform asked s).2 := Call.ended rfl
    exact ih (hg.ended hended)

/-- In a run, every call succeeds or is bad input, and the text of every map is read as its document. -/
def Undisturbed (asked : Option String) : List Call → Session → Prop
  | [], _ => True
  | c :: calls, s => (∀ f, (c.perform asked s).1 = .error f → f.isValidation = true) ∧
      Legible (c.perform asked s).2.registry.profiles ∧ Undisturbed asked calls (c.perform asked s).2

theorem Kept.ended (hk : Kept asked s) (hg : Grounded asked s) (h : Ended asked s c res s')
    (hres : ∀ f, res = .error f → f.isValidation = true) (hl : Legible s'.registry.profiles) : Kept asked s' := by
  -- A failure that is no bad input has been excluded.
  have hno : ∀ {f : Fault}, res = .error f → f.isValidation = false → Kept asked s' := fun hf hv =>
    absurd ((hres _ hf).symm.trans hv) (by decide)
  cases h with
  | refused => exact hk
  | added message _ hw => exact kept_changed hg message (OrderedMap.nodup_keys_put hg.nodup _ _) hl hw
  | removed message _ hw => exact kept_changed hg message (nodup_keys_erase hg.nodup _) hl hw
  | unsaved hf _ => exact hno rfl hf
  | reopened ho => exact (opened ho).2
  | unopened ho => exact hno rfl ((ofFile_ended ho).2.1 _ rfl)

/-- As long as nothing goes wrong with its file, a registry is kept by it. -/
theorem kept_after {calls : List Call} (hk : Kept asked s) (hg : Grounded asked s) (hu : Undisturbed asked calls s) :
    Kept asked (after asked calls s) := by
  induction calls generalizing s with
  | nil => exact hk
  | cons c calls ih =>
    obtain ⟨hres, hl, hu⟩ := hu
    have hended : Ended asked s c (c.perform asked s).1 (c.perform asked s).2 := Call.ended rfl
    exact ih (hk.ended hg hended hres hl) (hg.ended hended) hu

/-- **A registry is a map that is kept in its file.** A registry is opened, calls are made on it, and other registries
are opened on the same file, whether any of this fails or not. Then an addition that succeeds sets one entry, which is
the resolved path of a file that is read as a profile; a removal that succeeds removes one entry; and after either, a
registry that is opened on the file is the same, if the text of the map is read as its document. A call that is bad
input does nothing at all. While all calls succeed or are bad input, the file lists what the registry does. -/
theorem acts_on_one_entry {w w₀ : Workspace} {r : Registry} (hopen : ofFile asked w = (.ok r, w₀))
    {calls : List Call} (hs : after asked calls ⟨w₀, r⟩ = s) :
    (Undisturbed asked calls ⟨w₀, r⟩ → ofFile asked s.workspace = (.ok s.registry, s.workspace)) ∧
    (∀ given path isDefault name s', add given path isDefault s = (.ok name, s') →
      ∃ candidate file p, profileFile s.workspace path = .ok file ∧
        s.workspace.disk.isFile candidate = true ∧ file = s.workspace.disk.resolve candidate ∧
        Profile.load s.workspace.disk file = .ok p ∧ name = registeredName given isDefault p ∧
        Sets s.registry.profiles name file.toString s'.registry.profiles ∧
        (Legible s'.registry.profiles → ofFile asked s'.workspace = (.ok s'.registry, s'.workspace))) ∧
    (∀ name s', remove name s = (.ok (), s') →
      name ∈ s.registry.profiles.keys ∧ Drops s.registry.profiles name s'.registry.profiles ∧
        (Legible s'.registry.profiles → ofFile asked s'.workspace = (.ok s'.registry, s'.workspace))) ∧
    ∀ c message invalid s', Call.perform asked c s = (.error (.validation message invalid), s') → s' = s := by
  obtain ⟨hg₀, hk₀⟩ := opened hopen
  -- What is known of the registry when it is opened is kept by every call, whether it fails or not.
  have hg : Grounded asked s := hs ▸ hg₀.after calls
  refine ⟨fun hu => hs ▸ kept_after hk₀ hg₀ hu, fun given path isDefault name s' h => ?_, fun name s' h => ?_,
    fun c message invalid s' h => ?_⟩
  · have hended : Ended asked s _ _ s' := ended_add h
    cases hended with
    | added message hentry hw =>
      obtain ⟨p, hfile, hload, hname, -⟩ := entryFor_eq_ok hentry
      obtain ⟨candidate, hcandidate, hresolve⟩ := profileFile_eq_ok hfile
      exact ⟨candidate, _, p, hfile, hcandidate, hresolve, hload, hname, sets_put _ _ _,
        fun hl => kept_changed hg message (OrderedMap.nodup_keys_put hg.nodup _ _) hl hw⟩
  · have hended : Ended asked s _ _ s' := ended_remove h
    cases hended with
    | removed message hmem hw =>
      exact ⟨hmem, drops_erase _ _, fun hl => kept_changed hg message (nodup_keys_erase hg.nodup _) hl hw⟩
  · have hended := Call.ended h
    cases hended with
    | refused => rfl
    | unsaved hf => cases hf
    | unopened ho => exact absurd ((ofFile_ended ho).2.1 _ rfl) (by simp [Fault.isValidation])

end Kept

/-! ### A registry with one profile -/

namespace Shop

/-- A file of a profile that has a name. -/
def profileText : String := "profile:\n  name: api\n"

/-- A directory with this file. -/
def workspace : Workspace :=
  { disk := { files := { entries := [(["Ctgen.yml"], .file profileText.toUTF8)] } } }

/-- The registry is not there yet. -/
def asked : Option String := some "/.ctgen/profiles.yml"

/-- The session that starts when it is opened. It is not to be run when two sessions are compared. -/
@[irreducible] def session : Session := ⟨(ofFile asked workspace).2, { file := Path.ofString "/.ctgen/profiles.yml" }⟩

end Shop

open Shop in
theorem acts_on_one_entry_api :
    ∃ s₁, add "" "." false session = (.ok "api", s₁) ∧
      s₁.registry.profiles.get? "api" = some "/Ctgen.yml" ∧
      ofFile asked s₁.workspace = (.ok s₁.registry, s₁.workspace) ∧
      ∃ s₂, remove "api" s₁ = (.ok (), s₂) ∧ s₂.registry.profiles.get? "api" = none := by
  have hopen : ofFile asked workspace = (.ok session.registry, session.workspace) :=
    Prod.ext (by decide +kernel) (by rw [session])
  have hadd : add "" "." false session = (.ok "api", (add "" "." false session).2) :=
    Prod.ext (by decide +kernel) (by dsimp only)
  have hremove : remove "api" (add "" "." false session).2 =
      (.ok (), (remove "api" (add "" "." false session).2).2) := Prod.ext (by decide +kernel) (by dsimp only)
  have hprofiles : (add "" "." false session).2.registry.profiles = [("api", "/Ctgen.yml")] := by
    decide +kernel
  have hlegible : Legible (add "" "." false session).2.registry.profiles := by
    rw [hprofiles, Legible, fileText, Yaml.write, String.toList_ofList]
    exact Yaml.Tree.load_eq_of_denotes (by decide +kernel)
  have hnone : after asked [] ⟨session.workspace, session.registry⟩ = session := rfl
  obtain ⟨-, hadded, -⟩ := acts_on_one_entry hopen hnone
  obtain ⟨-, file, -, -, -, -, -, -, -, hkept⟩ := hadded _ _ _ _ _ hadd
  have hafter : after asked [.add "" "." false] ⟨session.workspace, session.registry⟩ =
      (add "" "." false session).2 := by
    show (Call.perform asked (.add "" "." false) session).2 = _
    rw [Call.perform, Action.map_apply]
  obtain ⟨-, -, hremoved, -⟩ := acts_on_one_entry hopen hafter
  obtain ⟨-, hdrops, -⟩ := hremoved _ _ hremove
  have hentry : (add "" "." false session).2.registry.profiles.get? "api" = some "/Ctgen.yml" := by
    rw [hprofiles]
    rfl
  exact ⟨_, hadd, hentry, hkept hlegible, _, hremove, hdrops.entry⟩

end Stencil.Registry
