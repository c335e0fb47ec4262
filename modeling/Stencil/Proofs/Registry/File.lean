import Stencil.Proofs.Action
import Stencil.Proofs.Files.Disk
import Stencil.Proofs.Profile.Document
import Stencil.Proofs.Source.Steady
import Stencil.Proofs.Yaml.Writer
import Stencil.Registry.Change

namespace Stencil.Registry

/-!
# Registries and their files

The file of a registry has the text of one mapping from names to paths. If that text is read as the mapping again, a
registry that is opened on the file lists what was written, in the same order.

* `Legible` — the text of a registry is read as its document;
* `listed_document`, `ofDocument_document` — the document of a registry lists its entries;
* `ofFile_ended`, `ofFile_of_isEntry` — opening a registry is reading its file;
* `save_ended`, `save_of_error` — saving writes the whole file, or does nothing;
* `read_of_write` — a registry that was written is listed by its file.
-/

/-- The text of a registry is read as its document. -/
def Legible (profiles : OrderedMap String) : Prop :=
  Yaml.load (fileText profiles).toList = .ok (document profiles).toValue

/-! ### Documents -/

/-- The document of a registry lists its entries as they are. -/
theorem listed_document (profiles : OrderedMap String) :
    listed (document profiles).toValue = profiles.map fun e => (.str e.1, .str e.2) := by
  have hdocument : document profiles = .map [("profiles", .map (profiles.map fun e => (e.1, .text e.2)))] := rfl
  have hprofiles : Value.lookup? (Yaml.Tree.pairValues [("profiles", .map (profiles.map fun e => (e.1, .text e.2)))])
      (.str "profiles") = some (.dict (profiles.map fun e => (.str e.1, .str e.2))) := by
    rw [Yaml.Tree.lookup?_pairValues, OrderedMap.get?_cons, if_pos rfl, Option.map_some, Yaml.Tree.toValue,
      Yaml.Tree.pairValues_eq, List.map_map]
    rfl
  rw [hdocument, Yaml.Tree.toValue, listed, hprofiles]

theorem listsLongNumber_document (profiles : OrderedMap String) :
    listsLongNumber (document profiles).toValue = false := by
  have htext : ∀ s : String, (Value.str s).hasLongNumber = false := fun _ => rfl
  rw [listsLongNumber, listed_document, List.any_map, List.any_eq_false]
  intro e _
  simp [htext]

/-- What is listed are the entries. -/
theorem ofDocument_document {profiles : OrderedMap String} (hn : profiles.keys.Nodup) :
    ofDocument (document profiles).toValue = profiles := by
  -- An empty path is no path, and is listed as an empty text again.
  have hentry : ∀ path : String, (if (Value.str path).isTrue then (Value.str path).text else "") = path :=
    fun path => by
      by_cases h : path = ""
      · subst h
        rfl
      · rw [if_pos (by simpa [Value.isTrue] using h)]
        rfl
  rw [ofDocument, listed_document]
  simp only [List.map_map, Function.comp_def, hentry]
  exact (congrArg OrderedMap.ofEntries (List.map_id profiles)).trans (OrderedMap.ofEntries_of_nodup hn)

/-- Whatever a document says, it lists every name once. -/
theorem nodup_keys_ofDocument (v : Value) : (ofDocument v).keys.Nodup :=
  OrderedMap.nodup_keys_ofEntries _

/-! ### Reading -/

variable {w w' : Workspace} {asked : Option String} {r : Registry}

theorem read_eq_ok {d : Disk} {file : Path} {profiles : OrderedMap String} (h : read d file = .ok profiles) :
    ∃ v, Profile.readDocument d file = .ok v ∧ profiles = ofDocument v := by
  unfold read at h
  split at h
  · rename_i v hv
    split at h
    · cases h
    · cases h
      exact ⟨v, hv, rfl⟩
  all_goals cases h

theorem isEntry_of_readDocument {d : Disk} {file : Path} {v : Value} (h : Profile.readDocument d file = .ok v) :
    d.isEntry file = true := by
  cases he : d.entry file with
  | ok e => simp [Disk.isEntry, he, Except.isOk, Except.toBool]
  | error f =>
    simp only [Profile.readDocument, Disk.readText, Disk.read, he, bind, Except.bind, Except.mapError] at h
    cases h

/-- Work on files changes nothing else. -/
theorem environment_onDisk (act : ExceptT Foreign (StateM Disk) Unit) (message : String) (w : Workspace) :
    (onDisk act message w).2.environment = w.environment := by
  unfold onDisk
  split <;> rfl

theorem isValidation_onDisk {act : ExceptT Foreign (StateM Disk) Unit} {message : String} {f : Fault}
    (h : onDisk act message w = (.error f, w')) : f.isValidation = false := by
  unfold onDisk at h
  split at h <;> cases h <;> rfl

theorem isValidation_read {d : Disk} {file : Path} {f : Fault} (h : read d file = .error f) :
    f.isValidation = false := by
  unfold read at h
  split at h
  · split at h <;> cases h
    rfl
  all_goals
    cases h
    rfl

theorem isValidation_fileOf {f : Fault} (h : fileOf w asked = .error f) : f.isValidation = false := by
  have hhome : ∀ {p : Path}, w.expandHome p = .error f → f.isValidation = false := fun {p} hp => by
    unfold Workspace.expandHome at hp
    split at hp
    · split at hp
      · cases hp
      · split at hp <;> cases hp
        rfl
    · cases hp
  unfold fileOf at h
  dsimp only at h
  split at h <;> exact hhome h

/-- The file of a registry depends on the environment only. -/
theorem fileOf_congr (h : w'.environment = w.environment) : fileOf w' asked = fileOf w asked := by
  have hhome : ∀ p, w'.expandHome p = w.expandHome p := fun p => by
    unfold Workspace.expandHome Workspace.home
    rw [h]
  unfold fileOf
  simp only [h, hhome, Workspace.home]

theorem environment_create (file : Path) (w : Workspace) : (create file w).2.environment = w.environment := by
  rw [create, Action.get_bind_apply]
  split
  · exact environment_onDisk _ _ w
  · rfl

theorem isValidation_create {file : Path} {f : Fault} (h : create file w = (.error f, w')) :
    f.isValidation = false := by
  rw [create, Action.get_bind_apply] at h
  split at h
  · exact isValidation_onDisk h
  · cases h

/-- Opening a registry changes files only, and its failure is no bad input. If it succeeds, the registry lists what its
file lists. -/
theorem ofFile_ended {res : Except Fault Registry} (h : ofFile asked w = (res, w')) :
    w'.environment = w.environment ∧ (∀ f, res = .error f → f.isValidation = false) ∧
      ∀ r, res = .ok r → fileOf w asked = .ok r.file ∧ read w'.disk r.file = .ok r.profiles := by
  rw [ofFile, Action.get_bind_apply] at h
  -- The stages are to find the file, to create it if it is missing, and to read it; each may be the last.
  obtain ⟨f, hx, rfl⟩ | ⟨file, _, hx, h⟩ := Action.bind_eq.mp h
  · obtain ⟨hf, rfl⟩ := Action.ofExcept_eq.mp hx
    exact ⟨rfl, fun e he => Except.error.inj he ▸ isValidation_fileOf hf, nofun⟩
  obtain ⟨hfile, rfl⟩ := Action.ofExcept_eq.mp hx
  have henv := environment_create file w
  obtain ⟨f, hf, rfl⟩ | ⟨_, w₁, hcreate, h⟩ := Action.bind_eq.mp h
  · rw [hf] at henv
    exact ⟨henv, fun e he => Except.error.inj he ▸ isValidation_create hf, nofun⟩
  rw [hcreate] at henv
  rw [Action.get_bind_apply] at h
  obtain ⟨f, hx, rfl⟩ | ⟨profiles, _, hx, h⟩ := Action.bind_eq.mp h
  · obtain ⟨hf, rfl⟩ := Action.ofExcept_eq.mp hx
    exact ⟨henv, fun e he => Except.error.inj he ▸ isValidation_read hf, nofun⟩
  obtain ⟨hread, rfl⟩ := Action.ofExcept_eq.mp hx
  cases h
  exact ⟨henv, nofun, fun r hr => Except.ok.inj hr ▸ ⟨hfile, hread⟩⟩

/-- Opening a registry on a file that is there changes nothing; it is reading the file. -/
theorem ofFile_of_isEntry {file : Path} (hfile : fileOf w asked = .ok file) (h : w.disk.isEntry file = true) :
    ofFile asked w = ((read w.disk file).map fun profiles => { file, profiles }, w) := by
  have hcreate : create file w = (.ok (), w) := by
    rw [create, Action.get_bind_apply, h]
    rfl
  rw [ofFile, Action.get_bind_apply, hfile, Action.bind_apply, Action.ofExcept_apply]
  dsimp only
  rw [Action.bind_apply, hcreate]
  dsimp only
  rw [Action.get_bind_apply]
  cases read w.disk file <;> rfl

/-- Opening a registry on a file that can be read changes nothing. -/
theorem ofFile_of_read {file : Path} {profiles : OrderedMap String} (hfile : fileOf w asked = .ok file)
    (h : read w.disk file = .ok profiles) : ofFile asked w = (.ok { file, profiles }, w) := by
  obtain ⟨v, hv, -⟩ := read_eq_ok h
  rw [ofFile_of_isEntry hfile (isEntry_of_readDocument hv), h]
  rfl

/-- What is opened lists every name once. -/
theorem nodup_of_read {d : Disk} {file : Path} {profiles : OrderedMap String} (h : read d file = .ok profiles) :
    profiles.keys.Nodup := by
  obtain ⟨v, -, rfl⟩ := read_eq_ok h
  exact nodup_keys_ofDocument v

/-! ### Writing -/

theorem writeText_of_ok {d d' : Disk} {p : Path} {text : String} (h : d.write p text.toUTF8 = .ok d') :
    writeText p text d = (.ok (), d') := by
  rw [writeText, Action.get_bind_apply, h]
  rfl

theorem writeText_of_error {d : Disk} {p : Path} {text : String} {f : Foreign} (h : d.write p text.toUTF8 = .error f) :
    writeText p text d = (.error f, d) := by
  rw [writeText, Action.get_bind_apply, h]
  rfl

theorem save_of_write {r : Registry} {w : Workspace} {d : Disk}
    (h : w.disk.write r.file (fileText r.profiles).toUTF8 = .ok d) : save r w = (.ok (), { w with disk := d }) := by
  have hrun : (writeText r.file (fileText r.profiles)).run.run w.disk = (.ok (), d) := writeText_of_ok h
  rw [save, onDisk, hrun]

/-- The failure for a file that the operating system does not let be written. -/
def unwritable (file : Path) : Fault :=
  .init ("Cannot write config file " ++ file.toString ++ ": " ++ detail)

theorem save_of_error {r : Registry} {w : Workspace} {f : FileFault}
    (h : w.disk.write r.file (fileText r.profiles).toUTF8 = .error (.file f)) :
    save r w = (.error (unwritable r.file), w) := by
  have hrun : (writeText r.file (fileText r.profiles)).run.run w.disk = (.error (.file f), w.disk) :=
    writeText_of_error h
  rw [save, onDisk, hrun]
  rfl

/-- Saving a registry writes its whole text to its file; if that fails, it does nothing. -/
theorem save_ended (r : Registry) (w : Workspace) :
    (∃ d, w.disk.write r.file (fileText r.profiles).toUTF8 = .ok d ∧ save r w = (.ok (), { w with disk := d })) ∨
      ∃ f : Fault, f.isValidation = false ∧ save r w = (.error f, w) := by
  cases hd : w.disk.write r.file (fileText r.profiles).toUTF8 with
  | ok d => exact .inl ⟨d, rfl, save_of_write hd⟩
  | error f =>
    have hrun : (writeText r.file (fileText r.profiles)).run.run w.disk = (.error f, w.disk) := writeText_of_error hd
    rw [save, onDisk, hrun]
    cases f <;> exact .inr ⟨_, rfl, rfl⟩

/-- A registry that was written is listed by its file, in the same order. -/
theorem read_of_write {d d' : Disk} {file : Path} {profiles : OrderedMap String} (hn : profiles.keys.Nodup)
    (hlegible : Legible profiles) (h : d.write file (fileText profiles).toUTF8 = .ok d') :
    read d' file = .ok profiles := by
  have htext : d'.readText file = .ok (fileText profiles).toList :=
    Disk.readText_of_write (Yaml.return_not_mem_write false (document profiles)) h
  have hread : Profile.readDocument d' file = .ok (document profiles).toValue := by
    have hload : Yaml.load (fileText profiles).toList = .ok (document profiles).toValue := hlegible
    simp only [Profile.readDocument, htext, hload, Except.mapError, bind, Except.bind]
  rw [read, hread]
  dsimp only
  rw [listsLongNumber_document, if_neg Bool.false_ne_true, ofDocument_document hn]

end Stencil.Registry
