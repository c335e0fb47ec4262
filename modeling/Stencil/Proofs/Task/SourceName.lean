import Stencil.Proofs.EnvFile
import Stencil.Proofs.Source.Steady
import Stencil.Proofs.Target.Generation
import Stencil.Proofs.Task.Start
import Stencil.Proofs.Template.Engine

namespace Stencil

/-!
# The data source name of a task

A data source name that is given is taken as it is, and then neither the environment nor a file of variables has a say.
Otherwise it is the value of a variable, after a file of variables has been loaded; what is wrong first decides how the
start fails, and nothing else has happened then. Not all that may be wrong with a file is a rejection: a home directory
that is not known, bytes that are no text, and a variable that cannot be set are failures of other kinds.

* `Workspace.Alike`, `Task.Setup.Alike` — other variables and other contents of files, and other directives for them;
* `Task.startOn`, `Task.startOn_alike` — the rest of a start, when the data source name is known, tells no such apart;
* `Task.Setup.Loaded`, `Task.Setup.loadVariables_eq_iff` — how the loading of a file of variables ends;
* `Task.Setup.Resolves`, `Task.Setup.dsn_eq_iff` — how the data source name is found when none is given;
* `Task.name_precedence` — all this for a start.
-/

/-- A directive in effect is its replacement, unless that is empty. -/
theorem ProfileConfig.effective_eq (c : ProfileConfig) (o : Option Overrides) (d : Directive) :
    c.effective o d = ((o.bind (·.get? d)).filter (· ≠ "")).getD (c.directive d) := by
  unfold effective
  cases o.bind (·.get? d) with
  | none => rfl
  | some v => by_cases h : v = "" <;> simp [h, Option.filter]

/-! ### Alike workspaces -/

/-- Workspaces with two environments, and disks that differ at most in the contents of files that are no helper scripts. -/
structure Workspace.Alike (w : Workspace) (environment environment' : OrderedMap String) (w' : Workspace) : Prop where
  disk : w.disk.Alike w'.disk
  environment_eq : w.environment = environment
  environment_eq' : w'.environment = environment'
  clock : w'.clock = w.clock
  log : w'.log = w.log

variable {w w' : Workspace} {e e' : OrderedMap String} {p : Path} {fault : Fault}

theorem Workspace.Alike.report (h : w.Alike e e' w') (r : LogRecord) : (w.report r).Alike e e' (w'.report r) :=
  { h with log := congrArg (· ++ [r]) h.log }

theorem Workspace.Alike.onDisk {act : ExceptT Foreign (StateM Disk) Unit} {problem : Foreign → Fault}
    (h : w.Alike e e' w') (hact : Action.Ends Disk.Alike (· = ·) (act w.disk) (act w'.disk)) :
    Action.Ends (·.Alike e e' ·) (· = ·) (Generator.onDisk act problem w) (Generator.onDisk act problem w') := by
  rw [Generator.onDisk_apply, Generator.onDisk_apply]
  generalize act w.disk = first, act w'.disk = second at hact ⊢
  cases hact with
  | ok _ hd => exact .ok rfl { h with disk := hd }
  | error f hd => exact .error _ { h with disk := hd }

/-- The path starts in the home directory. -/
def Path.UsesHome (p : Path) : Prop :=
  p.isAbsolute = false ∧ p.parts.head? = some "~"

theorem Workspace.expandHome_congr
    (h : p.UsesHome → w'.environment.get? "HOME" = w.environment.get? "HOME") : w'.expandHome p = w.expandHome p := by
  unfold expandHome
  split
  · next first rest habsolute hparts =>
    split
    · next hfirst =>
      rw [home, home, h ⟨habsolute, by rw [hparts, hfirst]; rfl⟩]
    · rfl
  · rfl

/-- The path starts in the home directory of somebody who is not known. -/
def Path.IsHomeless (p : Path) : Prop :=
  p.isAbsolute = false ∧ ∃ first rest, p.parts = first :: rest ∧ first ≠ "~" ∧ first.startsWith "~" = true

theorem Workspace.expandHome_eq_error :
    w.expandHome p = .error fault ↔ p.IsHomeless ∧ fault = .foreign .unknownHome := by
  unfold expandHome
  constructor
  · intro h
    split at h
    · next first rest habsolute hparts =>
      split at h
      · cases h
      · next hfirst =>
        split at h
        · next htilde =>
          cases h
          exact ⟨⟨habsolute, first, rest, hparts, hfirst, htilde⟩, rfl⟩
        · cases h
    · cases h
  · rintro ⟨⟨habsolute, first, rest, hparts, hfirst, htilde⟩, rfl⟩
    simp only [habsolute, hparts, if_neg hfirst, if_pos htilde]

namespace Task

/-! ### The rest of a start -/

/-- Setups that differ at most in the file of variables and the variable for the data source name. -/
structure Setup.Alike (s s' : Setup) : Prop where
  profile : s'.profile = { s.profile with
    config := { s.profile.config with envFile := s'.profile.config.envFile, envVar := s'.profile.config.envVar } }
  contextDir : s'.contextDir = s.contextDir
  profileDir : s'.profileDir = s.profileDir
  table : s'.table = s.table
  dsn : s'.directives.dsn = s.directives.dsn
  targetDir : s'.directives.targetDir = s.directives.targetDir

/-- The directories of the profile start in the home directory, one of them at least. -/
def Setup.UsesHome (s : Setup) : Prop :=
  (Path.ofString s.profile.config.scriptsDir).UsesHome ∨ (Path.ofString s.profile.config.templatesDir).UsesHome

section Start

variable {σ κ : Type} [Source σ κ] {s s' : Setup} {source : σ} {name : String}

/-- The rest of a start, when the data source name is known. -/
def startOn (s : Setup) (name : String) : Action (Workspace × σ) (Task σ κ) := do
  let targetDir ← inWorkspace s.targetDir
  let connection ← inSource (Source.connect name)
  checkGivenTable connection s.table
  let context ← initialContext connection s.table
  let engine ← Action.ofExcept (s.engine (← get).1)
  let (workspace, source) ← get
  return {
    profile := s.profile, targetDir, engine, workspace, source, connection
    prompts := s.prompts (Source.databaseName σ connection), table := s.table, context }

theorem inWorkspace_apply {α : Type} (act : Work α) (x : Workspace × σ) :
    inWorkspace act x = ((act x.1).1, ((act x.1).2, x.2)) := rfl

theorem start_eq : (start s : Action (Workspace × σ) (Task σ κ)) = inWorkspace s.dsn >>= startOn s := rfl

/-- A start connects to the data source name that was found. -/
theorem start_of_ok (h : s.dsn w = (.ok name, w')) :
    (start s (w, source) : Except Fault (Task σ κ) × _) = startOn s name (w', source) := by
  have hname : inWorkspace s.dsn (w, source) = (.ok name, (w', source)) := by rw [inWorkspace_apply, h]
  rw [start_eq, Action.bind_apply, hname]

/-- Without a data source name a start ends. -/
theorem start_of_error (h : s.dsn w = (.error fault, w')) :
    (start s (w, source) : Except Fault (Task σ κ) × _) = (.error fault, (w', source)) := by
  have hname : inWorkspace s.dsn (w, source) = (.error fault, (w', source)) := by rw [inWorkspace_apply, h]
  rw [start_eq, Action.bind_apply, hname]

/-- States of a start with alike workspaces. -/
def AlikeStates (e e' : OrderedMap String) (x x' : Workspace × σ) : Prop :=
  x.1.Alike e e' x'.1 ∧ x'.2 = x.2

/-- Tasks that are the same, but for alike workspaces and for their profiles. -/
def AlikeTasks (e e' : OrderedMap String) (t t' : Task σ κ) : Prop :=
  t.workspace.Alike e e' t'.workspace ∧ t' = { t with workspace := t'.workspace, profile := t'.profile }

theorem inWorkspace_alike {α : Type} {act act' : Work α} {x x' : Workspace × σ} (h : AlikeStates e e' x x')
    (hact : Action.Ends (·.Alike e e' ·) (· = ·) (act x.1) (act' x'.1)) :
    Action.Ends (AlikeStates e e') (· = ·) (inWorkspace act x) (inWorkspace act' x') := by
  rw [inWorkspace_apply, inWorkspace_apply]
  generalize act x.1 = first, act' x'.1 = second at hact ⊢
  cases hact with
  | ok ha hw => exact .ok ha ⟨hw, h.2⟩
  | error e hw => exact .error e ⟨hw, h.2⟩

theorem inSource_alike {α : Type} (act : Action σ α) {x x' : Workspace × σ} (h : AlikeStates e e' x x') :
    Action.Ends (AlikeStates e e') (· = ·) (inSource act x) (inSource act x') := by
  obtain ⟨w, source⟩ := x
  obtain ⟨w', source'⟩ := x'
  obtain ⟨hw, rfl⟩ := h
  exact .of_eq ⟨hw, rfl⟩

/-- Use a directory for the targets, if it is there. -/
def useDirectory (path : Path) : Work Path := do
  if !(← get).disk.isDirectory path then
    throw (.validation ("Invalid target-dir specified: " ++ path.toString ++ " must exist and be writable"))
  Generator.report (.info ("Target directory: " ++ path.toString))
  return path

theorem targetDir_eq (s : Setup) : s.targetDir =
    if s.directives.targetDir = "" ∨ s.directives.targetDir = "." then useDirectory s.contextDir
    else Setup.createDirectory (s.contextDir / Path.ofString s.directives.targetDir) >>= fun _ =>
      useDirectory (s.contextDir / Path.ofString s.directives.targetDir) := by
  unfold Setup.targetDir
  have hhere : (decide (s.directives.targetDir = "") || decide (s.directives.targetDir = ".")) =
      decide (s.directives.targetDir = "" ∨ s.directives.targetDir = ".") := (Bool.decide_or _ _).symm
  simp only [hhere]
  by_cases h : s.directives.targetDir = "" ∨ s.directives.targetDir = "."
  · simp only [decide_eq_true h, if_pos h, Bool.not_true, Bool.false_eq_true, if_false, if_true]
    rfl
  · simp only [decide_eq_false h, if_neg h, Bool.not_false, Bool.false_eq_true, if_false, if_true]
    rfl

theorem useDirectory_alike (h : w.Alike e e' w') (path : Path) :
    Action.Ends (·.Alike e e' ·) (· = ·) (useDirectory path w) (useDirectory path w') := by
  unfold useDirectory
  rw [Action.get_bind_apply, Action.get_bind_apply, h.disk.isDirectory_eq]
  split
  · exact .error _ h
  · exact .ok rfl (h.report _)

theorem targetDir_alike (hs : s.Alike s') (h : w.Alike e e' w') :
    Action.Ends (·.Alike e e' ·) (· = ·) (s.targetDir w) (s'.targetDir w') := by
  rw [targetDir_eq, targetDir_eq, hs.targetDir, hs.contextDir]
  split
  · exact useDirectory_alike h _
  · exact (h.onDisk (h.disk.makeDirectories _)).bind fun _ _ _ _ _ h₁ => useDirectory_alike h₁ _

theorem directory_eq (h : w.Alike e e' w') {name : String}
    (hhome : (Path.ofString name).UsesHome → e'.get? "HOME" = e.get? "HOME") (base : Path) :
    Setup.directory w' base name = Setup.directory w base name := by
  rw [Setup.directory, Setup.directory, Workspace.expandHome_congr (by rwa [h.environment_eq, h.environment_eq'])]

theorem engine_eq (hs : s.Alike s') (hhome : s.UsesHome → e'.get? "HOME" = e.get? "HOME") (h : w.Alike e e' w') :
    s'.engine w' = s.engine w := by
  unfold Setup.engine
  rw [hs.profile, hs.contextDir, hs.profileDir]
  simp only [directory_eq h fun hp => hhome (.inl hp), directory_eq h fun hp => hhome (.inr hp),
    Engine.forDirectories_alike h.disk]

theorem prompts_eq (hs : s.Alike s') (databaseName : String) : s'.prompts databaseName = s.prompts databaseName := by
  rw [Setup.prompts, Setup.prompts, hs.profile, hs.table]

theorem checkGivenTable_alike (c : κ) (table : Option String) {x x' : Workspace × σ} (h : AlikeStates e e' x x') :
    Action.Ends (AlikeStates e e') (· = ·) (checkGivenTable c table x) (checkGivenTable c table x') := by
  cases table with
  | none => exact .of_eq h
  | some table =>
    unfold checkGivenTable
    dsimp only
    split
    · refine (inSource_alike _ h).bind ?_
      rintro names _ x₁ x₁' rfl h₁
      split
      · exact .of_eq h₁
      · exact .of_eq h₁
    · exact .of_eq h

theorem initialContext_alike (c : κ) (table : Option String) {x x' : Workspace × σ} (h : AlikeStates e e' x x') :
    Action.Ends (AlikeStates e e') (· = ·) (initialContext c table x) (initialContext c table x') := by
  cases table with
  | none => exact .of_eq h
  | some table =>
    unfold initialContext
    dsimp only
    split
    · exact .of_eq h
    · refine (inSource_alike _ h).bind ?_
      rintro schema _ x₁ x₁' rfl h₁
      rw [Action.get_bind_apply, Action.get_bind_apply, h₁.1.clock]
      exact .of_eq h₁

/-- The rest of a start does not tell alike setups and workspaces apart, and it keeps the environments. -/
theorem startOn_alike (hs : s.Alike s') (hhome : s.UsesHome → e'.get? "HOME" = e.get? "HOME") (h : w.Alike e e' w') :
    Action.Ends (AlikeStates e e') (AlikeTasks e e')
      (startOn s name (w, source) : Except Fault (Task σ κ) × _) (startOn s' name (w', source)) := by
  unfold startOn
  -- The steps are taken side by side; each leaves states that are alike, and gives both runs the same result.
  have hstates : AlikeStates e e' (w, source) (w', source) := ⟨h, rfl⟩
  refine (inWorkspace_alike hstates (targetDir_alike hs h)).bind ?_
  rintro dir _ x₁ x₁' rfl h₁
  refine (inSource_alike _ h₁).bind ?_
  rintro connection _ x₂ x₂' rfl h₂
  rw [hs.table]
  refine (checkGivenTable_alike connection s.table h₂).bind ?_
  rintro _ _ x₃ x₃' - h₃
  refine (initialContext_alike connection s.table h₃).bind ?_
  rintro context _ x₄ x₄' rfl h₄
  rw [Action.get_bind_apply, Action.get_bind_apply, engine_eq hs hhome h₄.1]
  refine (Action.Ends.of_eq h₄).bind ?_
  rintro engine _ ⟨w₅, source₅⟩ ⟨w₅', source₅'⟩ rfl ⟨hw, rfl⟩
  rw [prompts_eq hs]
  exact .ok ⟨hw, rfl⟩ ⟨hw, rfl⟩

end Start

/-! ### Files of variables -/

namespace Setup

variable {s : Setup} {file : Path}

/-- How the loading of a file of variables ends. What the file adds is set, up to the first variable that cannot be. -/
inductive Loaded (w : Workspace) (file : Path) : Except Fault Unit → Workspace → Prop
  /-- the environment asks for no files of variables -/
  | disabled (h : EnvFile.isDisabled w.environment = true) : Loaded w file (.ok ()) w
  /-- the bytes of the file are no text -/
  | undecodable {b} (h : EnvFile.isDisabled w.environment = false) (hread : w.disk.read file = .ok b)
      (hbytes : ¬ b.IsValidUTF8) : Loaded w file (.error (.foreign .notUnicode)) w
  /-- all that the file adds is set -/
  | loaded {text} (h : EnvFile.isDisabled w.environment = false) (hread : w.disk.readText file = .ok text)
      (hset : ∀ e ∈ EnvFile.additions w.environment text, EnvFile.IsSettable e) :
      Loaded w file (.ok ()) { w with environment := EnvFile.filled w.environment text }
  /-- something that the file adds cannot be set -/
  | unsettable {text} (h : EnvFile.isDisabled w.environment = false) (hread : w.disk.readText file = .ok text)
      (hset : ¬ ∀ e ∈ EnvFile.additions w.environment text, EnvFile.IsSettable e) :
      Loaded w file (.error (.foreign .wrongValue)) { w with environment := EnvFile.filled w.environment text }

theorem loadVariables_apply (hfile : w.disk.isFile file = true) : loadVariables file w =
    if EnvFile.isDisabled w.environment then (.ok (), w)
    else match w.disk.readText file with
      | .error f => (.error (.foreign f), w)
      | .ok text =>
        ((EnvFile.load text w.environment).1, { w with environment := (EnvFile.load text w.environment).2 }) := by
  unfold loadVariables
  rw [Action.get_bind_apply, hfile]
  cases EnvFile.isDisabled w.environment with
  | true => rfl
  | false => cases w.disk.readText file <;> rfl

theorem loadVariables_of_missing (hfile : w.disk.isFile file = false) : loadVariables file w =
    (.error (.validation ("Invalid env-file specified: " ++ file.toString ++ " not found")), w) := by
  unfold loadVariables
  rw [Action.get_bind_apply, hfile]
  rfl

/-- What is listed is what the loading of a file does. -/
theorem Loaded.eq {r : Except Fault Unit} (hfile : w.disk.isFile file = true) (h : Loaded w file r w') :
    loadVariables file w = (r, w') := by
  rw [loadVariables_apply hfile]
  cases h with
  | disabled h => rw [if_pos h]
  | undecodable h hread hbytes =>
    rw [if_neg (by simp [h]), Disk.readText_eq_error.mpr (.inr ⟨_, hread, hbytes, rfl⟩)]
  | loaded h hread hset =>
    rw [if_neg (by simp [h]), hread]
    dsimp only
    rw [EnvFile.load_apply, if_pos hset]
  | unsettable h hread hset =>
    rw [if_neg (by simp [h]), hread]
    dsimp only
    rw [EnvFile.load_apply, if_neg hset]

theorem exists_loaded (hfile : w.disk.isFile file = true) : ∃ r w', Loaded w file r w' := by
  cases h : EnvFile.isDisabled w.environment with
  | true => exact ⟨_, _, .disabled h⟩
  | false =>
    cases hread : w.disk.readText file with
    | error f =>
      obtain ⟨b, hb⟩ : ∃ b, w.disk.read file = .ok b := by
        obtain ⟨b, hb⟩ := Disk.isFile_eq_true.mp hfile
        exact ⟨b, by simp [Disk.read, hb, bind, Except.bind]⟩
      rcases Disk.readText_eq_error.mp hread with hf | ⟨b', hb', hbytes, rfl⟩
      · cases hb.symm.trans hf
      · exact ⟨_, _, .undecodable h hb' hbytes⟩
    | ok text =>
      by_cases hset : ∀ e ∈ EnvFile.additions w.environment text, EnvFile.IsSettable e
      · exact ⟨_, _, .loaded h hread hset⟩
      · exact ⟨_, _, .unsettable h hread hset⟩

/-- The loading of a file ends as it is listed. -/
theorem loadVariables_eq_iff {r : Except Fault Unit} (hfile : w.disk.isFile file = true) :
    loadVariables file w = (r, w') ↔ Loaded w file r w' := by
  refine ⟨fun h => ?_, fun h => h.eq hfile⟩
  obtain ⟨r', w'', hloaded⟩ := exists_loaded hfile
  obtain ⟨rfl, rfl⟩ := Prod.mk.inj ((hloaded.eq hfile).symm.trans h)
  exact hloaded

theorem Loaded.disk_eq {r : Except Fault Unit} (h : Loaded w file r w') : w'.disk = w.disk ∧ w'.log = w.log := by
  cases h <;> exact ⟨rfl, rfl⟩

/-- What a variable stands for after a file was loaded: its value before, or else the one that the file has for it, if
files of variables are heeded at all. -/
theorem Loaded.get? (h : Loaded w file (.ok ()) w') :
    EnvFile.isDisabled w.environment = true ∧ w' = w ∨
      ∃ text, w.disk.readText file = .ok text ∧ ∀ name, w'.environment.get? name =
        (w.environment.get? name).or ((EnvFile.found w.environment text).get? name).join := by
  cases h with
  | disabled h => exact .inl ⟨h, rfl⟩
  | loaded h hread hset => exact .inr ⟨_, hread, EnvFile.get?_filled hset⟩

/-! ### Finding the data source name -/

/-- The path of the file of variables: it starts from the directory of the context, or from the home directory. -/
structure NamesFile (s : Setup) (w : Workspace) (file : Path) : Prop where
  nonempty : s.directives.envFile ≠ ""
  path : (w.expandHome (Path.ofString s.directives.envFile)).map (s.contextDir / ·) = .ok file

/-- How a data source name is found when none is given, or what is wrong first. -/
inductive Resolves (s : Setup) (w : Workspace) : Except Fault String → Workspace → Prop
  /-- no file of variables is given -/
  | noFile (h : s.directives.envFile = "") :
      Resolves s w (.error (.validation
        "Invalid env-file specified. Either valid DSN or valid env-file is required.")) w
  /-- the file is in the home directory of somebody who is not known -/
  | homeless (h : s.directives.envFile ≠ "") (hpath : (Path.ofString s.directives.envFile).IsHomeless) :
      Resolves s w (.error (.foreign .unknownHome)) w
  /-- there is no such file -/
  | missing {file : Path} (h : s.NamesFile w file) (hfile : w.disk.isFile file = false) :
      Resolves s w (.error (.validation ("Invalid env-file specified: " ++ file.toString ++ " not found"))) w
  /-- the file cannot be loaded -/
  | unloaded {file : Path} {e : Fault} {w' : Workspace} (h : s.NamesFile w file) (hfile : w.disk.isFile file = true)
      (hloaded : Loaded w file (.error e) w') : Resolves s w (.error e) w'
  /-- no variable is given -/
  | noVariable {file : Path} {w' : Workspace} (h : s.NamesFile w file) (hfile : w.disk.isFile file = true)
      (hloaded : Loaded w file (.ok ()) w') (hvar : s.directives.envVar = "") :
      Resolves s w (.error (.validation
        "Invalid env-var specified. Either valid DSN or valid env-file and env-var is required.")) w'
  /-- the variable is not set, or empty -/
  | unset {file : Path} {w' : Workspace} (h : s.NamesFile w file) (hfile : w.disk.isFile file = true)
      (hloaded : Loaded w file (.ok ()) w') (hvar : s.directives.envVar ≠ "")
      (hvalue : ∀ v, w'.environment.get? s.directives.envVar = some v → v = "") :
      Resolves s w (.error (.validation ("Invalid env-var specified: " ++ s.directives.envVar ++ " is not set"))) w'
  /-- the variable has a value -/
  | found {file : Path} {w' : Workspace} {name : String} (h : s.NamesFile w file) (hfile : w.disk.isFile file = true)
      (hloaded : Loaded w file (.ok ()) w') (hvar : s.directives.envVar ≠ "")
      (hvalue : w'.environment.get? s.directives.envVar = some name) (hname : name ≠ "") :
      Resolves s w (.ok name) w'

theorem filter_nonempty_eq_none {value : Option String} :
    value.filter (· != "") = none ↔ ∀ v, value = some v → v = "" := by
  cases value <;> simp [Option.filter]

/-- A data source name that is given is taken as it is. -/
theorem dsn_of_given (h : s.directives.dsn ≠ "") (w : Workspace) : s.dsn w = (.ok s.directives.dsn, w) := by
  unfold dsn
  simp [h]

/-- The value of the variable for the data source name, which must be there. -/
def sourceVariable (s : Setup) (w : Workspace) : Except Fault String :=
  if s.directives.envVar = "" then
    .error (.validation "Invalid env-var specified. Either valid DSN or valid env-file and env-var is required.")
  else match (w.environment.get? s.directives.envVar).filter (· != "") with
    | some name => .ok name
    | none => .error (.validation ("Invalid env-var specified: " ++ s.directives.envVar ++ " is not set"))

theorem dsn_of_not_given (h : s.directives.dsn = "") (w : Workspace) : s.dsn w =
    if s.directives.envFile = "" then
      (.error (.validation "Invalid env-file specified. Either valid DSN or valid env-file is required."), w)
    else match directory w s.contextDir s.directives.envFile with
      | .error e => (.error e, w)
      | .ok file => match loadVariables file w with
        | (.error e, w₁) => (.error e, w₁)
        | (.ok (), w₁) => (s.sourceVariable w₁, w₁) := by
  have hdsn : s.dsn w = s.dsnFromVariable s.directives w := by
    unfold dsn
    simp [h]
  rw [hdsn]
  unfold dsnFromVariable
  split
  · rfl
  · beta_reduce
    rw [Action.get_bind_apply, Action.bind_apply, Action.ofExcept_apply]
    cases directory w s.contextDir s.directives.envFile with
    | error e => rfl
    | ok file =>
      dsimp only
      rw [Action.bind_apply]
      rcases loadVariables file w with ⟨e | u, w₁⟩
      · rfl
      · dsimp only
        unfold sourceVariable
        split
        · rfl
        · rw [Action.get_bind_apply]
          cases (w₁.environment.get? s.directives.envVar).filter (· != "") <;> rfl

/-- When no data source name is given, but a file of variables is, that is loaded. -/
theorem NamesFile.dsn_eq (hdsn : s.directives.dsn = "") (h : s.NamesFile w file) : s.dsn w =
    match loadVariables file w with
    | (.error e, w₁) => (.error e, w₁)
    | (.ok (), w₁) => (s.sourceVariable w₁, w₁) := by
  rw [dsn_of_not_given hdsn, if_neg h.nonempty, directory, if_neg h.nonempty, h.path]
  rfl

theorem NamesFile.dsn_of_error {e : Fault} (hdsn : s.directives.dsn = "") (h : s.NamesFile w file)
    (hload : loadVariables file w = (.error e, w')) : s.dsn w = (.error e, w') := by
  rw [h.dsn_eq hdsn, hload]

/-- Then the variable is looked up. -/
theorem NamesFile.dsn_of_loaded (hdsn : s.directives.dsn = "") (h : s.NamesFile w file)
    (hfile : w.disk.isFile file = true) (hloaded : Loaded w file (.ok ()) w') :
    s.dsn w = (s.sourceVariable w', w') := by
  rw [h.dsn_eq hdsn, (loadVariables_eq_iff hfile).mpr hloaded]

/-- What is listed is what happens when no data source name is given. -/
theorem Resolves.eq {r : Except Fault String} (hdsn : s.directives.dsn = "") (h : Resolves s w r w') :
    s.dsn w = (r, w') := by
  cases h with
  | noFile h => rw [dsn_of_not_given hdsn, if_pos h]
  | homeless h hpath =>
    rw [dsn_of_not_given hdsn, if_neg h, directory, if_neg h, Workspace.expandHome_eq_error.mpr ⟨hpath, rfl⟩]
    rfl
  | missing h hfile => exact h.dsn_of_error hdsn (loadVariables_of_missing hfile)
  | unloaded h hfile hloaded => exact h.dsn_of_error hdsn ((loadVariables_eq_iff hfile).mpr hloaded)
  | noVariable h hfile hloaded hvar => rw [h.dsn_of_loaded hdsn hfile hloaded, sourceVariable, if_pos hvar]
  | unset h hfile hloaded hvar hvalue =>
    rw [h.dsn_of_loaded hdsn hfile hloaded, sourceVariable, if_neg hvar, filter_nonempty_eq_none.mpr hvalue]
  | found h hfile hloaded hvar hvalue hname =>
    rw [h.dsn_of_loaded hdsn hfile hloaded, sourceVariable, if_neg hvar, hvalue,
      Option.filter_some_pos (by simpa using hname)]

theorem exists_resolves (s : Setup) (w : Workspace) : ∃ r w', Resolves s w r w' := by
  -- What can be wrong is gone through in the order in which it is looked at.
  by_cases henv : s.directives.envFile = ""
  · exact ⟨_, _, .noFile henv⟩
  cases hpath : w.expandHome (Path.ofString s.directives.envFile) with
  | error e =>
    obtain ⟨hhome, -⟩ := Workspace.expandHome_eq_error.mp hpath
    exact ⟨_, _, .homeless henv hhome⟩
  | ok p =>
    have hnames : s.NamesFile w (s.contextDir / p) := ⟨henv, by rw [hpath]; rfl⟩
    cases hfile : w.disk.isFile (s.contextDir / p) with
    | false => exact ⟨_, _, .missing hnames hfile⟩
    | true =>
      obtain ⟨r, w', hloaded⟩ := exists_loaded hfile
      rcases r with e | ⟨⟩
      · exact ⟨_, _, .unloaded hnames hfile hloaded⟩
      by_cases hvar : s.directives.envVar = ""
      · exact ⟨_, _, .noVariable hnames hfile hloaded hvar⟩
      cases hvalue : w'.environment.get? s.directives.envVar with
      | none => exact ⟨_, _, .unset hnames hfile hloaded hvar (by simp [hvalue])⟩
      | some name =>
        by_cases hname : name = ""
        · exact ⟨_, _, .unset hnames hfile hloaded hvar (by simp [hvalue, hname])⟩
        · exact ⟨_, _, .found hnames hfile hloaded hvar hvalue hname⟩

/-- When no data source name is given, it is found as listed. -/
theorem dsn_eq_iff {r : Except Fault String} (h : s.directives.dsn = "") : s.dsn w = (r, w') ↔ Resolves s w r w' := by
  refine ⟨fun hr => ?_, Resolves.eq h⟩
  obtain ⟨r', w'', hresolves⟩ := exists_resolves s w
  obtain ⟨rfl, rfl⟩ := Prod.mk.inj ((hresolves.eq h).symm.trans hr)
  exact hresolves

/-- While the data source name is found, nothing is created and nothing is logged. -/
theorem Resolves.disk_eq {r : Except Fault String} (h : Resolves s w r w') : w'.disk = w.disk ∧ w'.log = w.log := by
  cases h with
  | noFile => exact ⟨rfl, rfl⟩
  | homeless => exact ⟨rfl, rfl⟩
  | missing => exact ⟨rfl, rfl⟩
  | unloaded _ _ hloaded => exact hloaded.disk_eq
  | noVariable _ _ hloaded => exact hloaded.disk_eq
  | unset _ _ hloaded => exact hloaded.disk_eq
  | found _ _ hloaded => exact hloaded.disk_eq

/-- Without a data source name a start is rejected, unless the home directory is not known, or the file is there and cannot
be loaded. -/
theorem Resolves.error_cases (h : Resolves s w (.error fault) w') : fault.isValidation = true ∨
    (fault = .foreign .unknownHome ∧ (Path.ofString s.directives.envFile).IsHomeless) ∨
    ∃ file, s.NamesFile w file ∧ w.disk.isFile file = true ∧ Loaded w file (.error fault) w' := by
  cases h with
  | noFile => exact .inl rfl
  | homeless _ hpath => exact .inr (.inl ⟨rfl, hpath⟩)
  | missing => exact .inl rfl
  | unloaded h hfile hloaded => exact .inr (.inr ⟨_, h, hfile, hloaded⟩)
  | noVariable => exact .inl rfl
  | unset => exact .inl rfl

end Setup

namespace Shop

/-- A setup with a file of variables, and perhaps a data source name. -/
def variableSetup (envFile dsn : String) : Setup :=
  { profile := { config := { dsn, envFile, envVar := "DSN" } }, contextDir := Path.ofString "/" }

/-- A disk with a file of variables. -/
def variableDisk : Disk :=
  { files := { entries := [(["e"], .directory), (["e", ".env"], .file "DSN=memory:\nLANG=C\n".toUTF8)] } }

/-- A workspace with the file, and perhaps a variable that is set already. -/
def variableWorkspace (environment : OrderedMap String) : Workspace :=
  { disk := variableDisk, environment }

end Shop

end Task

end Stencil
