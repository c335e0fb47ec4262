import Stencil.EnvFile
import Stencil.Profile.Directives
import Stencil.Task.Answer

namespace Stencil

/-!
# Starting tasks

* `Task.Setup` — what a task is started with;
* `Task.Setup.dsn` — the data source name: as given, or else a variable, after the file of variables has been
  loaded;
* `Task.start` — a task with its connection and its prompts.
-/

namespace Task

/-- What a task is started with. Relative target directories start from `contextDir`, relative directories of
templates and scripts from `profileDir`. -/
structure Setup where
  profile : Profile
  contextDir : Path
  table : Option String := none
  overrides : Option Overrides := none
  profileDir : Option Path := none
  deriving Inhabited

namespace Setup

/-- The directives in effect. -/
def directives (s : Setup) : Directives :=
  .effective s.profile.config s.overrides

/-- A directory that a directive names, relative to another; the other one itself if there is no name. -/
def directory (w : Workspace) (base : Path) (name : String) : Except Fault Path :=
  if name = "" then .ok (base / base) else (w.expandHome (Path.ofString name)).map (base / ·)

/-- Load a file of variables into the environment, unless that asks for none. -/
def loadVariables (file : Path) : Work Unit := do
  let w ← get
  if !w.disk.isFile file then
    throw (.validation ("Invalid env-file specified: " ++ file.toString ++ " not found"))
  if EnvFile.isDisabled w.environment then return
  let text ← Action.ofExcept ((w.disk.readText file).mapError .foreign)
  fun w =>
    let (result, environment) := EnvFile.load text w.environment
    (result, { w with environment })

/-- The data source name that a variable holds after the file of variables has been loaded. -/
def dsnFromVariable (s : Setup) (d : Directives) : Work String := do
  if d.envFile = "" then
    throw (.validation "Invalid env-file specified. Either valid DSN or valid env-file is required.")
  loadVariables (← Action.ofExcept (directory (← get) s.contextDir d.envFile))
  if d.envVar = "" then
    throw (.validation
      "Invalid env-var specified. Either valid DSN or valid env-file and env-var is required.")
  match ((← get).environment.get? d.envVar).filter (· != "") with
  | some dsn => return dsn
  | none => throw (.validation ("Invalid env-var specified: " ++ d.envVar ++ " is not set"))

/-- The data source name. -/
def dsn (s : Setup) : Work String := do
  let d := s.directives
  if d.dsn != "" then return d.dsn
  s.dsnFromVariable d

/-- Create a directory and the directories that lead to it. -/
def createDirectory (p : Path) : Work Unit :=
  Generator.onDisk (Disk.makeDirectories p) fun
    | .file _ => .validation
      ("Invalid target-dir specified: cannot create " ++ p.toString ++ ": " ++ detail)
    | f => .foreign f

/-- The directory that targets are written to. -/
def targetDir (s : Setup) : Work Path := do
  let name := s.directives.targetDir
  let isHere := name = "" || name = "."
  let path := if isHere then s.contextDir else s.contextDir / Path.ofString name
  if !isHere then createDirectory path
  if !(← get).disk.isDirectory path then
    throw (.validation
      ("Invalid target-dir specified: " ++ path.toString ++ " must exist and be writable"))
  Generator.report (.info ("Target directory: " ++ path.toString))
  return path

/-- The engine for the directories of the profile. -/
def engine (s : Setup) (w : Workspace) : Except Fault Engine := do
  let base := s.profileDir.getD s.contextDir
  let config := s.profile.config
  let scripts ←
    if config.scriptsDir = "" then pure none
    else some <$> directory w base config.scriptsDir
  let templates ← directory w base config.templatesDir
  Engine.forDirectories w.disk templates scripts

/-- The prompts of a task: for the database if none is bound, for the table if none is given, and those of the
profile. -/
def prompts (s : Setup) (databaseName : String) : List TaskPrompt :=
  (if databaseName = "" then [.database] else []) ++ (if s.table.isNone then [.table] else []) ++
    s.profile.config.prompts.filterMap fun id =>
      (s.profile.prompt.get? id).map fun definition => .generic id definition

end Setup

variable {σ κ : Type} [Source σ κ]

/-- A computation in the workspace beside a source. -/
def inWorkspace {α : Type} (act : Work α) : Action (Workspace × σ) α := fun (w, source) =>
  match act w with
  | (r, w) => (r, (w, source))

/-- A computation of the source beside a workspace. -/
def inSource {α : Type} (act : Action σ α) : Action (Workspace × σ) α := fun (w, source) =>
  match act source with
  | (r, source) => (r, (w, source))

/-- Check a table that is given, if a database is bound; otherwise it is checked later. -/
def checkGivenTable (connection : κ) (table : Option String) : Action (Workspace × σ) Unit := do
  match table with
  | none => return
  | some table =>
    if Source.databaseName σ connection != "" then
      if !(← inSource (Source.listTables connection)).contains table then throw (noTable table)

/-- The context at the start: bound if the database and the table are known. -/
def initialContext (connection : κ) (table : Option String) : Action (Workspace × σ) Context := do
  match table with
  | none => return {}
  | some table =>
    if Source.databaseName σ connection = "" then return {}
    let schema ← inSource (Source.reflect connection)
    Action.ofExcept (Context.bind {} schema table (← get).1.clock)

/-- Start a task. -/
def start (s : Setup) : Action (Workspace × σ) (Task σ κ) := do
  let dsn ← inWorkspace s.dsn
  let targetDir ← inWorkspace s.targetDir
  let connection ← inSource (Source.connect dsn)
  checkGivenTable connection s.table
  let context ← initialContext connection s.table
  let engine ← Action.ofExcept (s.engine (← get).1)
  let (workspace, source) ← get
  return {
    profile := s.profile, targetDir, engine, workspace, source, connection
    prompts := s.prompts (Source.databaseName σ connection), table := s.table, context }

end Task

end Stencil
