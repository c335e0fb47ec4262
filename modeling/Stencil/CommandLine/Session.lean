import Stencil.CommandLine.Command
import Stencil.Dialog.Interview
import Stencil.Dialog.Terminal
import Stencil.Registry.Change
import Stencil.Source.Server
import Stencil.Task.Preset
import Stencil.Task.Start

namespace Stencil.CommandLine

/-!
# Sessions

A session is one execution of a command at a terminal. Failures are shown there, and the exit code tells about
them.

* `Session` — the surroundings of a command;
* `Session.execute` — execute the command of a list of arguments.
-/

/-- The surroundings of a command: the workspace, the terminal, and the exchange with a server. -/
structure Session where
  workspace : Workspace
  terminal : Dialog.Terminal := {}
  exchange : Exchange := {}
  deriving Inhabited

namespace Session

/-! ### Output -/

/-- Show a markup. -/
def print (text : String) (s : Session) : Session :=
  { s with terminal := s.terminal.print text }

/-- Show a table. -/
def showTable (title : String) (headers : List String) (rows : List (List String)) (s : Session) : Session :=
  { s with terminal := s.terminal.record (.table title headers rows) }

/-- Show a failure. -/
def showFailure (kind text : String) : Session → Session :=
  print ("[bold red]" ++ kind ++ ":[/bold red] " ++ text)

/-- What a failure of a run is called. -/
def kindOf : Fault → String
  | .validation _ _ => "Validation Error"
  | .database _ => "Database Error"
  | .foreign _ => "Unexpected error"
  | _ => "Error"

/-- What a failure of a run says. -/
def textOf : Fault → String
  | .foreign (.other text) => text
  | .foreign .endOfInput => ""
  | fault => fault.words

/-- A computation in the workspace of a session. -/
def inWorkspace {α : Type} (act : Work α) : Action Session α := fun s =>
  match act s.workspace with
  | (r, workspace) => (r, { s with workspace })

/-! ### Profiles -/

/-- A computation with the registry. -/
def withRegistry {α : Type} (act : Action Registry.Session α) : Action Session α := do
  let registry ← inWorkspace (Registry.ofFile none)
  inWorkspace fun w =>
    match act { workspace := w, registry } with
    | (r, s) => (r, s.workspace)

/-- Register a profile. -/
def addProfile (path : String) (name : Option String) (isDefault : Bool) : Action Session Unit := do
  let text ← withRegistry do
    let registered ← Registry.add (name.getD "") path isDefault
    let file ← Action.ofExcept ((← get).registry.path registered)
    return "[green]✓[/green] Added profile [bold]" ++ registered ++ "[/bold] (" ++ file.toString ++ ")"
  modify (print text)

/-- Show the profiles. -/
def listProfiles : Action Session Unit := do
  let profiles ← withRegistry do return (← get).registry.profiles
  if profiles.isEmpty then
    modify (print "[yellow]No profiles configured[/yellow]")
    modify (print "Run [bold]ctgen config add[/bold] to add one")
  else
    modify (showTable "Profiles" ["Name", "Path"] (profiles.map fun (name, path) => [name, path]))

/-- Forget a profile. -/
def removeProfile (name : String) : Action Session Unit := do
  withRegistry (Registry.remove name)
  modify (print ("[green]✓[/green] Removed profile [bold]" ++ name ++ "[/bold]"))

/-- The exit code of a command for the registry; failures of the program are shown. -/
def registryStatus (act : Action Session Unit) : StateM Session Int := fun s =>
  match act s with
  | (.ok (), s) => (0, s)
  | (.error fault, s) => (1, if fault.isOwn then showFailure "Error" fault.words s else s)

/-! ### Runs -/

/-- The file and the profile of a run. -/
def profileFor (o : RunOptions) : Action Session (Path × Profile) := do
  match o.profileFile with
  | some text =>
    let d := (← get).workspace.disk
    let file := d.resolve (Path.ofString text)
    return (file, ← Action.ofExcept (Profile.load d file))
  | none =>
    let file ← withRegistry do Action.ofExcept ((← get).registry.path o.profile)
    return (file, ← Action.ofExcept (Profile.load (← get).workspace.disk file (some o.profile)))

/-- What the formatter column says of a target. -/
def formatterCell (t : GeneratedTarget) : String :=
  match t.formatterExitCode with
  | none => "-"
  | some status => if t.formatterFailed then "[red]exit " ++ toString status ++ "[/red]" else "✓"

/-- Show what has been generated. -/
def showTargets (targets : List GeneratedTarget) (s : Session) : Session :=
  if targets.isEmpty then print "[yellow]No targets generated[/yellow]" s
  else
    showTable "Generated Targets" ["Target", "File", "Formatter"]
      (targets.map fun t => [t.targetId, t.path.toString, formatterCell t]) s

/-- A task over a server, and the terminal at which its prompts are answered. -/
abbrev Interview := Dialog.Interview Exchange Server.Pool Dialog.Terminal

/-- Answer the prompts of a task and generate its targets. -/
def generate (runner : CommandRunner) (presets : OrderedMap Value) :
    Action Interview (List GeneratedTarget) := do
  Dialog.Interview.askAll presets
  let t := (← get).task
  let name := if t.profile.config.name = "" then "profile" else t.profile.config.name
  let title := "[bold]Generating " ++ name ++ " for " ++ t.table.getD "None" ++ "...[/bold]\n"
  Dialog.Interview.onAsker (modify (·.print title))
  Dialog.Interview.onTask (Task.run runner)

/-- Start a task and do something with it; at the end its connection is given up. -/
def withTask {α : Type} (setup : Task.Setup) (act : Action Interview α) : Action Session α := fun s =>
  match (Task.start setup : Action (Workspace × Exchange) _) (s.workspace, s.exchange) with
  | (.error fault, workspace, exchange) => (.error fault, { s with workspace, exchange })
  | (.ok task, _, _) =>
    let (r, i) := act { task, asker := s.terminal }
    let (closed, task) := Task.close i.task
    let r := match closed with
      | .ok () => r
      | .error fault => .error fault
    (r, { workspace := task.workspace, terminal := i.asker, exchange := task.source })

/-- Generate the targets of a profile for a table. -/
def run (runner : CommandRunner) (o : RunOptions) : Action Session Unit := do
  let (file, profile) ← profileFor o
  let presets ← Action.ofExcept (Preset.parseAll o.answers)
  let d := (← get).workspace.disk
  let setup : Task.Setup := {
    profile, table := o.table, overrides := some o.overrides, profileDir := some file.parent
    contextDir := d.resolve ((o.contextDir.map Path.ofString).getD Path.here) }
  let targets ← withTask setup (generate runner presets)
  modify (showTargets targets)

/-- The exit code of a run; all failures are shown. -/
def runStatus (act : Action Session Unit) : StateM Session Int := fun s =>
  match act s with
  | (.ok (), s) => (0, s)
  | (.error fault, s) => (1, showFailure (kindOf fault) (textOf fault) s)

/-! ### Commands -/

/-- The exit code of a wrong use. -/
def usageStatus : Int := 2

/-- Execute the command of a list of arguments; its exit code. -/
def execute (runner : CommandRunner) (arguments : List String) : StateM Session Int := do
  match Command.read (← get).workspace.environment arguments with
  | none => return usageStatus
  | some .help => return 0
  | some (.addProfile path name isDefault) =>
    if isDefault && name.any (· != "") then
      modify (showFailure "Error" "--default and --name cannot be used together")
      return 1
    registryStatus (addProfile path name isDefault)
  | some .listProfiles => registryStatus listProfiles
  | some (.removeProfile name) => registryStatus (removeProfile name)
  | some (.run options) => runStatus (run runner options)

end Session

end Stencil.CommandLine
