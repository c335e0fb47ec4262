import Stencil.Profile.Basic
import Stencil.Shell.Run
import Stencil.Template.Engine
import Stencil.Workspace

namespace Stencil

/-!
# Generating targets

A generator renders the targets of a profile and writes them to files below a directory. A target may have a
formatter, a command line that is run after its file has been written.

* `Generator` — an engine, the directory and the names that templates see;
* `Generator.generate` — one target;
* `Generator.generateAll` — the targets of a profile, up to the first whose condition is not met.
-/

/-- What runs command lines. -/
abbrev CommandRunner := Workspace → String → Except Foreign Shell.Outcome

/-- The shell of a workspace. -/
def CommandRunner.shell : CommandRunner :=
  fun w source => Shell.run w.disk w.environment source

/-- A target that has been written. -/
structure GeneratedTarget where
  targetId : String
  path : Path
  /-- the exit code of the formatter, if there is one -/
  formatterExitCode : Option Int := none
  deriving Repr, BEq, DecidableEq, Inhabited

/-- The formatter ran and did not succeed. -/
def GeneratedTarget.formatterFailed (t : GeneratedTarget) : Bool :=
  t.formatterExitCode.any (· != 0)

/-- What targets are made with. -/
structure Generator where
  engine : Engine
  targetDir : Path
  context : OrderedMap Value

namespace Generator

/-! ### Conditions and paths -/

/-- What a condition must render to, blanks aside. -/
def conditionTrue : String := "1"

/-- Whether a condition holds; no condition holds always. -/
def conditionMet (g : Generator) (d : Disk) : Option String → Except Fault Bool
  | none => .ok true
  | some source => do
    return Text.trimmed (← g.engine.renderString d source g.context) == conditionTrue

/-- Whether a text is rendered: it has the start of a tag in it. -/
def hasTag (s : String) : Bool :=
  Text.occursIn ['{', '{'] s.toList || Text.occursIn ['{', '%'] s.toList

/-- The path of a target inside the directory of the generator. -/
def relativePath (g : Generator) (d : Disk) (t : TargetDefinition) : Except Fault String := do
  if hasTag t.target then return Text.trimmed (← g.engine.renderString d t.target g.context)
  else return t.target

/-- The file that a target is written to. -/
def outputPath (g : Generator) (d : Disk) (t : TargetDefinition) : Except Fault Path := do
  return g.targetDir / Path.ofString (← g.relativePath d t)

/-! ### Files and formatters -/

/-- Write a text to a file, and create the directories that lead to it. -/
def writeFile (p : Path) (text : String) : ExceptT Foreign (StateM Disk) Unit := do
  Disk.makeDirectories p.parent
  match (← get).write p text.toUTF8 with
  | .ok d => set d
  | .error f => throw f

/-- Add a record to the log. -/
def report (r : LogRecord) : Work Unit :=
  modify (·.report r)

/-- Do something to the files of a workspace. -/
def onDisk (act : ExceptT Foreign (StateM Disk) Unit) (problem : Foreign → Fault) : Work Unit := fun w =>
  match act.run.run w.disk with
  | (.ok (), disk) => (.ok (), { w with disk })
  | (.error f, disk) => (.error (problem f), { w with disk })

/-- A failure of the operating system becomes one of the program; other failures stay what they are. -/
def explained (message : String) : Foreign → Fault
  | .file _ => .runtime (message ++ ": " ++ detail)
  | f => .foreign f

/-- The text of what a command line has written. -/
def decoded (bytes : List UInt8) : Except Fault String :=
  match String.fromUTF8? ⟨bytes.toArray⟩ with
  | some s => .ok (.ofList (Text.trim (Text.unifyLineEnds s.toList)))
  | none => .error (.foreign .notUnicode)

/-- Report what a formatter has written and how it ended. -/
def reportFormatter (targetId output errors : String) (status : Int) : Work Unit := do
  if !output.isEmpty then report (.info ("Target '" ++ targetId ++ "' formatter output: " ++ output))
  if status != 0 then
    report (.warning ("Formatter for target '" ++ targetId ++ "' exited with code " ++ toString status ++
      ": " ++ errors))

/-- Run a formatter for a file and wait for it; its exit code is reported, and never a failure. -/
def runFormatter (run : CommandRunner) (g : Generator) (targetId formatter : String) (path : Path) :
    Work Int := do
  let w ← get
  let source ← Action.ofExcept (g.engine.renderString w.disk formatter [("target", .str path.toString)])
  match run w source with
  | .error f => throw (explained ("Failed to run formatter for target " ++ targetId) f)
  | .ok outcome =>
    set { w with disk := outcome.disk }
    let output ← Action.ofExcept (decoded outcome.output)
    let errors ← Action.ofExcept (decoded outcome.errors)
    reportFormatter targetId output errors outcome.status
    return outcome.status

/-! ### Targets -/

/-- Render a target, write it and run its formatter. -/
def generate (run : CommandRunner) (g : Generator) (targetId : String) (t : TargetDefinition) :
    Work GeneratedTarget := do
  let d := (← get).disk
  let text ← Action.ofExcept (g.engine.renderTemplate d t.template g.context)
  let path ← Action.ofExcept (g.outputPath d t)
  onDisk (writeFile path text)
    (explained ("Failed to write target " ++ targetId ++ " to " ++ path.toString))
  report (.info ("Wrote target '" ++ targetId ++ "' to " ++ path.toString))
  match t.formatter with
  | some formatter =>
    if formatter.isEmpty then return ⟨targetId, path, none⟩
    return ⟨targetId, path, some (← g.runFormatter run targetId formatter path)⟩
  | none => return ⟨targetId, path, none⟩

/-- Generate targets in order. The first one whose condition is not met ends the generation; ids without a
definition are passed over. -/
def generateTargets (run : CommandRunner) (g : Generator) (p : Profile) :
    List String → Work (List GeneratedTarget)
  | [] => return []
  | id :: ids => do
    match p.target.get? id with
    | none => generateTargets run g p ids
    | some t =>
      if ← Action.ofExcept (g.conditionMet (← get).disk t.condition) then
        let made ← g.generate run id t
        return made :: (← generateTargets run g p ids)
      else
        report (.info ("Condition for target '" ++ id ++
          "' not met, skipping it and all remaining targets"))
        return []

/-- Generate the targets of a profile. -/
def generateAll (run : CommandRunner) (g : Generator) (p : Profile) : Work (List GeneratedTarget) :=
  generateTargets run g p p.config.targets

end Generator

end Stencil
