import Stencil.Files.Disk
import Stencil.OrderedMap
import Stencil.Shell.Syntax

namespace Stencil.Shell

/-!
# Sessions of a shell

* `Machine` — what all processes share: files, open channels and the texts of scripts;
* `Process` — what a process has for itself: variables, streams and settings;
* `Exec` — computations in a session, which may end early.
-/

/-! ### Machines -/

/-- What an open channel leads to. -/
inductive Channel where
  /-- keeps what is written; the last piece comes first -/
  | collector (pieces : List Raw)
  /-- what another process reads; that one stops reading at some point -/
  | pipe (pieces : List Raw) (size : Nat)
  /-- what is still to be read of what another process has written -/
  | source (rest : Raw)
  | file (l : Location)
  | nowhere
  deriving Inhabited

/-- An open channel. Its position is shared by all streams that lead to it. -/
structure Opening where
  channel : Channel
  position : Nat := 0
  appends : Bool := false
  canRead : Bool := true
  canWrite : Bool := true
  deriving Inhabited

/-- What all processes share. -/
structure Machine where
  files : FileSystem := {}
  openings : List (Nat × Opening) := []
  /-- the number of the next opening or process -/
  fresh : Nat := 100
  /-- the time that has gone by, in milliseconds -/
  elapsed : Nat := 0
  documents : Array Word := #[]
  /-- for each shell the signals for which it has something to do -/
  trapped : List (Nat × List Nat) := []
  /-- signals that a shell has still to notice -/
  pending : List (Nat × Nat) := []
  deriving Inhabited

/-! ### Processes -/

/-- A variable. It may be known without having a value. -/
structure Variable where
  value : Option Raw := none
  isExported : Bool := false
  isReadOnly : Bool := false
  deriving Repr, BEq, DecidableEq, Inhabited

/-- A process that was started and not waited for. -/
structure Job where
  id : Nat
  status : Nat
  /-- whether it would still be sleeping -/
  sleeps : Bool
  deriving Repr, BEq, DecidableEq, Inhabited

/-- What a process has for itself. -/
structure Process where
  /-- the number of the shell, which its children without a program of their own report, too -/
  shell : Nat := 2
  /-- the number of the process itself -/
  id : Nat := 2
  parent : Nat := 1
  directory : Location := []
  name : Raw := ['s', 'h']
  arguments : List Raw := []
  vars : OrderedMap Variable := []
  /-- the values to which variables return at the end of a function, innermost function first -/
  locals : List (List (String × Option Variable)) := []
  functions : OrderedMap (Nat × Command) := []
  aliases : OrderedMap Raw := []
  /-- the names of programs that have been found before -/
  remembered : List Raw := []
  /-- the letters of the settings that are on -/
  settings : List Char := []
  /-- what is done on signals; number zero is the end of the shell -/
  traps : List (Nat × Raw) := []
  /-- the openings of the streams -/
  streams : List (Nat × Nat) := []
  /-- the exit code of the last command -/
  status : Nat := 0
  /-- the exit code of the last command whose output was used in the current one -/
  outputStatus : Nat := 0
  jobs : List Job := []
  lastJob : Option Nat := none
  line : Nat := 1
  /-- the first line of the function that is run -/
  functionLine : Nat := 0
  /-- the command of the shell that is run -/
  caller : Option Raw := none
  /-- how many loops are around -/
  loops : Nat := 0
  inFunction : Bool := false
  /-- the position of the options inside an argument that have been read -/
  optionPosition : Nat := 0
  /-- the permissions that new files do not get -/
  mask : Nat := 18
  deriving Inhabited

/-- A running shell. -/
structure Session where
  machine : Machine := {}
  process : Process := {}
  deriving Inhabited

/-- How commands end early. -/
inductive Stop where
  /-- the shell ends -/
  | exit (code : Nat)
  /-- an error of the shell itself, which ends it unless the command contains it -/
  | failure (code : Nat)
  /-- a signal has ended a process -/
  | killed (process signal : Nat)
  /-- nobody reads what the process writes -/
  | brokenPipe
  | leaveLoops (count : Nat)
  | nextTurn (count : Nat)
  | leaveFunction (code : Nat)
  deriving Repr, BEq, DecidableEq, Inhabited

/-- Computations in a session. -/
abbrev Exec := ExceptT Stop (StateM Session)

namespace Exec

/-- The process. -/
def process : Exec Process := do
  return (← get).process

/-- Change the process. -/
def update (f : Process → Process) : Exec Unit :=
  modify fun s => { s with process := f s.process }

/-- Change the machine. -/
def updateMachine (f : Machine → Machine) : Exec Unit :=
  modify fun s => { s with machine := f s.machine }

/-- The files, seen from the directory of the process. -/
def disk : Exec Disk := do
  let s ← get
  return { files := s.machine.files, current := s.process.directory }

/-- A number that has not been used. -/
def fresh : Exec Nat := do
  let n := (← get).machine.fresh
  updateMachine fun m => { m with fresh := n + 1 }
  return n

/-- Run a computation, and another one after it, however the first one ends. -/
def andAlways {α : Type} (act : Exec α) (after : Exec Unit) : Exec α := fun s =>
  let (result, s) := act.run s
  match (after.run s : Except Stop Unit × Session) with
  | (.ok (), s) => (result, s)
  | (.error stop, s) => (.error stop, s)

/-- Run a computation and look at how it ends. -/
def attempt {α : Type} (act : Exec α) : Exec (Except Stop α) := fun s =>
  let (result, s) := act.run s
  (.ok result, s)

/-! ### Files -/

/-- The location of a file that is asked for by its name. The name of a directory may end in a slash. -/
def locate (name : Raw) : Exec (Except FileFault Location) := do
  if name.isEmpty then return .error .missing
  let d ← disk
  match d.locate (Path.ofString (Raw.toString name)) with
  | .error (.file f) => return .error f
  | .error _ => return .error .missing
  | .ok l =>
    let wantsDirectory := name.getLast? = some '/' || Text.endsWith ['/', '.'] name
    match wantsDirectory, d.files.get? l with
    | true, some (.file _) => return .error .notDirectory
    | _, _ => return .ok l

/-- What stands at a location. -/
def entryAt (l : Location) : Exec (Option Entry) := do
  return (← get).machine.files.get? l

/-- The entry with a name. -/
def entry (name : Raw) : Exec (Except FileFault Entry) := do
  match ← locate name with
  | .error f => return .error f
  | .ok l =>
    match ← entryAt l with
    | some e => return .ok e
    | none => return .error .missing

/-- The bytes of a file. -/
def bytesAt (l : Location) : Exec Raw := do
  return ((← get).machine.files.bytes? l).elim [] fun b => Raw.ofBytes b.toList

/-- Put an entry at a location. -/
def putAt (l : Location) (e : Entry) : Exec Unit :=
  updateMachine fun m => { m with files := m.files.set l e }

/-- Replace the content of the file at a location. -/
def writeAt (l : Location) (content : Raw) : Exec Unit :=
  putAt l (.file ⟨(Raw.toBytes content).toArray⟩)

/-- Remove the entry at a location. -/
def eraseAt (l : Location) : Exec Unit :=
  updateMachine fun m => { m with files := m.files.erase l }

/-- The names inside a directory, in order. -/
def namesIn (l : Location) : Exec (List Raw) := do
  let inside := (← get).machine.files.entries.filterMap fun (k, _) =>
    if k.length = l.length + 1 && l.isPrefixOf k then k.getLast?.map Raw.ofString else none
  return inside.mergeSort Raw.before

/-- The words for a failure of a file operation. -/
def problem : FileFault → String
  | .missing => "No such file or directory"
  | .isDirectory => "Is a directory"
  | .notDirectory => "Not a directory"
  | .alreadyExists => "File exists"
  | .nameTooLong => "File name too long"
  | .notEmpty => "Directory not empty"

/-! ### Variables -/

/-- The value of a variable. -/
def value? (name : Raw) : Exec (Option Raw) := do
  return ((← process).vars.get? (.ofList name)).bind (·.value)

/-- The value of a variable, empty if it has none. -/
def valueOf (name : String) : Exec Raw := do
  return (← value? name.toList).getD []

/-- Set a variable whatever its state. -/
def setRaw (name : Raw) (value : Raw) : Exec Unit :=
  update fun p =>
    let v := (p.vars.get? (.ofList name)).getD {}
    let exported := v.isExported || p.settings.contains 'a'
    { p with
      vars := p.vars.put (.ofList name) { v with value := some value, isExported := exported }
      optionPosition := if name = "OPTIND".toList then 0 else p.optionPosition
      remembered := if name = "PATH".toList then [] else p.remembered }

/-- The separators of fields. -/
def separators : Exec Raw := do
  return (← value? "IFS".toList).getD [' ', '\t', '\n']

/-- What stands between arguments that are joined. -/
def joiner : Exec Raw := do
  return (← separators).take 1

/-- The environment that programs see. -/
def environment : Exec (List (Raw × Raw)) := do
  return (← process).vars.filterMap fun (name, v) =>
    if v.isExported then v.value.map fun value => (name.toList, value) else none

end Exec

end Stencil.Shell
