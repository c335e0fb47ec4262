import Stencil.Shell.Program.Calculate
import Stencil.Shell.Program.Edit
import Stencil.Shell.Program.Field
import Stencil.Shell.Program.Find
import Stencil.Shell.Program.Match
import Stencil.Shell.Program.Replace
import Stencil.Shell.Script

namespace Stencil.Shell

/-!
# Finding commands

The name of a command may be that of a function, of a command of the shell or of a program in one of the
directories of the search path.

* `Program.all` — the programs by name;
* `Lookup` — what a name stands for;
* `Exec.lookUp` — find it;
* `Exec.describe` — say what it is.
-/

/-- The programs by name. -/
def Program.all : List (String × Program) :=
  [("[", bracket), ("basename", basename), ("cat", cat), ("chmod", chmod), ("comm", comm), ("cp", cp),
   ("cut", cut), ("dirname", dirname), ("du", du), ("echo", echo), ("egrep", egrep), ("env", env),
   ("expand", expand), ("expr", expr), ("false", false_), ("fgrep", fgrep), ("find", find), ("fold", fold),
   ("grep", grep), ("head", head), ("id", id), ("join", join), ("ln", ln), ("ls", ls), ("mkdir", mkdir),
   ("mv", mv), ("nice", nice), ("nl", nl), ("nohup", nohup), ("paste", paste), ("printenv", printenv),
   ("printf", printf), ("readlink", readlink), ("realpath", realpath), ("rev", rev), ("rm", rm),
   ("rmdir", rmdir), ("sed", sed), ("seq", seq), ("sleep", sleep), ("sort", sort), ("split", split),
   ("stat", stat), ("stdbuf", stdbuf), ("tac", tac), ("tail", tail), ("tee", tee), ("test", test),
   ("timeout", timeout), ("touch", touch), ("tr", tr), ("true", true_), ("truncate", truncate),
   ("uname", uname), ("unexpand", unexpand), ("uniq", uniq), ("wc", wc), ("which", which),
   ("whoami", whoami), ("xargs", xargs), ("yes", yes)]

/-- What the name of a command stands for. -/
inductive Lookup where
  | function
  | builtin
  | program (path : Raw)
  /-- a file that is a script -/
  | script (path : Raw)
  | missing
  /-- a file that may not be run -/
  | denied
  deriving Repr, BEq, DecidableEq, Inhabited

namespace Lookup

/-- The commands of the shell that are not special. -/
def regularNames : List String :=
  ["[", "alias", "bg", "cd", "chdir", "command", "echo", "false", "fg", "getopts", "hash", "jobs", "kill",
   "printf", "pwd", "read", "test", "true", "type", "ulimit", "umask", "unalias", "wait"]

/-- Whether a name is that of a special command of the shell. -/
def isSpecial (name : Raw) : Bool :=
  Reader.reservedNames.contains (.ofList name)

/-- Whether a name is that of a command of the shell. -/
def isBuiltin (name : Raw) : Bool :=
  isSpecial name || regularNames.contains (.ofList name)

/-- The directories that hold the programs. -/
def programDirectories : List String :=
  ["/usr/bin", "/bin"]

/-- Programs that are shells. -/
def shells : List String :=
  ["sh", "dash", "bash"]

/-- Whether there is a program with a name. -/
def isProgram (name : Raw) : Bool :=
  let s := String.ofList name
  shells.contains s || (Program.all.lookup s).isSome

/-- The directory and the name of a path. -/
def splitPath (path : Raw) : Raw × Raw :=
  match Text.cutAtLast? '/' path with
  | some (directory, name) => (directory, name)
  | none => ([], path)

/-- Whether a path leads to one of the programs. -/
def isProgramPath (path : Raw) : Bool :=
  let (directory, name) := splitPath path
  programDirectories.contains (.ofList directory) && isProgram name

end Lookup

namespace Exec

open Lookup

/-- What a path leads to. -/
def lookUpPath (path : Raw) : Exec Lookup := do
  if isProgramPath path then return .program path
  match ← locate path with
  | .error .missing => return .missing
  | .error .notDirectory => return .missing
  | .error _ => return .denied
  | .ok l =>
    match ← entryAt l with
    | none => return .missing
    | some .directory => return .denied
    | some (.file _) =>
      return if (← get).machine.files.isRunnable l then .script path else .denied

/-- What a name leads to in one of some directories. -/
def lookUpIn (name : Raw) : List Raw → Exec Lookup
  | [] => return .missing
  | directory :: rest => do
    let path := if directory.isEmpty then name else directory ++ '/' :: name
    let found ← if directory.isEmpty && isProgramPath path then pure .missing else lookUpPath path
    match found with
    | .program path => return .program path
    | .script path => return .script path
    | .denied =>
      let isFile := (← entry path) matches .ok (.file _)
      match ← lookUpIn name rest with
      | .missing => return if isFile then .denied else .missing
      | found => return found
    | _ => lookUpIn name rest

/-- The search path if none is set. -/
def standardPath : Raw :=
  "/usr/local/sbin:/usr/local/bin:/usr/sbin:/usr/bin:/sbin:/bin".toList

/-- What a name stands for. With `functions` off, functions are passed over. -/
def lookUp (name : Raw) (functions : Bool := true) (path : Option Raw := none) : Exec Lookup := do
  if name.contains '/' then return ← lookUpPath name
  if isSpecial name then return .builtin
  if functions && (← process).functions.contains (.ofList name) then return .function
  if isBuiltin name then return .builtin
  match path.or (← value? "PATH".toList) with
  | none => return .missing
  | some path => lookUpIn name (Text.splitAtChar ':' path)

/-- Remember that a program has been found. -/
def remember (name : Raw) : Exec Unit :=
  update fun p =>
    if name.contains '/' || p.remembered.contains name then p else { p with remembered := p.remembered ++ [name] }

/-- Say what a name stands for: in words, or by a text that can be used as a command. -/
def describe (inWords : Bool) (name : Raw) : Exec Nat := do
  let tell (words : String) : Exec Nat := do
    putLine (if inWords then name ++ ' ' :: words.toList else name)
    return 0
  if Reader.keywords.contains (.ofList name) then return ← tell "is a shell keyword"
  if let some value := (← process).aliases.get? (.ofList name) then
    if inWords then putLine (name ++ " is an alias for ".toList ++ value)
    else putLine ("alias ".toList ++ name ++ "='".toList ++ value ++ ['\x27'])
    return 0
  match ← lookUp name with
  | .function => tell "is a shell function"
  | .builtin => tell (if isSpecial name then "is a special shell builtin" else "is a shell builtin")
  | .program path =>
    let isKnown := (← process).remembered.contains name
    remember name
    putLine (if inWords then
      name ++ (if isKnown then " is a tracked alias for " else " is ").toList ++ path else path)
    return 0
  | .script path =>
    putLine (if inWords then name ++ " is ".toList ++ path else path)
    return 0
  | _ =>
    if inWords then putLine (name ++ ": not found".toList)
    return 127

end Exec

end Stencil.Shell
