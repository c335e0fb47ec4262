import Stencil.Profile.File
import Stencil.Text.Quoted
import Stencil.Value.Compare
import Stencil.Workspace

namespace Stencil

/-!
# Registries of profiles

A registry gives names to profile files. It is kept in a file, which is written anew after every change.

* `Registry` — the names with the paths of their profile files, in order;
* `Registry.ofFile` — read the file of a registry, which is created on first use;
* `Registry.isName` — which names can be given;
* `Registry.load` — the profile with a name.
-/

/-- The profile files by name, and the file that keeps them. -/
structure Registry where
  file : Path
  profiles : OrderedMap String := []
  deriving Repr, BEq, DecidableEq, Inhabited

namespace Registry

/-! ### Names -/

/-- The name under which a profile is used if no other is asked for. -/
def defaultName : String := "default"

/-- What names look like, as messages say it. -/
def namePattern : String := "^[a-zA-Z-_]+$"

/-- Whether a character may stand in a name. -/
def isNameChar (c : Char) : Bool :=
  ('a' ≤ c && c ≤ 'z') || ('A' ≤ c && c ≤ 'Z') || c = '-' || c = '_'

/-- Whether a text can be given as a name: letters, hyphens and underscores, at least one; one line end may
follow. -/
def isName (s : String) : Bool :=
  let name := match s.toList.reverse with
    | '\n' :: before => before
    | s => s
  !name.isEmpty && name.all isNameChar

/-! ### Files -/

/-- The document of a registry. -/
def document (profiles : OrderedMap String) : Yaml.Tree :=
  .map [("profiles", .map (profiles.map fun (name, path) => (name, .text path)))]

/-- The text of the file of a registry. -/
def fileText (profiles : OrderedMap String) : String :=
  Yaml.write false (document profiles)

/-- The names and paths that a document lists; what is no mapping lists none. -/
def listed (v : Value) : List (Value × Value) :=
  match v with
  | .dict entries =>
    match Value.lookup? entries (.str "profiles") with
    | some (.dict profiles) => profiles
    | _ => []
  | _ => []

/-- Whether a number in a name or a path that a document lists is too long to be written. -/
def listsLongNumber (v : Value) : Bool :=
  (listed v).any fun (name, path) => name.hasLongNumber || path.hasLongNumber

/-- The profile files that a document lists. -/
def ofDocument (v : Value) : OrderedMap String :=
  .ofEntries ((listed v).map fun (name, path) => (name.text, if path.isTrue then path.text else ""))

/-- The file of a registry: the one that is asked for, or that a variable names, or the one in the home
directory. -/
def fileOf (w : Workspace) (asked : Option String) : Except Fault Path :=
  let named := (asked.filter (· != "")).or ((w.environment.get? "CTGEN_CONFIG").filter (· != ""))
  match named with
  | some s => w.expandHome (Path.ofString s)
  | none => w.expandHome (w.home / ⟨"", [".ctgen", "profiles.yml"]⟩)

/-- Write a text to a file. -/
def writeText (p : Path) (text : String) : ExceptT Foreign (StateM Disk) Unit := do
  match (← get).write p text.toUTF8 with
  | .ok d => set d
  | .error f => throw f

/-- Do something to the files of a workspace; a failure of the operating system means that the registry cannot
be used. -/
def onDisk (act : ExceptT Foreign (StateM Disk) Unit) (message : String) : Work Unit := fun w =>
  match act.run.run w.disk with
  | (.ok (), disk) => (.ok (), { w with disk })
  | (.error (.file _), disk) => (.error (.init (message ++ ": " ++ detail)), { w with disk })
  | (.error f, disk) => (.error (.foreign f), { w with disk })

/-- Create the file of a registry unless it is there. -/
def create (file : Path) : Work Unit := do
  if !(← get).disk.isEntry file then
    onDisk (do Disk.makeDirectories file.parent; writeText file (fileText []))
      ("Cannot create config file " ++ file.toString)

/-- The profile files that a file lists. -/
def read (d : Disk) (file : Path) : Except Fault (OrderedMap String) :=
  let failure : Fault := .init ("Failed to load profiles from " ++ file.toString ++ ": " ++ detail)
  match Profile.readDocument d file with
  | .ok v => if listsLongNumber v then .error (.foreign .wrongValue) else .ok (ofDocument v)
  | .error (.inl (.file _)) => .error failure
  | .error (.inl f) => .error (.foreign f)
  | .error (.inr .malformed) => .error failure
  | .error (.inr (.value f)) => .error (.foreign f)

/-- The registry that a file keeps; the file is created on first use. -/
def ofFile (asked : Option String) : Work Registry := do
  let file ← Action.ofExcept (fileOf (← get) asked)
  create file
  return { file, profiles := ← Action.ofExcept (read (← get).disk file) }

/-! ### Look-ups -/

/-- The failure for a name that is not registered. -/
def unknown (r : Registry) (name : String) : Fault :=
  let names := (r.profiles.keys.map Text.quoted)
  .validation ("Profile '" ++ name ++ "' not found. Available: [" ++ Text.joined ", " names ++ "]")

/-- The profile file with a name. -/
def path (r : Registry) (name : String) : Except Fault Path :=
  match r.profiles.get? name with
  | some p => .ok (Path.ofString p)
  | none => .error (r.unknown name)

/-- The profile with a name. -/
def load (r : Registry) (d : Disk) (name : String) : Except Fault Profile := do
  Profile.load d (← r.path name) (some name)

end Registry

end Stencil
