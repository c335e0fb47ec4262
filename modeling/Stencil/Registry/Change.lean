import Stencil.Registry.Basic

namespace Stencil.Registry

/-!
# Changes of registries

* `Session` — a registry in its surroundings;
* `Registry.add`, `Registry.remove` — the changes.

A change is made before it is written.
-/

/-- A registry in a workspace. -/
structure Session where
  workspace : Workspace
  registry : Registry
  deriving Inhabited

/-- A computation in the workspace of a session. -/
def inWorkspace {α : Type} (act : Work α) : Action Session α := fun s =>
  match act s.workspace with
  | (r, workspace) => (r, { s with workspace })

/-- Write a registry to its file. -/
def save (r : Registry) : Work Unit :=
  onDisk (writeText r.file (fileText r.profiles)) ("Cannot write config file " ++ r.file.toString)

/-- Replace the entries of a registry and write it. -/
def change (f : OrderedMap String → OrderedMap String) (report : String) : Action Session Unit := do
  modify fun s => { s with registry := { s.registry with profiles := f s.registry.profiles } }
  inWorkspace (save (← get).registry)
  inWorkspace (modify (·.report (.info report)))

/-- The name of profile files in directories. -/
def profileFileName : String := "Ctgen.yml"

/-- The profile file that a text stands for: a file by its extension, or else the one in a directory. -/
def profileFile (w : Workspace) (text : String) : Except Fault Path := do
  let candidate ←
    if text = "." || text = "./" then pure (w.disk.currentPath / Path.ofString profileFileName)
    else
      let p ← w.expandHome (Path.ofString text)
      if text.endsWith ".yml" || text.endsWith ".yaml" then pure p
      else pure (p / Path.ofString profileFileName)
  if w.disk.isFile candidate then return w.disk.resolve candidate
  else throw (.validation ("Profile config file not found: " ++ candidate.toString))

/-- Check a name if there is one. -/
def checkName (name : String) : Except Fault Unit :=
  if name = "" || isName name then .ok ()
  else .error (.validation ("Invalid profile name: " ++ name ++ ". Make sure it matches " ++ namePattern))

/-- The name under which a profile file is registered: the one that is asked for, or else its own. -/
def nameFor (asked : String) (p : Profile) : Except Fault String :=
  let name := if asked = "" then p.config.name else asked
  if isName name then .ok name
  else .error (.validation ("Invalid profile name: " ++ Text.quoted name ++ ". Pass a name matching " ++
    namePattern))

/-- The name and the profile file that an addition registers. -/
def entryFor (w : Workspace) (asked path : String) (isDefault : Bool) : Except Fault (String × Path) := do
  let asked := if isDefault then defaultName else asked
  checkName asked
  let file ← profileFile w path
  let name ← nameFor asked (← Profile.load w.disk file)
  return (name, file)

/-- Register a profile file. -/
def add (name path : String) (isDefault : Bool) : Action Session String := do
  let (name, file) ← Action.ofExcept (entryFor (← get).workspace name path isDefault)
  change (·.put name file.toString) ("Added profile '" ++ name ++ "' from " ++ file.toString)
  return name

/-- Forget a name. -/
def remove (name : String) : Action Session Unit := do
  let r := (← get).registry
  if !r.profiles.contains name then throw (r.unknown name)
  change (·.erase name) ("Removed profile '" ++ name ++ "'")

end Stencil.Registry
