import Stencil.Files.Disk
import Stencil.Profile.Document
import Stencil.Yaml.Load

namespace Stencil.Profile

/-!
# Profile files

* `Profile.load` — the profile that a file describes;
* `Profile.save` — the file of a profile.
-/

/-- The value of the document in a file. -/
def readDocument (d : Disk) (p : Path) : Except (Foreign ⊕ Yaml.Problem) Value := do
  let text ← (d.readText p).mapError Sum.inl
  (Yaml.load text).mapError Sum.inr

/-- Load a profile from a file, possibly under another name. -/
def load (d : Disk) (p : Path) (name : Option String := none) : Except Fault Profile :=
  match readDocument d p with
  | .error (.inl (.file _)) =>
    .error (.validation ("Failed to load profile config " ++ p.toString ++ ": " ++ detail))
  | .error (.inl f) => .error (.foreign f)
  | .error (.inr .malformed) =>
    .error (.validation ("Invalid YAML in profile config " ++ p.toString ++ ": " ++ detail))
  | .error (.inr (.value f)) => .error (.foreign f)
  | .ok v =>
    match v with
    | .dict _ => ofDocument v name
    | _ => .error (.validation ("Profile config " ++ p.toString ++ " must be a mapping"))

/-- The text of the file of a profile. -/
def fileText (p : Profile) : String :=
  Yaml.write true p.toDocument

/-- Write a profile to a file and create the directories that lead to it. -/
def save (p : Profile) (path : Path) : ExceptT Foreign (StateM Disk) Unit := do
  Disk.makeDirectories path.parent
  match (← get).write path p.fileText.toUTF8 with
  | .ok d => set d
  | .error f => throw f

end Stencil.Profile
