import Stencil.Files.Disk
import Stencil.Value.Basic

namespace Stencil

/-!
# Helper scripts

A helper script is a file that defines one function. It holds the name of the function in its only line.

* `Script` — what a script turns out to be;
* `Script.ofText` — reading the text of a script;
* `Script.names` — the scripts inside a directory, with the names of their helpers.
-/

/-- What a helper script turns out to be. -/
inductive Script where
  | defines (f : ScriptFunction)
  /-- it runs, but defines no function -/
  | definesNothing
  /-- it does not run -/
  | fails
  deriving Repr, BEq, DecidableEq, Inhabited

namespace Script

/-- The names of scripts end so. -/
def extension : String := ".py"

/-- A script by its text. -/
def ofText (s : List Char) : Script :=
  match String.ofList (Text.trim s) with
  | "upper" => .defines .upper
  | "quote" => .defines .backquote
  | "wrap" => .defines .wrap
  | "raises" => .defines .failing
  | "no_helper" => .definesNothing
  | "not_callable" => .definesNothing
  | "" => .definesNothing
  | _ => .fails

/-- The script at a path. -/
def load (d : Disk) (p : Path) : Script :=
  match d.readText p with
  | .ok s => ofText s
  | .error _ => .fails

/-- The name of the helper of a script: the names that lead to it, joined by dots. -/
def helperName (names : List String) : String :=
  match names.getLast? with
  | none => ""
  | some file => Text.joined "." (names.dropLast ++ [Path.stemOf file])

/-- Whether a file is a script: its name has the extension of scripts and no dot in front. -/
def isScript (file : String) : Bool :=
  file.endsWith extension && !(Path.stemOf file).startsWith "."

/-- The paths of all scripts inside a directory with the names of their helpers, in the order of the paths. -/
def names (d : Disk) (dir : Path) : List (String × Path) :=
  match d.locate dir with
  | .error _ => []
  | .ok l =>
    let inside := (d.files.below l).map fun (k, _) => k.drop l.length
    let scripts := inside.filter fun names => (names.getLast?.map isScript).getD false
    (scripts.mergeSort fun a b => compare a b != .gt).map fun names =>
      (helperName names, { dir with parts := dir.parts ++ names })

end Script

end Stencil
