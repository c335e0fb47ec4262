import Stencil.Text.Pieces

namespace Stencil

/-!
# Paths

A path is a root (nothing, one slash or two) and a list of components. Empty components and single
dots disappear when a text is read as a path; two dots are kept, since what they mean depends on
the file system.

* `Path.ofString`, `Path.toString` — reading and writing;
* `Path.join` — an absolute right side replaces the left one;
* `Path.parent`, `Path.name`, `Path.stem` — parts of a path;
* `Path.normalize` — two dots resolved lexically.
-/

/-- A path: its root and its components. -/
structure Path where
  root : String := ""
  parts : List String := []
  deriving Repr, BEq, DecidableEq, Inhabited

namespace Path

/-- The path of the directory that relative paths start from. -/
def here : Path := {}

/-- Read a text as a path. -/
def ofString (s : String) : Path :=
  let slashes := (s.toList.takeWhile (· == '/')).length
  { root := if slashes = 0 then "" else if slashes = 2 then "//" else "/"
    parts := (Text.piecesAt '/' s).filter fun p => p != "" && p != "." }

/-- The text of a path; the empty relative path is a single dot. -/
def toString (p : Path) : String :=
  if p.root == "" && p.parts.isEmpty then "." else p.root ++ Text.joined "/" p.parts

instance : ToString Path := ⟨Path.toString⟩

/-- Whether a path starts at the root of the file system. -/
def isAbsolute (p : Path) : Bool :=
  p.root != ""

/-- A path relative to another; an absolute path stays as it is. -/
def join (base p : Path) : Path :=
  if p.isAbsolute then p else { base with parts := base.parts ++ p.parts }

instance : Div Path := ⟨join⟩

/-- The path without its last component. -/
def parent (p : Path) : Path :=
  { p with parts := p.parts.dropLast }

/-- The last component, empty if there is none. -/
def name (p : Path) : String :=
  p.parts.getLast?.getD ""

/-- The position of the dot that starts the extension of a file name. A dot at either end of the name
starts none. -/
def extensionDot? (name : String) : Option Nat :=
  match Text.findLast? ['.'] name.toList with
  | some i => if 0 < i && i + 1 < name.length then some i else none
  | none => none

/-- A file name without its extension. -/
def stemOf (name : String) : String :=
  match extensionDot? name with
  | some i => .ofList (name.toList.take i)
  | none => name

/-- The last component without its extension. -/
def stem (p : Path) : String :=
  stemOf p.name

/-- The extension of the last component with its dot, or nothing. -/
def extension (p : Path) : String :=
  match extensionDot? p.name with
  | some i => .ofList (p.name.toList.drop i)
  | none => ""

/-- All extensions of the last component, each with its dot. -/
def extensions (p : Path) : List String :=
  let name := p.name
  if name.endsWith "." then []
  else ((Text.piecesAt '.' (.ofList (name.toList.dropWhile (· == '.')))).drop 1).map ("." ++ ·)

/-- Resolve single and double dots without looking at a file system; above the root of an absolute
path there is only the root. -/
def normalize (p : Path) : Path :=
  let step (done : List String) (part : String) : List String :=
    if part == ".." then
      match done with
      | [] => if p.isAbsolute then [] else [".."]
      | ".." :: _ => ".." :: done
      | _ :: rest => rest
    else part :: done
  { p with parts := (p.parts.foldl step []).reverse }

/-- The components of a path below another, if it is below it. -/
def relativeTo? (p base : Path) : Option (List String) :=
  if p.root == base.root && base.parts.isPrefixOf p.parts then some (p.parts.drop base.parts.length)
  else none

end Path

end Stencil
