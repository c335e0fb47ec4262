import Stencil.Helper.Script
import Stencil.Template.Check
import Stencil.Template.Parser
import Stencil.Template.Statement

namespace Stencil

/-!
# Template engines

An engine finds templates by name in its directories and offers helpers to them.

* `Engine` — the directories and helpers, and what templates keep between renderings;
* `Engine.forDirectories` — an engine with a directory of templates and one of helper scripts;
* `Engine.renderTemplate`, `Engine.renderString` — the texts of named templates and of sources.
-/

/-- The directories of templates, searched in their order, the helpers by name, and what templates keep. -/
structure Engine where
  directories : List Path := []
  helpers : OrderedMap Helper := Helper.defaults
  store : Template.Store := {}

namespace Engine

/-! ### Directories and helpers -/

/-- Search one more directory for templates. What has been read before is read again. -/
def addTemplates (e : Engine) (d : Disk) (dir : Path) : Except Fault Engine :=
  if d.isDirectory dir then
    .ok { e with directories := e.directories ++ [dir], store := { e.store with loaded := [] } }
  else .error (.validation ("Invalid templates-dir specified: " ++ dir.toString))

/-- Offer a helper under a name. -/
def addHelper (e : Engine) (name : String) (h : Helper) : Engine :=
  { e with helpers := e.helpers.put name h }

/-- The helper of a script. -/
def helperOf (d : Disk) (script : Path) : Except Fault Helper :=
  match Script.load d script with
  | .defines f => .ok (.script f)
  | .definesNothing =>
    .error (.runtime ("Helper script " ++ script.toString ++ " does not define a callable 'helper'"))
  | .fails => .error (.runtime ("Failed to load helper script " ++ script.toString ++ ": " ++ detail))

/-- Offer the helpers of all scripts in a directory; their names. The helpers of the scripts before one that
fails are kept. -/
def addScripts (d : Disk) (dir : Path) : Action Engine (List String) := do
  if !d.isDirectory dir then return []
  (Script.names d dir).mapM fun (name, script) => do
    match helperOf d script with
    | .ok h =>
      modify (·.addHelper name h)
      return name
    | .error fault => throw fault

/-- An engine for a directory of templates and perhaps one of helper scripts. -/
def forDirectories (d : Disk) (templates : Path) (scripts : Option Path) : Except Fault Engine := do
  let e ← addTemplates {} d templates
  match scripts with
  | none => return e
  | some dir =>
    match (addScripts d dir).run e with
    | (.ok _, e) => return e
    | (.error fault, _) => throw fault

/-! ### Templates -/

/-- The file names of templates end so. -/
def extension : String := ".jinja"

/-- The names that lead to a template from a directory; a name that leads out of it has none. -/
def steps? (name : String) : Option (List String) :=
  let pieces := Text.piecesAt '/' name
  if pieces.contains ".." then none else some (pieces.filter fun piece => piece != "" && piece != ".")

/-- The file of a template: the first one that exists in the directories. -/
def file? (e : Engine) (d : Disk) (name : String) : Option Path := do
  let names ← steps? name
  (e.directories.map fun dir => { dir with parts := dir.parts ++ names }).find? d.isFile

/-- Whether a path stays inside one of the directories. -/
def reaches (e : Engine) (p : Path) : Bool :=
  e.directories.any fun dir => (p.relativeTo? dir).any fun names => !names.contains ".."

/-- The text of a file inside the directories; no other file is read. -/
def readFile (e : Engine) (d : Disk) (p : Path) : Except Foreign (List Char) :=
  if e.reaches p && d.isFile p then d.readText p else .error (.file .missing)

/-- What the templates of an engine can reach. -/
def library (e : Engine) (d : Disk) : Template.Library :=
  let bare : Template.Library := {
    helpers := e.helpers, file? := fun _ => none, read := e.readFile d, compile := fun _ _ => .error .malformed }
  { bare with
    file? := e.file? d
    compile := fun name source => do Template.check bare name (← Template.parse source) }

/-- Render the template with a name. -/
def render (d : Disk) (name : String) (names : OrderedMap Value) : Action Engine String := do
  let e ← get
  let lib := e.library d
  match lib.load (name ++ extension) e.store with
  | .error .malformed => throw (.runtime ("Failed to compile template " ++ name ++ ": " ++ detail))
  | .error (.foreign f) => throw (.foreign f)
  | .ok (none, _) => throw (.runtime ("Template not found: " ++ name ++ extension))
  | .ok (some t, store) =>
    set { e with store }
    match lib.render store t.template names with
    | .ok (text, store) =>
      set { e with store }
      return text
    | .error fault => throw (.runtime ("Failed to render template " ++ name ++ ": " ++ fault.words))

/-- Render a source. -/
def renderSource (d : Disk) (source : String) (names : OrderedMap Value) : Action Engine String := do
  let e ← get
  let lib := e.library d
  let failure (words : String) : Fault :=
    .runtime ("Failed to render " ++ Text.quoted source ++ ": " ++ words)
  match lib.compile none source.toList with
  | .error _ => throw (failure detail)
  | .ok t =>
    match lib.render e.store t names with
    | .ok (text, store) =>
      set { e with store }
      return text
    | .error fault => throw (failure fault.words)

/-- The text of a template with a name. -/
def renderTemplate (e : Engine) (d : Disk) (name : String) (names : OrderedMap Value) :
    Except Fault String :=
  ((render d name names).run e).1

/-- The text of a source. -/
def renderString (e : Engine) (d : Disk) (source : String) (names : OrderedMap Value) :
    Except Fault String :=
  ((renderSource d source names).run e).1

end Engine

end Stencil
