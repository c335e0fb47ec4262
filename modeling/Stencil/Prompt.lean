import Stencil.OrderedMap

namespace Stencil

/-!
# Prompts

What a task asks for is the database to bind, the table to work on, or an answer to a prompt that the profile defines.
A rendered prompt is a prompt definition with its templates evaluated.

* `PromptKind` — what a prompt asks for;
* `RenderedPrompt` — what a dialog needs to know;
* `RenderedPrompt.isFreeText`, `RenderedPrompt.isConfirm` — how to ask.
-/

/-- What a prompt asks for. -/
inductive PromptKind where
  | database
  | table
  | generic
  deriving Repr, BEq, DecidableEq, Inhabited

/-- The name of a kind. -/
def PromptKind.name : PromptKind → String
  | .database => "database"
  | .table => "table"
  | .generic => "generic"

/-- The options of a rendered prompt: none, labels, or values with labels. A flag without options offers
nothing to choose from. -/
inductive RenderedOptions where
  | flag (b : Bool)
  | labels (labels : List String)
  | mapping (entries : OrderedMap String)
  deriving Repr, BEq, DecidableEq, Inhabited

/-- A prompt definition evaluated in a context. -/
structure RenderedPrompt where
  ask : Bool := true
  prompt : String
  options : RenderedOptions := .flag false
  multiple : Bool := false
  ordered : Bool := false
  required : Bool := false
  default : Option String := none
  item : Option String := none
  deriving Repr, BEq, DecidableEq, Inhabited

namespace RenderedPrompt

/-- Any text is an answer: there are no options. -/
def isFreeText (p : RenderedPrompt) : Bool :=
  match p.options with
  | .flag b => !b
  | .labels xs => xs.isEmpty
  | .mapping es => es.isEmpty

/-- The question is answered by yes or no: the values are exactly "0" and "1". -/
def isConfirm (p : RenderedPrompt) : Bool :=
  match p.options with
  | .mapping es => es.all (fun (k, _) => k = "0" || k = "1") && es.contains "0" && es.contains "1"
  | _ => false

end RenderedPrompt

end Stencil
