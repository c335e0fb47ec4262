import Stencil.Prompt
import Stencil.Source.Basic
import Stencil.Target.Generator
import Stencil.Task.Context

namespace Stencil

/-!
# Tasks

A task is one run of code generation for a profile. It has prompts, which are answered one by one; once the
database and the table are known, the schema is part of the context of its templates.

* `TaskPrompt` — what a task asks for;
* `Task` — the state of a task;
* `Task.unanswered`, `Task.isReady` — what is still missing;
* `Task.contextData` — the names that templates see;
* `splitList` — the items of a text with commas;
* `Task.render`, `Task.renderTemplate` — texts in the context of a task;
* `Task.enumerate` — the items that a prompt is asked for;
* `Task.renderPrompt` — a prompt with its templates evaluated;
* `Task.run` — generate the targets.
-/

/-- What a task asks for: the database, the table, or an answer to a prompt of the profile. -/
inductive TaskPrompt where
  | database
  | table
  | generic (id : String) (definition : PromptDefinition)
  deriving Repr, BEq, DecidableEq, Inhabited

namespace TaskPrompt

/-- The kind of a prompt. -/
def kind : TaskPrompt → PromptKind
  | .database => .database
  | .table => .table
  | .generic _ _ => .generic

/-- The name of a prompt: its id, or else the name of its kind. -/
def name : TaskPrompt → String
  | .generic id _ => id
  | p => p.kind.name

/-- Whether a prompt asks for the table. -/
def isTable : TaskPrompt → Bool
  | .table => true
  | _ => false

/-- Whether a prompt of the profile has an id. -/
def hasId (id : String) : TaskPrompt → Bool
  | .generic i _ => i == id
  | _ => false

end TaskPrompt

/-- The items between commas, without blanks around them and without empty ones. -/
def splitList (s : String) : List String :=
  ((Text.splitAtChar ',' s.toList).map Text.trim).filterMap fun item =>
    if item.isEmpty then none else some (.ofList item)

/-- The state of a task over a source `σ` with connections `κ`. -/
structure Task (σ κ : Type) where
  profile : Profile
  targetDir : Path
  engine : Engine
  workspace : Workspace
  source : σ
  connection : κ
  prompts : List TaskPrompt
  table : Option String := none
  answers : OrderedMap Value := []
  context : Context := {}

namespace Task

variable {σ κ : Type} [Source σ κ]

/-! ### Computations -/

/-- A computation of the source of a task. -/
def onSource {α : Type} (act : Action σ α) : Action (Task σ κ) α := fun t =>
  match act t.source with
  | (r, source) => (r, { t with source })

/-- A computation in the workspace of a task. -/
def onWorkspace {α : Type} (act : Work α) : Action (Task σ κ) α := fun t =>
  match act t.workspace with
  | (r, workspace) => (r, { t with workspace })

/-- Add records to the log. -/
def report (records : List LogRecord) : Action (Task σ κ) Unit :=
  onWorkspace (modify fun w => records.foldl Workspace.report w)

/-! ### Prompts -/

/-- The name of the bound database, empty if none is bound. -/
def databaseName (t : Task σ κ) : String :=
  Source.databaseName σ t.connection

/-- Whether a prompt has its answer. -/
def isAnswered (t : Task σ κ) : TaskPrompt → Bool
  | .database => t.databaseName != ""
  | .table => t.table.isSome
  | .generic id _ => t.answers.contains id

/-- The prompts that still wait for an answer, in order. -/
def unanswered (t : Task σ κ) : List TaskPrompt :=
  t.prompts.filter fun p => !t.isAnswered p

/-- The prompt of the profile with an id. -/
def findPrompt (t : Task σ κ) (id : String) : Except Fault TaskPrompt :=
  match t.prompts.find? (·.hasId id) with
  | some p => .ok p
  | none => .error (.validation ("Unknown prompt: " ++ id))

/-- The schema is known and no prompt waits for an answer. -/
def isReady (t : Task σ κ) : Bool :=
  t.context.isBound && t.unanswered.isEmpty

/-! ### Context -/

/-- The names that templates see, perhaps with an item. -/
def contextData (t : Task σ κ) (item : Option String := none) : OrderedMap Value :=
  match item with
  | some item => t.context.data.put "item" (.str item)
  | none => t.context.data

/-! ### Rendering -/

/-- The text of a source in the context of a task. -/
def render (t : Task σ κ) (source : String) (item : Option String := none) : Except Fault String :=
  t.engine.renderString t.workspace.disk source (t.contextData item)

/-- The text of a template in the context of a task. -/
def renderTemplate (t : Task σ κ) (name : String) : Except Fault String :=
  t.engine.renderTemplate t.workspace.disk name t.contextData

/-- The items that a prompt is asked for once each; none if it is not asked for items. -/
def enumerate (t : Task σ κ) (p : PromptDefinition) : Except Fault (List String) :=
  match p.enumerate with
  | none => .ok []
  | some source => (t.render source).map splitList

/-- Whether a prompt is asked. -/
def conditionMet (t : Task σ κ) (p : PromptDefinition) (item : Option String) : Except Fault Bool :=
  match p.condition with
  | none => .ok true
  | some source => (t.render source item).map fun text => Text.trimmed text == Generator.conditionTrue

/-- The options of a prompt. -/
def renderOptions (t : Task σ κ) (p : PromptDefinition) (item : Option String) :
    Except Fault RenderedOptions :=
  match p.options with
  | .template source => (t.render source item).map fun text => .labels (splitList text)
  | .labels labels => .ok (.labels labels)
  | .mapping entries => .ok (.mapping entries)
  | .flag _ => .ok (.flag false)

/-- A prompt with its templates evaluated, perhaps for an item. -/
def renderPrompt (t : Task σ κ) (p : PromptDefinition) (item : Option String := none) :
    Except Fault RenderedPrompt := do
  let ask ← t.conditionMet p item
  let options ← t.renderOptions p item
  let default ← p.default.mapM (t.render · item)
  let prompt ← t.render p.prompt item
  return {
    ask, prompt, options, default, item
    multiple := p.multiple, ordered := p.ordered, required := p.required }

/-- Generate the targets of a task that is ready. -/
def run (runner : CommandRunner) : Action (Task σ κ) (List GeneratedTarget) := do
  let t ← get
  if !t.isReady then throw (.runtime "Context not ready to run all render tasks.")
  let g : Generator := { engine := t.engine, targetDir := t.targetDir, context := t.contextData }
  onWorkspace (g.generateAll runner t.profile)

/-- Give the connection of a task up. -/
def close : Action (Task σ κ) Unit := do
  onSource (Source.close (← get).connection)

end Task

end Stencil
