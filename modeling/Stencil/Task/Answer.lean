import Stencil.Task.Basic
import Stencil.Value.Text

namespace Stencil

/-!
# Answers

* `Value.isBlank` — an answer without a text;
* `Task.answer` — accept an answer;
* `Task.skip` — pass a prompt over.

What an answer changed before it failed stays changed.
-/

mutual

/-- Whether an answer has no text: nothing, blanks, no items, or a mapping in which an answer is blank. -/
def Value.isBlank : Value → Bool
  | .none => true
  | .str s => (Text.trim s.toList).isEmpty
  | .dict entries => entries.isEmpty || Value.hasBlank entries
  | .list items => items.isEmpty
  | .tuple items => items.isEmpty
  | _ => false

/-- Whether an answer in a mapping is blank. -/
def Value.hasBlank : List (Value × Value) → Bool
  | [] => false
  | (_, v) :: rest => v.isBlank || hasBlank rest

end

namespace Task

variable {σ κ : Type} [Source σ κ]

/-- The failure for a table that the database does not have. -/
def noTable (name : String) : Fault :=
  .validation ("Table does not exist: " ++ name)

/-- Bind a table of the schema of the bound database. -/
def bindContext (table : String) : Action (Task σ κ) Unit := do
  let schema ← onSource (Source.reflect (← get).connection)
  let t ← get
  let context ← Action.ofExcept (t.context.bind schema table t.workspace.clock)
  set { t with context }

/-- Give all answers to the context. -/
def foldAnswers : Action (Task σ κ) Unit :=
  modify fun t => { t with
    context := t.answers.foldl (fun c (id, answer) => c.setAnswer id answer) t.context }

/-- Bring the context up to date: once the database and the table are known, it is bound, and from then on it
has all answers. -/
def updateContext : Action (Task σ κ) Unit := do
  let t ← get
  if t.context.isBound then foldAnswers
  else match t.table with
    | none => return
    | some table =>
      if t.databaseName != "" then
        bindContext table
        foldAnswers

/-- The prompt for the table stands after the one for the database, or else first. -/
def withTablePrompt (prompts : List TaskPrompt) : List TaskPrompt :=
  if prompts.any (·.isTable) then prompts
  else match prompts with
    | .database :: rest => .database :: .table :: rest
    | prompts => .table :: prompts

/-- Check the table once a database has been bound. A table that the database does not have is dropped and
asked for again. -/
def checkPendingTable : Action (Task σ κ) Unit := do
  match (← get).table with
  | none => return
  | some table =>
    if !(← onSource (Source.listTables (← get).connection)).contains table then
      modify fun t => { t with table := none, prompts := withTablePrompt t.prompts }
      throw (noTable table)

/-- Bind a database. -/
def answerDatabase (name : String) : Action (Task σ κ) Unit := do
  let connection ← onSource (Source.bind (← get).connection name)
  modify fun t => { t with connection }
  report (Source.bindReport σ name)
  checkPendingTable

/-- Choose the table, which must be one of the bound database. -/
def answerTable (value : Value) : Action (Task σ κ) Unit := do
  let names ← onSource (Source.listTables (← get).connection)
  match value.asText?.filter names.contains with
  | some table =>
    modify fun t => { t with table := some table }
    report [.info ("Subject table: " ++ table)]
  | none => throw (noTable value.text)

/-- Record an answer to a prompt of the profile; one that is required must not be blank. -/
def answerGeneric (id : String) (definition : PromptDefinition) (value : Value) :
    Action (Task σ κ) Unit := do
  if definition.required && value.isBlank then
    throw (.validation ("Invalid answer to prompt " ++ id ++ ": a value is required"))
  modify fun t => { t with answers := t.answers.put id value }

/-- Accept an answer. -/
def answer (p : TaskPrompt) (value : Value) : Action (Task σ κ) Unit := do
  match p with
  | .database => answerDatabase value.text
  | .table => answerTable value
  | .generic id definition => answerGeneric id definition value
  updateContext

/-- Pass a prompt of the profile over: its answer is the empty text. -/
def skip (p : TaskPrompt) : Action (Task σ κ) Unit := do
  match p with
  | .generic id _ => modify fun t => { t with answers := t.answers.put id (.str "") }
  | p => throw (.runtime ("Cannot skip the " ++ p.name ++ " prompt"))
  updateContext

end Task

end Stencil
