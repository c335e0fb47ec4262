import Stencil.Dialog.Asker
import Stencil.Task.Answer
import Stencil.Task.Basic

namespace Stencil.Dialog

/-!
# Interviews

An interview answers the prompts of a task in order until none is left. An answer that is rejected is reported,
and the prompt is asked again.

* `Interview` — a task and who answers its prompts;
* `Interview.askGeneric` — one round for a prompt of the profile;
* `Interview.askAll` — all rounds, after the preset answers.
-/

/-- A task and who answers its prompts. -/
structure Interview (σ κ α : Type) where
  task : Task σ κ
  asker : α

namespace Interview

variable {σ κ α : Type} [Source σ κ] [Asker α]

/-- Something that the task does. -/
def onTask {β : Type} (act : Action (Task σ κ) β) : Action (Interview σ κ α) β := fun i =>
  match act i.task with
  | (r, task) => (r, { i with task })

/-- Something that the asker does. -/
def onAsker {β : Type} (act : Action α β) : Action (Interview σ κ α) β := fun i =>
  match act i.asker with
  | (r, asker) => (r, { i with asker })

/-- Ask a prompt for each of some items whose condition is met; the answers by item. -/
def askItems (p : PromptDefinition) :
    List String → OrderedMap Value → Action (Interview σ κ α) (OrderedMap Value)
  | [], answers => return answers
  | item :: items, answers => do
    let rendered ← Action.ofExcept ((← get).task.renderPrompt p (some item))
    if rendered.ask then
      let answer ← onAsker (askRendered rendered)
      askItems p items (answers.put item answer)
    else askItems p items answers

/-- Ask a prompt of the profile, for each of its items if it has some. What is not asked is skipped. -/
def askGeneric (id : String) (p : PromptDefinition) : Action (Interview σ κ α) Unit := do
  let prompt := TaskPrompt.generic id p
  if p.enumerate.isNone then
    let rendered ← Action.ofExcept ((← get).task.renderPrompt p)
    if rendered.ask then
      let answer ← onAsker (askRendered rendered)
      onTask (Task.answer prompt answer)
    else onTask (Task.skip prompt)
  else
    let items ← Action.ofExcept ((← get).task.enumerate p)
    let answers ← askItems p items []
    if answers.isEmpty then onTask (Task.skip prompt)
    else onTask (Task.answer prompt (Value.ofFields answers))

/-- Choose one of some names and answer a prompt by it. -/
def askName (prompt : TaskPrompt) (title : String) (names : κ → Action σ (List String)) :
    Action (Interview σ κ α) Unit := do
  let choices ← onTask do Task.onSource (names (← get).connection)
  let answer ← onAsker (Asker.select title choices)
  onTask (Task.answer prompt answer)

/-- One round: ask one prompt. -/
def ask (prompt : TaskPrompt) : Action (Interview σ κ α) Unit :=
  match prompt with
  | .database => askName prompt "Select database" Source.listDatabases
  | .table => askName prompt "Select table" Source.listTables
  | .generic id p => askGeneric id p

/-- One round, after which a rejected answer has been reported. -/
def askOrReport (prompt : TaskPrompt) : Action (Interview σ κ α) Unit :=
  tryCatch (ask prompt) fun
    | .validation message _ => modify fun i => { i with asker := Asker.notify message i.asker }
    | fault => throw fault

/-- Rounds until no prompt waits for an answer, at most `limit` of them; whether that many were enough. -/
def askUpTo : Nat → Action (Interview σ κ α) Bool
  | 0 => return (← get).task.unanswered.isEmpty
  | limit + 1 => do
    match (← get).task.unanswered with
    | [] => return true
    | prompt :: _ =>
      askOrReport prompt
      askUpTo limit

/-- Answer prompts of the profile in advance. -/
def preset (answers : OrderedMap Value) : Action (Interview σ κ α) Unit :=
  answers.forM fun (id, value) => onTask do
    Task.answer (← Action.ofExcept ((← get).findPrompt id)) value

/-- How many rounds an interview can take: each one answers a prompt for good or uses up an answer. -/
def maxRounds (i : Interview σ κ α) : Nat :=
  Asker.remaining i.asker + i.task.unanswered.length

/-- Answer all prompts, first by the preset answers, then by asking. -/
def askAll (answers : OrderedMap Value) : Action (Interview σ κ α) Unit := do
  preset answers
  if !(← askUpTo (← get).maxRounds) then throw (.foreign .unexpected)

end Interview

end Stencil.Dialog
