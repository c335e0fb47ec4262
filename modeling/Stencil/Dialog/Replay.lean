import Stencil.Dialog.Asker

namespace Stencil.Dialog

/-!
# Replayed answers

A replay gives recorded answers one after the other, whatever is asked, and notes what was asked.

* `Replay` — the answers that are left and the notes;
* `Replay.next` — the next answer.
-/

/-- What was asked: the widget, the prompt and what came with it. -/
structure Replay.Call where
  widget : String
  prompt : String
  details : Value
  deriving Inhabited

/-- Recorded answers and notes. -/
structure Replay where
  responses : List Value := []
  calls : List Replay.Call := []
  messages : List String := []
  deriving Inhabited

namespace Replay

/-- The next answer; it is a failure to ask more than there are answers. -/
def next (widget prompt : String) (details : Value) : Action Replay Value := do
  modify fun r => { r with calls := r.calls ++ [⟨widget, prompt, details⟩] }
  let r ← get
  match r.responses with
  | [] => throw (.foreign .unexpected)
  | v :: rest =>
    set { r with responses := rest }
    return v

instance : Asker Replay where
  input prompt default := next "input" prompt (.ofText? default)
  select prompt choices := next "select" prompt (.list (Value.texts choices))
  multiSelect prompt choices ordered :=
    next "multi_select" prompt (.tuple [.list (Value.texts choices), .bool ordered])
  confirm prompt default := next "confirm" prompt (.bool default)
  notify message r := { r with messages := r.messages ++ [message] }
  remaining r := r.responses.length

end Replay

end Stencil.Dialog
