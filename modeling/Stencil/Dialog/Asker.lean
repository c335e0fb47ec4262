import Stencil.Fault
import Stencil.Prompt
import Stencil.Value.Compare

namespace Stencil.Dialog

/-!
# Askers

An asker answers prompts, each by the widget that suits its options.

* `Asker` — the widgets;
* `askRendered` — ask one rendered prompt.
-/

/-- The widgets by which an asker answers. -/
class Asker (α : Type) where
  /-- any text -/
  input : String → Option String → Action α Value
  /-- one of the choices -/
  select : String → List String → Action α Value
  /-- some of the choices, to be reordered if wanted -/
  multiSelect : String → List String → Bool → Action α Value
  /-- yes or no -/
  confirm : String → Bool → Action α Value
  /-- show a message -/
  notify : String → α → α
  /-- a bound on the number of answers that the asker can still give -/
  remaining : α → Nat

variable {α : Type} [Asker α]

/-- The value of the first option with a label. -/
def valueOf (values labels : List String) (label : Value) : Except Fault String :=
  match (values.zip labels).find? fun (_, l) => (Value.str l).same label with
  | some (v, _) => .ok v
  | none => .error (.foreign .wrongValue)

/-- Choose among labels, each of which stands for a value. -/
def choose (p : RenderedPrompt) (values labels : List String) : Action α Value := do
  if p.multiple then
    let chosen ← Asker.multiSelect p.prompt labels p.ordered
    match chosen.items? with
    | some chosen =>
      return .list ((← chosen.mapM fun c => Action.ofExcept (valueOf values labels c)).map .str)
    | none => throw (.foreign .wrongType)
  else
    let chosen ← Asker.select p.prompt labels
    return .str (← Action.ofExcept (valueOf values labels chosen))

/-- Ask a prompt with the widget that its options call for. -/
def askRendered (p : RenderedPrompt) : Action α Value := do
  if p.isConfirm then
    let yes ← Asker.confirm p.prompt (p.default == some "1")
    return .str (if yes.isTrue then "1" else "0")
  else if p.isFreeText then Asker.input p.prompt p.default
  else
    match p.options with
    | .flag _ => throw (.foreign .wrongType)
    | .labels labels => choose p labels labels
    | .mapping entries => choose p (entries.map (·.1)) (entries.map (·.2))

end Stencil.Dialog
