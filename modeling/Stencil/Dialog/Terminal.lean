import Stencil.Decimal.Reader
import Stencil.Dialog.Asker
import Stencil.Dialog.Markup

namespace Stencil.Dialog

/-!
# Terminals

A terminal reads lines and shows texts and tables. Options are chosen by their numbers; a line that does not
fit is reported, and the next one is read.

* `Terminal`, `Terminal.Event` — the lines that are left and what happened so far;
* `Terminal.readUntil` — read lines up to the first that fits;
* `Terminal.input`, `Terminal.select`, `Terminal.multiSelect`, `Terminal.sort`, `Terminal.confirm` — the
  widgets;
* `indexes?` — the positions that a line names.
-/

/-- What a terminal does. -/
inductive Terminal.Event where
  /-- a line is read after a prompt -/
  | input (prompt : String)
  | print (text : String)
  | table (title : String) (headers : List String) (rows : List (List String))
  deriving Repr, BEq, DecidableEq, Inhabited

/-- The lines that will be read, and what happened so far. -/
structure Terminal where
  lines : List String := []
  events : List Terminal.Event := []
  deriving Repr, BEq, DecidableEq, Inhabited

namespace Terminal

variable {α : Type}

/-- Something happens at the terminal. -/
def record (e : Event) (t : Terminal) : Terminal :=
  { t with events := t.events ++ [e] }

/-- Show a markup. -/
def print (text : String) : Terminal → Terminal :=
  record (.print text)

/-- Read lines up to the first that a judge accepts, and report why the others do not fit. -/
def readFrom (prompt : String) (judge : String → Except String α) (events : List Event) :
    List String → Except Fault α × Terminal
  | [] => (.error (.foreign .endOfInput), ⟨[], events ++ [.input prompt]⟩)
  | line :: rest =>
    match judge line with
    | .ok v => (.ok v, ⟨rest, events ++ [.input prompt]⟩)
    | .error problem => readFrom prompt judge (events ++ [.input prompt, .print problem]) rest

/-- Read lines up to the first that a judge accepts. -/
def readUntil (prompt : String) (judge : String → Except String α) : Action Terminal α :=
  fun t => readFrom prompt judge t.events t.lines

/-- The text of a prompt with an addition, as it stands before the line that is read. -/
def shown (prompt addition : String) : Action Terminal String :=
  fun t => ((Markup.plain prompt).map fun s => s ++ addition ++ ": ", t)

/-- A default as a prompt shows it. -/
def inParentheses (default : String) : String :=
  " (" ++ .ofList (Markup.withoutControls default.toList) ++ ")"

/-! ### Texts and confirmations -/

/-- Read any text; an empty line stands for the default. -/
def input (prompt : String) (default : Option String) : Action Terminal String := do
  let p ← shown prompt ((default.map inParentheses).getD "")
  readUntil p fun line =>
    match default with
    | some d => .ok (if line = "" then d else Text.trimmed line)
    | none => .ok (Text.trimmed line)

/-- Whether a line means yes, no or nothing. -/
def truthOf? (line : String) : Option Bool :=
  match Text.lowercase (Text.trimmed line) with
  | "y" => some true
  | "n" => some false
  | _ => none

/-- Read a yes or no; an empty line stands for the default, or for nothing if there is no default. -/
def confirm (prompt : String) (default : Option Bool) : Action Terminal (Option Bool) := do
  let answer (b : Bool) : String := inParentheses (if b then "y" else "n")
  let p ← shown prompt (" [y/n]" ++ (default.map answer).getD "")
  readUntil p fun line =>
    if line = "" then .ok default
    else match truthOf? line with
      | some b => .ok (some b)
      | none => .error "[prompt.invalid]Please enter Y or N"

/-! ### Choices -/

/-- Show choices with their numbers. -/
def showChoices (title : String) (choices : List String) : Terminal → Terminal :=
  record (.table title [] (choices.zipIdx.map fun (c, i) => [toString (i + 1), c]))

/-- The position among `count` choices that a line names by its number. -/
def choiceOf (count : Nat) (line : String) : Except String Nat :=
  let text := Text.trim line.toList
  match Decimal.readBounded? text with
  | none => .error "[prompt.invalid]Please enter a valid integer number"
  | some _ =>
    match (List.range count).find? fun i => (toString (i + 1)).toList = text with
    | some i => .ok i
    | none => .error "[prompt.invalid.choice]Please select one of the available options"

/-- Choose one of several texts by its number. -/
def select (prompt : String) (choices : List String) : Action Terminal String := do
  modify (showChoices prompt choices)
  let i ← readUntil "Choice: " (choiceOf choices.length)
  match choices[i]? with
  | some c => return c
  | none => throw (.foreign .outOfRange)

/-- The position that a part of a line names by its number. -/
def index? (count : Nat) (part : List Char) : Option Nat := do
  let n ← Decimal.readBounded? part
  if 1 ≤ n && n ≤ count then some (n - 1).toNat else none

/-- The positions among `count` choices that a line names by their numbers, separated by commas; blanks around
the line and blank parts do not count. Every number must be one of a choice. -/
def indexes? (count : Nat) (line : String) : Option (List Nat) :=
  let parts := (Text.splitAtChar ',' (Text.trim line.toList)).filter fun part => !(Text.trim part).isEmpty
  parts.mapM (index? count)

/-- What is shown for a line that does not name positions. -/
def rangeHint (count : Nat) : String :=
  "[red]Enter numbers between 1 and " ++ toString count ++ "[/red]"

/-- The choices at positions. -/
def picked (choices : List String) (positions : List Nat) : List String :=
  positions.filterMap fun i => choices[i]?

/-- Whether positions name each of `count` choices exactly once. -/
def isPermutation (count : Nat) (positions : List Nat) : Bool :=
  positions.length = count && (List.range count).all positions.contains

/-- The new order that a line names. -/
def orderOf (count : Nat) (line : String) : Except String (List Nat) :=
  match indexes? count line with
  | none => .error (rangeHint count)
  | some positions =>
    if isPermutation count positions then .ok positions
    else .error "[red]List every number exactly once[/red]"

/-- Read a new order of some texts. -/
def sort (prompt : String) (items : List String) : Action Terminal (List String) := do
  modify (showChoices prompt items)
  let p ← shown "New order (comma-separated numbers)" (inParentheses "")
  let positions ← readUntil p (orderOf items.length)
  return picked items positions

/-- Choose some of several texts by their numbers; several ordered ones may be reordered. -/
def multiSelect (prompt : String) (choices : List String) (ordered : Bool) :
    Action Terminal (List String) := do
  modify (showChoices prompt choices)
  let p ← shown "Choices (comma-separated numbers)" (inParentheses "")
  let positions ← readUntil p fun line =>
    match indexes? choices.length line with
    | some positions => .ok positions
    | none => .error (rangeHint choices.length)
  let selected := picked choices positions
  if ordered && selected.length > 1 then
    if (← confirm "Reorder selection?" (some false)) = some true then return ← sort prompt selected
  return selected

/-- Show a message. -/
def notify (message : String) : Terminal → Terminal :=
  print ("[yellow]" ++ message ++ "[/yellow]")

instance : Asker Terminal where
  input prompt default := .str <$> input prompt default
  select prompt choices := .str <$> select prompt choices
  multiSelect prompt choices ordered := (fun xs => .list (Value.texts xs)) <$> multiSelect prompt choices ordered
  confirm prompt default := (fun b => .bool (b = some true)) <$> confirm prompt (some default)
  notify := notify
  remaining t := t.lines.length

end Terminal

end Stencil.Dialog
