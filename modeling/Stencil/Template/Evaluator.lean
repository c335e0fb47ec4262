import Stencil.Helper.Call
import Stencil.Template.Collection
import Stencil.Template.Filter
import Stencil.Template.Loop
import Stencil.Template.Syntax
import Stencil.Template.Test
import Stencil.Template.Token

namespace Stencil.Template

/-!
# Evaluators

Expressions and statements are evaluated by recursion on their structure. Calls of functions, parents and
included templates go on in other bodies; what evaluates those is an `Evaluator`.

* `Library` — the helpers and templates that can be reached;
* `Evaluator` — what evaluates other bodies;
* `Evaluator.getAttribute`, `Evaluator.getItem`, `Evaluator.textOf` — parts and texts of values;
* `Evaluator.runLoop`, `Evaluator.runBlock`, `Evaluator.runTemplate` — loops, blocks and whole templates.
-/

/-- What a template can reach. -/
structure Library where
  helpers : OrderedMap Helper
  /-- the file of the template with a name, if there is one -/
  file? : String → Option Path
  /-- the text of a file -/
  read : Path → Except Foreign (List Char)
  /-- the template with a source, by the name that it is found by -/
  compile : Option String → List Char → Except Defect Template

/-- The functions that templates call without any registration, by name. -/
def globalFunctions : List (String × GlobalFunction) :=
  [("range", .range), ("dict", .dict), ("lipsum", .lipsum), ("cycler", .cycler), ("joiner", .joiner),
   ("namespace", .namespaceOf)]

/-- The filters and tests that there are: every helper is a filter. -/
def Catalogue.ofHelpers (helpers : OrderedMap Helper) : Catalogue where
  hasFilter name := helpers.contains name || Filter.names.contains name
  hasTest name := Test.names.contains name

namespace Library

/-- The names that every template is given: functions, and helpers whose names have no dots. -/
def globals (lib : Library) : OrderedMap Value :=
  lib.helpers.foldl
    (fun m (name, h) => if name.toList.contains '.' then m else m.put name (.object (.helper h)))
    (globalFunctions.map fun (name, f) => (name, .object (.global f)))

/-- The filters and tests that there are. -/
def catalogue (lib : Library) : Catalogue :=
  .ofHelpers lib.helpers

/-- The template with a name, if there is one, and the store that knows it. A template that is known is read
again only if its file has changed. -/
def load (lib : Library) (name : String) (s : Store) : Except Defect (Option Loaded × Store) := do
  if let some known := s.loaded.get? name then
    if let .ok text := lib.read known.path then
      if text = known.text then return (some known, s)
  match lib.file? name with
  | none => return (none, s)
  | some path =>
    let text ← (lib.read path).mapError .foreign
    let found : Loaded := { path, text, template := ← lib.compile (some name) text }
    return (some found, { s with loaded := s.loaded.put name found })

end Library

/-- What evaluates other bodies than the running one. -/
structure Evaluator where
  expr : Frame → Expr → Run Value
  body : Frame → List Stmt → Run Unit
  filter : Frame → String → Value → List Value → List (String × Value) → Run Value
  call : Frame → Value → List Value → List (String × Value) → Run Value
  template : Template → Nat → Run Unit
  /-- the next item of the stream or loop in a cell -/
  advance : Frame → Nat → Run (Option Value)

namespace Evaluator

/-- The evaluator that has no depth left. -/
def exhausted : Evaluator where
  expr _ _ := throw (.foreign .tooDeep)
  body _ _ := throw (.foreign .tooDeep)
  filter _ _ _ _ _ := throw (.foreign .tooDeep)
  call _ _ _ _ := throw (.foreign .tooDeep)
  template _ _ := throw (.foreign .tooDeep)
  advance _ _ := throw (.foreign .tooDeep)

/-! ### Loops -/

/-- What takes the items of values in a frame. -/
def taking (ev : Evaluator) (f : Frame) : Callbacks where
  filter _ _ _ _ := Run.missing
  test _ _ _ _ := Run.missing
  getItem _ _ := Run.missing
  getAttribute _ _ := Run.missing
  advance := ev.advance f
  escapes := false

/-- The decision about an item of a loop: it is kept if the condition holds, with the target assigned in a
scope of its own. -/
def keeps (ev : Evaluator) : Loop.Decision := fun form x => do
  match form.condition with
  | .absent => return some x
  | condition =>
    let names ← Run.namesOf form.frame form.target.names [] [] condition.reads
    let f ← Run.enter form.frame names
    form.target.assign (ev.taking f) f x
    if ← Run.isTrue (← ev.expr f condition) then return some (← form.target.value f) else return none

/-- Whether the body of a loop may look at the state of the loop. -/
def watchesLoop (form : LoopForm) : Bool :=
  form.isRecursive || (undeclared ["loop"] form.body).contains "loop" ||
    ((Stmt.blocksOf form.body) ++ (Stmt.blocksOf form.otherwise)).any (·.isScoped)

/-- Run a loop over the items of a value. -/
def runLoop (ev : Evaluator) (form : LoopForm) (v : Value) (depth : Nat) : Run Unit := do
  let isSized := (form.condition matches .absent) && !(v matches .object _)
  let i ← Run.alloc (.loop { form, iterable := v, source := ← Cursor.start v, isSized, depth })
  let watched := watchesLoop form
  let parameters := (if watched then ["loop"] else []) ++ form.target.names
  let names ← Run.namesOf form.frame parameters form.body
  let cb := ev.taking form.frame
  let act (x : Value) : Run Unit := do
    let f ← Run.enter form.frame names
    if watched then Run.assign f "loop" (.object (.loop i))
    form.target.assign cb f x
    ev.body f form.body
  Loop.forEach cb ev.keeps i act maxSteps
  if (← Run.loop i).taken = 0 && !form.otherwise.isEmpty then
    let f ← Run.enter form.frame (← Run.namesOf form.frame [] form.otherwise)
    ev.body f form.otherwise

/-! ### Parts and texts of values -/

/-- An attribute of a value, or else an item with its name. -/
def getAttribute (ev : Evaluator) (f : Frame) (v : Value) (name : String) : Run Value := do
  match v with
  | .object (.loop i) => return (← Loop.attribute? (ev.taking f) ev.keeps i name).getD .undefined
  | .object (.ticker i) =>
    match ← Run.cell i, name with
    | .cycler items position, "current" => return items[position]?.getD .undefined
    | .cycler _ position, "pos" => return .int position
    | .cycler items _, "items" => return .tuple items
    | .cycler _ _, "next" | .cycler _ _, "reset" => return .method v name
    | .joiner separator _, "sep" => return separator
    | .joiner _ isUsed, "used" => return .bool isUsed
    | _, _ => return .undefined
  | v => Run.getAttribute v name

/-- An item of a value, or else an attribute. -/
def getItem (ev : Evaluator) (f : Frame) (v key : Value) : Run Value := do
  match v, key.asText? with
  | .object (.blocks _), _ => Run.getItem v key
  | .object _, some name => getAttribute ev f v name
  | _, _ => Run.getItem v key

/-- The text of a value where it is printed. -/
def textOf (ev : Evaluator) (f : Frame) (v : Value) : Run String := do
  match v with
  | .object (.loop i) => Loop.text (ev.taking f) ev.keeps i
  | v => Run.textOf v

/-- The text of a value where it is printed and texts are escaped or not. -/
def outputText (ev : Evaluator) (f : Frame) (escapes : Bool) (v : Value) : Run String := do
  match v, escapes with
  | .object (.loop _), true => return Value.escapeMarkup (← ev.textOf f v)
  | v, true => Run.escapedText v
  | v, false => ev.textOf f v

/-- What streams and filters use in a frame. -/
def callbacks (lib : Library) (ev : Evaluator) (f : Frame) : Run Callbacks := do
  let plain : Callbacks := {
    filter := ev.filter f
    test := fun _ _ _ _ => Run.missing
    getItem := ev.getItem f
    getAttribute := fun v name => do ev.getAttribute f v (← Run.textOf name)
    advance := ev.advance f
    escapes := ← Run.escapes f }
  return { plain with test := Test.apply lib.catalogue plain }

/-- The next item of the stream or loop in a cell. A loop gives its items together with itself. -/
def nextItem (lib : Library) (ev : Evaluator) (f : Frame) (i : Nat) : Run (Option Value) := do
  let cb ← callbacks lib ev f
  match ← Run.cell i with
  | .loop _ => return (← Loop.advance cb ev.keeps i).map fun x => .tuple [x, .object (.loop i)]
  | _ => Stream.advance cb i

/-! ### Blocks and other templates -/

/-- Run a version of a block in a context. -/
def runBlock (ev : Evaluator) (context : Nat) (name : String) (depth : Nat) : Run Unit := do
  let versions := ((← Run.context context).blocks.get? name).getD []
  match versions[depth]? with
  | none => throw (.foreign .missingKey)
  | some b =>
    let specials := (undeclared ["self", "super"] b.body).eraseDups
    let f ← Run.enter { context } (Names.ofBody (fun _ => false) specials b.body)
    if specials.contains "self" then Run.assign f "self" (.object (.blocks context))
    if specials.contains "super" then
      let above : Value :=
        if depth + 1 < versions.length then .object (.block context name (depth + 1)) else .undefined
      Run.assign f "super" above
    ev.body f b.body

/-- Run a template in a context; a template with a parent goes on with it. -/
def runTemplate (ev : Evaluator) (t : Template) (context : Nat) : Run Unit := do
  let parent ← Run.alloc (.parent none)
  let specials := (undeclared ["self"] t.body).eraseDups
  let f ← Run.enter { context, parent } (Names.ofBody (fun _ => false) specials t.body)
  if specials.contains "self" then Run.assign f "self" (.object (.blocks context))
  ev.body { f with isTop := true, isGuarded := Stmt.anyHasParent t.body } t.body
  match ← Run.cell parent with
  | .parent (some above) => ev.template above context
  | _ => return ()

/-- A new context for a template that is given some names. -/
def newContext (t : Template) (given : OrderedMap Value) : Run Nat :=
  Run.alloc (.context {
    name := t.name, given, blocks := .ofEntries (t.blocks.map fun b => (b.name, [b])) })

/-- The names that a frame passes on to another template. -/
def passedOn (f : Frame) : Run (OrderedMap Value) := do
  let offered ← Run.offered f.context
  return (← Run.locals f.scopes).foldl (fun m (k, v) => m.put k v) offered

/-- The module of the names that a template exports when it runs with given names; its cell. -/
def newModule (ev : Evaluator) (t : Template) (given : OrderedMap Value) : Run Nat := do
  let context ← newContext t given
  let text ← Run.capture (ev.template t context)
  let c ← Run.context context
  Run.alloc (.module t.name (c.own.filter fun (k, _) => c.exported.contains k) text)

/-- The module of a template. Without the names of a frame, a template has one module for as long as it is
known. -/
def module (lib : Library) (ev : Evaluator) (f : Frame) (t : Loaded) (withContext : Bool) : Run Value := do
  if withContext then return .object (.module (← newModule ev t.template (← passedOn f)))
  match t.exports with
  | some i => return .object (.module i)
  | none =>
    let i ← newModule ev t.template lib.globals
    if let some name := t.template.name then
      modify fun s => { s with loaded := s.loaded.put name { t with exports := some i } }
    return .object (.module i)

/-- The template with a name, if there is one. -/
def load (lib : Library) (name : String) : Run (Option Loaded) := fun s =>
  match lib.load name s with
  | .ok found => .ok found
  | .error .malformed => .error (.foreign (.other "malformed template"))
  | .error (.foreign f) => .error (.foreign f)

/-- The first of several templates that exists; nothing if none does. -/
def firstTemplate? (lib : Library) : List Value → Run (Option Loaded)
  | [] => return none
  | name :: rest => do
    match name.asText? with
    | some name =>
      match ← load lib name with
      | some t => return some t
      | none => firstTemplate? lib rest
    | none => if name matches .undefined then firstTemplate? lib rest else Run.missing

/-- The template that an inclusion names, by one name or by several to choose from. -/
def includedTemplate? (lib : Library) (ev : Evaluator) (f : Frame) (name : Value) : Run (Option Loaded) := do
  match name with
  | .undefined => Run.missing
  | .str name => load lib name
  | .markup name => load lib name
  | names => firstTemplate? lib (← (ev.taking f).items names)

/-- A template by its name. -/
def theTemplate (lib : Library) (name : Value) : Run Loaded := do
  match name.asText? with
  | none => Run.missing
  | some name =>
    match ← load lib name with
    | some t => return t
    | none => throw (.foreign .missingKey)

end Evaluator

end Stencil.Template
