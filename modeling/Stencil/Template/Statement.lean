import Stencil.Template.Expression

namespace Stencil.Template

/-!
# Effects of statements

* `Stmt.run`, `Stmt.runAll` — run a statement or a body in a frame;
* `Evaluator.upTo` — evaluation up to a depth of nested calls;
* `Library.render` — the text of a template.
-/

/-- Whether output in a frame is dropped because the template has got a parent. -/
def isHidden (f : Frame) : Run Bool :=
  if f.isGuarded then Run.hasParent f else return false

/-- Add a value to the output that has to be a text. -/
def emitText (v : Value) : Run Unit := do
  match v.asText? with
  | some s => Run.emit s
  | none => Run.wrongType

/-- The function that a template defines in a frame. -/
def makeRoutine (f : Frame) (name : Option String) (parameters : List String) (defaults : List Expr)
    (body : List Stmt) : Run Value := do
  let specials := undeclared ["caller", "kwargs", "varargs"] body
  let i ← Run.alloc (.routine {
    name, parameters, defaults, body, frame := f
    usesCaller := specials.contains "caller"
    usesNamed := specials.contains "kwargs" && !parameters.contains "kwargs"
    usesRest := specials.contains "varargs" && !parameters.contains "varargs" })
  return .object (.routine i)

/-- Name the parent of the running template; its blocks follow those there are. -/
def setParent (f : Frame) (t : Template) : Run Unit := do
  Run.setCell f.parent (.parent (some t))
  let c ← Run.context f.context
  let blocks := t.blocks.foldl (fun m b => m.put b.name ((m.get? b.name).getD [] ++ [b])) c.blocks
  Run.setCell f.context (.context { c with blocks })

/-- A context like that of a frame which has the names of its scopes, too. -/
def deriveContext (f : Frame) : Run Nat := do
  let c ← Run.context f.context
  let given ← Evaluator.passedOn f
  Run.alloc (.context { name := c.name, given, blocks := c.blocks, escapes := c.escapes })

/-- Run a block where it stands. -/
def runBlockHere (ev : Evaluator) (f : Frame) (name : String) (isScoped isRequired : Bool) : Run Unit := do
  -- Where there is a parent, the parent decides where the blocks at the top are run.
  if !(f.isTop && (← Run.hasParent f)) then
    let context ← if isScoped then deriveContext f else pure f.context
    let versions := ((← Run.context f.context).blocks.get? name).getD []
    -- A required block has to be given once more, by a template further down.
    if isRequired && versions.length ≤ 1 then throw (.foreign (.other "required block"))
    ev.runBlock context name 0

/-- Run a template where it is included. What a template without a context gives does not get into a text that
is being collected. -/
def runIncluded (lib : Library) (ev : Evaluator) (f : Frame) (name : Value)
    (mayBeMissing withContext : Bool) : Run Unit := do
  match ← ev.includedTemplate? lib f name with
  | none => if !mayBeMissing then throw (.foreign .missingKey)
  | some t =>
    if withContext then
      ev.template t.template (← Evaluator.newContext t.template (← Evaluator.passedOn f))
    else
      Run.emitPast f (← Run.textOf (← ev.module lib f t false))

/-- Assign the exported names of a template. -/
def importNames (f : Frame) (m : Value) (names : List (String × String)) : Run Unit :=
  names.forM fun (name, alias_) => do
    let v := (← Run.attribute? m name).getD .undefined
    Run.assign f alias_ v
    Run.publish f alias_ v false

/-- The names of a body that collects a text, in a frame of their own. -/
def enterCollecting (f : Frame) (names : Names) : Run Frame := do
  Run.enter { f with collecting := f.collecting + 1 } names

/-- Run a computation with texts escaped or not in the context of a frame. -/
def withEscapes (f : Frame) (enabled : Bool) (act : Run Unit) : Run Unit := do
  let before := (← Run.context f.context).escapes
  Run.setCell f.context (.context { ← Run.context f.context with escapes := enabled })
  act
  -- Only the escaping goes back; whatever else has changed in the context stays.
  Run.setCell f.context (.context { ← Run.context f.context with escapes := before })

mutual

/-- Run a statement in a frame. -/
def Stmt.run (lib : Library) (ev : Evaluator) (f : Frame) : Stmt → Run Unit
  | .data text => do if !(← isHidden f) then Run.emit text
  | .output escaping e => do
    if !(← isHidden f) then
      let v ← e.eval lib ev f
      Run.emit (← ev.outputText f (← escaping.holds f) v)
  | .assign target e => do
    target.assign (ev.taking f) f (← e.eval lib ev f)
    target.publish f
  | .capture target filter body => do
    let inner ← enterCollecting { f with isGuarded := false } (← Run.namesOf f [] body)
    let text ← Run.capture (Stmt.runAll lib ev inner body)
    let v ← match filter with
      | .absent => pure (Value.str text)
      | filter => do filter.eval lib ev { inner with captured := ← Run.made f text }
    -- Where texts are escaped, those in the collected text already are.
    let v ← if ← Run.escapes f then do pure (Value.markup (← Run.textOf v)) else pure v
    target.assign (ev.taking f) f v
    target.publish f
  | .loop target items condition isRecursive body otherwise => do
    let v ← items.eval lib ev f
    let form : LoopForm := {
      target, condition, isRecursive, body, otherwise, frame := { f with isTop := false } }
    -- A recursive loop is run like a function that may call itself; its output is one text.
    if isRecursive then
      let form := { form with frame := { form.frame with collecting := 0 } }
      emitText (.str (← Run.capture (ev.runLoop form v 0)))
    else ev.runLoop form v 0
  | .choice condition yes no => do
    if ← Run.isTrue (← condition.eval lib ev f) then Stmt.runAll lib ev f yes else Stmt.runAll lib ev f no
  | .locals targets es body => do
    let inner ← Run.enter f (← Run.namesOf f (Target.namesOf targets) body)
    -- The expressions belong to the frame outside: no target can be read by another expression.
    for (t, e) in targets.zip es do t.assign (ev.taking f) inner (← e.eval lib ev f)
    Stmt.runAll lib ev inner body
  | .scope body => do Stmt.runAll lib ev (← Run.enter f (← Run.namesOf f [] body)) body
  | .block name isScoped isRequired _ => runBlockHere ev f name isScoped isRequired
  | .parent e => do
    if ← Run.hasParent f then throw (.foreign (.other "second parent"))
    setParent f (← Evaluator.theTemplate lib (← e.eval lib ev f)).template
  | .included e mayBeMissing withContext => do
    runIncluded lib ev f (← e.eval lib ev f) mayBeMissing withContext
  | .imported e name withContext => do
    let m ← ev.module lib f (← Evaluator.theTemplate lib (← e.eval lib ev f)) withContext
    Run.assign f name m
    Run.publish f name m false
  | .importedNames e names withContext => do
    let m ← ev.module lib f (← Evaluator.theTemplate lib (← e.eval lib ev f)) withContext
    importNames f m names
  | .routine name parameters defaults body => do
    let v ← makeRoutine f (some name) parameters defaults body
    Run.assign f name v
    Run.publish f name v true
  | .callWith parameters defaults call body => do
    -- The body is handed over as a function, in an argument that is called `caller`.
    let caller ← makeRoutine f none parameters defaults body
    match call with
    | .call function args names named spread spreadNamed =>
      emitText (← (Expr.call function args (names ++ ["caller"]) (named ++ [.literal caller]) spread
        spreadNamed).eval lib ev f)
    | _ => Run.wrongType
  | .filtered filter body => do
    let inner ← enterCollecting f (← Run.namesOf f [] body [] filter.reads)
    let text ← Run.capture (Stmt.runAll lib ev inner body)
    let v ← filter.eval lib ev { inner with captured := ← Run.made f text }
    emitText v
  | .escaped enabled body => do
    let inner ← Run.enter f (← Run.namesOf f [] body enabled.reads)
    let v ← enabled.eval lib ev inner
    withEscapes f (← Run.isTrue v) (Stmt.runAll lib ev inner body)

/-- Run a body in a frame. -/
def Stmt.runAll (lib : Library) (ev : Evaluator) (f : Frame) : List Stmt → Run Unit
  | [] => return ()
  | s :: ss => do
    s.run lib ev f
    Stmt.runAll lib ev f ss

end

/-! ### Rendering -/

/-- Evaluation up to a depth of nested calls. -/
def Evaluator.upTo (lib : Library) : Nat → Evaluator
  | 0 => exhausted
  | depth + 1 =>
    let ev := upTo lib depth
    { expr := fun f e => e.eval lib ev f
      body := fun f b => Stmt.runAll lib ev f b
      filter := ev.applyFilter lib
      call := ev.callValue lib
      template := ev.runTemplate
      advance := ev.nextItem lib }

/-- How deep calls may be nested. -/
def maxDepth : Nat := 240

/-- The text of a template for some names, and the store with what templates keep. -/
def Library.render (lib : Library) (s : Store) (t : Template) (names : OrderedMap Value) :
    Except Fault (String × Store) := do
  -- The name of the blocks of a template cannot be given from outside.
  if names.contains "self" then throw (.foreign .wrongType)
  let act : Run Unit := do
    let names ← names.mapM fun (k, v) => do return (k, ← Run.intern v)
    let given := names.foldl (fun m (k, v) => m.put k v) lib.globals
    let context ← Evaluator.newContext t given
    (Evaluator.upTo lib maxDepth).template t context
  let ((), s) ← act.run { s with output := [], around := [] }
  return (String.join s.output.reverse, { s with output := [] })

end Stencil.Template
