import Stencil.Template.Fold
import Stencil.Template.Limits

namespace Stencil.Template

/-!
# Checks before rendering

A template is checked as a whole before any of it is rendered, and its constant parts are replaced by their
values.

* `check` — the template of a body, unless the body breaks a rule: unknown filters and tests outside of choices,
  blocks with one name, parents below the top, loops that assign `loop`, repeated argument names, and parts that
  are nested too deeply.
-/

/-- Where a statement stands. -/
structure Place where
  folding : Folding
  /-- outside of all loops, functions and blocks -/
  isTop : Bool := false
  /-- at the top and outside of choices -/
  isRoot : Bool := false
  /-- directly inside a choice, where unknown filters matter only once they are used -/
  isSoft : Bool := false
  /-- output here is dropped once the template has a parent -/
  isGuarded : Bool := false

namespace Place

/-- A body with names of its own. -/
def inner (p : Place) : Place :=
  { folding := p.folding, isGuarded := p.isGuarded }

/-- The body of a function, or one whose text is collected. -/
def unguarded (p : Place) : Place :=
  { folding := p.folding }

/-- A branch of a choice. -/
def soft (p : Place) : Place :=
  { p with isRoot := false, isSoft := true }

/-- A body in which texts are escaped or not, if that is known. -/
def escaping (p : Place) : Option Bool → Place
  | some escapes => { p with folding := { p.folding with escapes } }
  | none => { p with folding := { p.folding with isOpen := true } }

end Place

/-- How texts are escaped in a place. -/
def Folding.escaping (fd : Folding) : Escaping :=
  if fd.isOpen then .byContext else if fd.escapes then .on else .off

/-! ### Expressions -/

/-- The literal of a value. -/
def literalOf (v : Value) : Except Defect Expr :=
  if v.hasLongNumber then .error (.foreign .wrongValue)
  else .ok (if hasSpecialNumber v then .unwritable else .literal v)

/-- Whether a filter or test is known where it has to be. -/
def demand (p : Place) (isKnown : Bool) : Except Defect Unit :=
  if p.isSoft || isKnown then .ok () else .error .malformed

mutual

/-- An expression with the constant parts replaced that are operations. -/
def Expr.prepared (fd : Folding) : Expr → Except Defect Expr
  | .list items => do return .list (← Expr.preparedAll fd items)
  | .tuple items => do return .tuple (← Expr.preparedAll fd items)
  | .dict keys values => do return .dict (← Expr.preparedAll fd keys) (← Expr.preparedAll fd values)
  | e => if fd.isOpen then .ok e else e.folded fd

/-- Expressions with the constant parts replaced that are operations. -/
def Expr.preparedAll (fd : Folding) : List Expr → Except Defect (List Expr)
  | [] => return []
  | e :: es => do return (← e.prepared fd) :: (← Expr.preparedAll fd es)

end

mutual

/-- An expression whose literals can be written down and whose filters and tests are known. -/
def Expr.written (p : Place) : Expr → Except Defect Expr
  | .literal v => literalOf v
  | .list items => do return .list (← Expr.writtenAll p items)
  | .tuple items => do return .tuple (← Expr.writtenAll p items)
  | .dict keys values => do return .dict (← Expr.writtenAll p keys) (← Expr.writtenAll p values)
  | .attribute e id => do return .attribute (← e.written p) id
  | .item e index => do return .item (← e.written p) (← index.written p)
  | .slice start stop step => do
    return .slice (← start.written p) (← stop.written p) (← step.written p)
  | .call function args names named spread spreadNamed => do
    return .call (← function.written p) (← Expr.writtenAll p args) names (← Expr.writtenAll p named)
      (← spread.written p) (← spreadNamed.written p)
  | .filter e id args names named spread spreadNamed => do
    demand p (p.folding.library.catalogue.hasFilter id)
    return .filter (← e.written p) id (← Expr.writtenAll p args) names (← Expr.writtenAll p named)
      (← spread.written p) (← spreadNamed.written p)
  | .test e id args names named spread spreadNamed => do
    demand p (p.folding.library.catalogue.hasTest id)
    return .test (← e.written p) id (← Expr.writtenAll p args) names (← Expr.writtenAll p named)
      (← spread.written p) (← spreadNamed.written p)
  | .unary op e => do return .unary op (← e.written p)
  | .binary op a b => do return .binary op (← a.written p) (← b.written p)
  | .concat _ items => do return .concat p.folding.escaping (← Expr.writtenAll p items)
  | .compare e ops operands => do return .compare (← e.written p) ops (← Expr.writtenAll p operands)
  | .both a b => do return .both (← a.written p) (← b.written p)
  | .either a b => do return .either (← a.written p) (← b.written p)
  | .negation e => do return .negation (← e.written p)
  | .choice condition yes no => do
    return .choice (← condition.written p.soft) (← yes.written p.soft) (← no.written p.soft)
  | e => return e

/-- Expressions whose literals can be written down and whose filters and tests are known. -/
def Expr.writtenAll (p : Place) : List Expr → Except Defect (List Expr)
  | [] => return []
  | e :: es => do return (← e.written p) :: (← Expr.writtenAll p es)

end

/-- An expression that has passed its checks in a place. -/
def Expr.checked (e : Expr) (p : Place) : Except Defect Expr := do
  (← e.prepared p.folding).written p

/-- Expressions that have passed their checks in a place. -/
def Expr.checkedAll (p : Place) (es : List Expr) : Except Defect (List Expr) :=
  es.mapM fun e => e.checked p

/-! ### Statements -/

/-- Whether the parameter for the caller may be declared: it must have a default if it is used. -/
def mayDeclareCaller (parameters : List String) (defaults : List Expr) (body : List Stmt) : Bool :=
  match (parameters.reverse.findIdx? (· == "caller")) with
  | none => true
  | some fromEnd => !(undeclared ["caller"] body).contains "caller" || fromEnd < defaults.length

/-- A rule of the template language. -/
def require (holds : Bool) : Except Defect Unit :=
  if holds then .ok () else .error .malformed

/-- Whether a statement gives output and nothing else. -/
def Stmt.isOutput : Stmt → Bool
  | .data _ => true
  | .output _ _ => true
  | _ => false

/-- Compute the texts of constants that are printed. Those of outputs that stand side by side are computed
before anything else in them is checked. -/
def printConstants (fd : Folding) (outputs : List Stmt) : Except Defect Unit :=
  outputs.forM fun
    | .output _ e => do let _ ← fd.text? e
    | _ => return ()

mutual

/-- Check a statement. The flag says whether the template is known to have a parent; the result is the statement
with constants replaced, and that flag after the statement. -/
def Stmt.check (p : Place) (hasParent : Bool) : Stmt → Except Defect (Stmt × Bool)
  | .data s => return (.data s, hasParent)
  | .output escaping e => do
    -- What is never shown is not checked.
    if p.isGuarded && hasParent then return (.output escaping e, hasParent)
    match ← p.folding.text? e with
    | some s => return (.data s, hasParent)
    | none => return (.output p.folding.escaping (← e.checked p), hasParent)
  | .assign t e => do return (.assign t (← e.checked p), hasParent)
  | .capture t f b => do
    let (b, hasParent) ← Stmt.checkAll p.unguarded hasParent false b
    return (.capture t (← f.checked p.inner) b, hasParent)
  | .loop t e condition isRecursive b o => do
    let condition ← condition.checked p.inner
    require !(t.names.contains "loop" || Stmt.anyAssigns "loop" b || Stmt.anyAssigns "loop" o)
    let e ← e.checked p
    let (b, hasParent) ← Stmt.checkAll p.inner hasParent false b
    let (o, hasParent) ← Stmt.checkAll p.inner hasParent false o
    return (.loop t e condition isRecursive b o, hasParent)
  | .choice condition y n => do
    let condition ← condition.checked p.soft
    let (y, hasParent) ← Stmt.checkAll p.soft hasParent false y
    let (n, hasParent) ← Stmt.checkAll p.soft hasParent false n
    return (.choice condition y n, hasParent)
  | .locals ts es b => do
    let es ← Expr.checkedAll p es
    let (b, hasParent) ← Stmt.checkAll p.inner hasParent false b
    return (.locals ts es b, hasParent)
  | .scope b => do
    let (b, hasParent) ← Stmt.checkAll p.inner hasParent false b
    return (.scope b, hasParent)
  | .block name isScoped isRequired b => return (.block name isScoped isRequired b, hasParent)
  | .parent e => do
    require p.isTop
    return (.parent (← e.checked p), hasParent || p.isRoot)
  | .included e mayBeMissing withContext => do
    return (.included (← e.checked p) mayBeMissing withContext, hasParent)
  | .imported e name withContext => do return (.imported (← e.checked p) name withContext, hasParent)
  | .importedNames e names withContext => do
    return (.importedNames (← e.checked p) names withContext, hasParent)
  | .routine name ps ds b => do
    require (mayDeclareCaller ps ds b)
    let ds ← Expr.checkedAll p.unguarded ds
    let (b, hasParent) ← Stmt.checkAll p.unguarded hasParent false b
    return (.routine name ps ds b, hasParent)
  | .callWith ps ds call b => do
    require (mayDeclareCaller ps ds b)
    let ds ← Expr.checkedAll p.unguarded ds
    let (b, hasParent) ← Stmt.checkAll p.unguarded hasParent false b
    return (.callWith ps ds (← call.checked p) b, hasParent)
  | .filtered f b => do
    let (b, hasParent) ← Stmt.checkAll p.inner hasParent false b
    return (.filtered (← f.checked p.inner) b, hasParent)
  | .escaped e b => do
    let enabled ← e.checked p.inner
    let inside := p.inner.escaping (← p.folding.truth? e)
    let (b, hasParent) ← Stmt.checkAll inside hasParent false b
    return (.escaped enabled b, hasParent)

/-- Check a body; what follows a second parent is never looked at. `isBeside` says that the body starts beside
other outputs. -/
def Stmt.checkAll (p : Place) (hasParent isBeside : Bool) : List Stmt → Except Defect (List Stmt × Bool)
  | [] => return ([], hasParent)
  | s :: ss => do
    if !isBeside && s.isOutput && !(p.isGuarded && hasParent) then
      printConstants p.folding ((s :: ss).takeWhile Stmt.isOutput)
    if hasParent && p.isTop && s matches .parent _ then return ([s], hasParent)
    let (s, hasParent) ← s.check p hasParent
    let (ss, hasParent) ← Stmt.checkAll p hasParent s.isOutput ss
    return (s :: ss, hasParent)

end

/-- The template of a body if the body breaks no rule. -/
def check (lib : Library) (name : Option String) (body : List Stmt) : Except Defect Template := do
  let folding := Folding.ofLibrary lib
  let blocks := Stmt.blocksOf body
  require !(hasRepeats (blocks.map (·.name)))
  let top : Place := { folding, isTop := true, isRoot := true, isGuarded := Stmt.anyHasParent body }
  let (checked, hasParent) ← Stmt.checkAll top false false body
  let blocks ← blocks.mapM fun b => do
    let (inside, _) ← Stmt.checkAll { folding } hasParent false b.body
    return { b with body := inside }
  if Stmt.areRepeating checked || blocks.any (Stmt.areRepeating ·.body) ||
      Stmt.areTooDeep 0 1 checked || blocks.any (Stmt.areTooDeep 0 1 ·.body) then
    throw (.foreign .badProgram)
  return { name, body := checked, blocks }

end Stencil.Template
