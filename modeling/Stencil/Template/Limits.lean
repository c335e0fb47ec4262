import Stencil.Template.Expression
import Stencil.Template.Syntax

namespace Stencil.Template

/-!
# Limits of templates

A template is refused if a call or a function in it has two arguments or parameters with one name, or if its
parts are nested too deeply.

* `Stmt.areRepeating` — whether a body repeats the name of an argument or parameter;
* `Stmt.areTooDeep` — whether loops, bodies or brackets of a body are nested too deeply.
-/

/-! ### Repeated names -/

/-- Whether a list has a name twice. -/
def hasRepeats (names : List String) : Bool :=
  names.any fun n => names.count n > 1

/-- Whether the named arguments of a call cannot be written one by one, since two have the same name. -/
def repeatsArgument (names : List String) : Bool :=
  hasRepeats names && !names.any reservedNames.contains

mutual

/-- Whether a call in an expression repeats the name of an argument, or a range of positions stands where it
cannot. -/
def Expr.isRepeating : Expr → Bool
  | .literal _ => false
  | .absent => false
  | .unwritable => false
  | .captured => false
  | .name _ => false
  | .list items => Expr.areRepeating items
  | .tuple items => (items.any fun e => e matches .slice ..) || Expr.areRepeating items
  | .dict keys values => Expr.areRepeating keys || Expr.areRepeating values
  | .attribute e _ => e.isRepeating
  | .item e index => e.isRepeating || index.isRepeating
  | .slice start stop step => start.isRepeating || stop.isRepeating || step.isRepeating
  | .call f args names named spread spreadNamed =>
    repeatsArgument names || f.isRepeating || Expr.areRepeating args || Expr.areRepeating named ||
      spread.isRepeating || spreadNamed.isRepeating
  | .filter e _ args names named spread spreadNamed =>
    repeatsArgument names || e.isRepeating || Expr.areRepeating args || Expr.areRepeating named ||
      spread.isRepeating || spreadNamed.isRepeating
  | .test e _ args names named spread spreadNamed =>
    repeatsArgument names || e.isRepeating || Expr.areRepeating args || Expr.areRepeating named ||
      spread.isRepeating || spreadNamed.isRepeating
  | .unary _ e => e.isRepeating
  | .binary _ a b => a.isRepeating || b.isRepeating
  | .concat _ items => Expr.areRepeating items
  | .compare e _ operands => e.isRepeating || Expr.areRepeating operands
  | .both a b => a.isRepeating || b.isRepeating
  | .either a b => a.isRepeating || b.isRepeating
  | .negation e => e.isRepeating
  | .choice c y n => c.isRepeating || y.isRepeating || n.isRepeating

/-- Whether some of several expressions repeat the name of an argument. -/
def Expr.areRepeating : List Expr → Bool
  | [] => false
  | e :: es => e.isRepeating || Expr.areRepeating es

end

/-- Whether a call with a body repeats the name of an argument; the body is an argument of its own. -/
def Expr.repeatsCaller : Expr → Bool
  | .call _ _ names _ _ _ => repeatsArgument ("caller" :: names)
  | _ => false

mutual

/-- Whether a statement repeats the name of an argument or parameter. -/
def Stmt.isRepeating : Stmt → Bool
  | .data _ => false
  | .output _ e => e.isRepeating
  | .assign _ e => e.isRepeating
  | .capture _ f b => f.isRepeating || Stmt.areRepeating b
  | .loop _ e c _ b o =>
    e.isRepeating || c.isRepeating || Stmt.areRepeating b || Stmt.areRepeating o
  | .choice c y n => c.isRepeating || Stmt.areRepeating y || Stmt.areRepeating n
  | .locals _ es b => Expr.areRepeating es || Stmt.areRepeating b
  | .scope b => Stmt.areRepeating b
  | .block _ _ _ b => Stmt.areRepeating b
  | .parent e => e.isRepeating
  | .included e _ _ => e.isRepeating
  | .imported e _ _ => e.isRepeating
  | .importedNames e _ _ => e.isRepeating
  | .routine _ ps ds b => hasRepeats ps || Expr.areRepeating ds || Stmt.areRepeating b
  | .callWith ps ds c b =>
    hasRepeats ps || c.repeatsCaller || Expr.areRepeating ds || c.isRepeating || Stmt.areRepeating b
  | .filtered f b => f.isRepeating || Stmt.areRepeating b
  | .escaped e b => e.isRepeating || Stmt.areRepeating b

/-- Whether some statement of a body repeats the name of an argument or parameter. -/
def Stmt.areRepeating : List Stmt → Bool
  | [] => false
  | s :: ss => s.isRepeating || Stmt.areRepeating ss

end

/-! ### Nesting -/

/-- How many brackets may be inside each other. -/
def maxBrackets : Nat := 200

/-- How many loops of one function may be inside each other. -/
def maxLoops : Nat := 20

/-- How deep bodies may be inside each other. -/
def maxBodies : Nat := 99

mutual

/-- How many brackets are inside each other in an expression when every operation has brackets of its own. -/
def Expr.brackets : Expr → Nat
  | .literal _ => 0
  | .absent => 0
  | .unwritable => 0
  | .captured => 1
  | .name _ => 2
  | .list items => 1 + Expr.bracketsOf items
  | .tuple items => 1 + Expr.bracketsOf items
  | .dict keys values => 1 + max (Expr.bracketsOf keys) (Expr.bracketsOf values)
  | .attribute e _ => 1 + e.brackets
  | .item e index => 1 + max e.brackets index.brackets
  | .slice start stop step => max start.brackets (max stop.brackets step.brackets)
  | .call f args _ named spread spreadNamed =>
    1 + max f.brackets (max (max (Expr.bracketsOf args) (Expr.bracketsOf named))
      (max spread.brackets spreadNamed.brackets))
  | .filter e _ args _ named spread spreadNamed =>
    1 + max e.brackets (max (max (Expr.bracketsOf args) (Expr.bracketsOf named))
      (max spread.brackets spreadNamed.brackets))
  | .test e _ args _ named spread spreadNamed =>
    1 + max e.brackets (max (max (Expr.bracketsOf args) (Expr.bracketsOf named))
      (max spread.brackets spreadNamed.brackets))
  | .unary _ e => 1 + e.brackets
  | .binary _ a b => 1 + max a.brackets b.brackets
  | .concat _ items => 2 + Expr.bracketsOf items
  | .compare e _ operands => 1 + max e.brackets (Expr.bracketsOf operands)
  | .both a b => 1 + max a.brackets b.brackets
  | .either a b => 1 + max a.brackets b.brackets
  | .negation e => 1 + e.brackets
  | .choice c y n => 1 + max c.brackets (max y.brackets n.brackets)

/-- How many brackets are inside each other in several expressions. -/
def Expr.bracketsOf : List Expr → Nat
  | [] => 0
  | e :: es => max e.brackets (Expr.bracketsOf es)

end

/-- Whether brackets are nested too deeply in an expression that has brackets around it. -/
def Expr.isTooDeep (e : Expr) : Bool :=
  e.brackets ≥ maxBrackets

mutual

/-- Whether parts of a statement are nested too deeply, given the number of loops and bodies around it. A
function, and a loop that calls itself, has loops of its own. -/
def Stmt.isTooDeep (loops bodies : Nat) : Stmt → Bool
  | .data _ => false
  | .output _ e => e.isTooDeep
  | .assign _ e => e.isTooDeep
  | .capture _ f b => f.isTooDeep || Stmt.areTooDeep loops bodies b
  | .loop _ e c isRecursive b o =>
    let (loops, bodies) := if isRecursive then (0, bodies + 1) else (loops, bodies)
    e.isTooDeep || c.isTooDeep || loops + 1 > maxLoops || bodies + 1 > maxBodies ||
      (!(c matches .absent) && bodies + 3 > maxBodies) ||
      Stmt.areTooDeep (loops + 1) (bodies + 1) b || Stmt.areTooDeep loops (bodies + 1) o
  | .choice c y n =>
    -- A choice that is all of the other branch stands beside the first one.
    let other := if n.length = 1 && n.any (fun s => s matches .choice ..) then bodies else bodies + 1
    c.isTooDeep || bodies + 1 > maxBodies || Stmt.areTooDeep loops (bodies + 1) y || Stmt.areTooDeep loops other n
  | .locals _ es b => es.any Expr.isTooDeep || Stmt.areTooDeep loops bodies b
  | .scope b => Stmt.areTooDeep loops bodies b
  | .block _ _ _ b => Stmt.areTooDeep 0 1 b
  | .parent e => e.isTooDeep
  | .included e _ withContext => e.isTooDeep || bodies + 1 > maxBodies || (withContext && loops + 1 > maxLoops)
  | .imported e _ _ => e.isTooDeep
  | .importedNames e _ _ => e.isTooDeep
  | .routine _ _ ds b => ds.any Expr.isTooDeep || bodies + 1 > maxBodies || Stmt.areTooDeep 0 (bodies + 1) b
  | .callWith _ ds c b =>
    ds.any Expr.isTooDeep || c.isTooDeep || bodies + 1 > maxBodies || Stmt.areTooDeep 0 (bodies + 1) b
  | .filtered f b => f.isTooDeep || Stmt.areTooDeep loops bodies b
  | .escaped e b => e.isTooDeep || Stmt.areTooDeep loops bodies b

/-- Whether parts of a body are nested too deeply. -/
def Stmt.areTooDeep (loops bodies : Nat) : List Stmt → Bool
  | [] => false
  | s :: ss => s.isTooDeep loops bodies || Stmt.areTooDeep loops bodies ss

end

end Stencil.Template
