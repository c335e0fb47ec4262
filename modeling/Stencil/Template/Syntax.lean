import Stencil.Value.Basic

namespace Stencil.Template

/-!
# Syntax of templates

* `Expr` — expressions;
* `Target` — what an assignment assigns to;
* `Stmt` — the parts of a template body;
* `Block`, `Template` — the named parts of a template, and a whole one;
* `Stmt.anyAssigns`, `Stmt.blocksOf`, `Stmt.anyHasParent` — what a body contains.

A missing part of an expression is the expression `Expr.absent`. Named arguments, the entries of a
mapping and the operators of a chain of comparisons are kept in lists beside their expressions.
-/

/-- Operators with one operand. -/
inductive UnaryOp where
  | negate
  | plus
  deriving Repr, BEq, DecidableEq, Inhabited

/-- Operators of arithmetic. -/
inductive BinaryOp where
  | add
  | sub
  | mul
  | div
  | floorDiv
  | mod
  | pow
  deriving Repr, BEq, DecidableEq, Inhabited

/-- Operators that compare. -/
inductive CompareOp where
  | eq
  | ne
  | lt
  | le
  | gt
  | ge
  | isIn
  | notIn
  deriving Repr, BEq, DecidableEq, Inhabited

/-- Whether the texts of values are escaped where they are printed. -/
inductive Escaping where
  | off
  | on
  /-- what the context says when the template runs -/
  | byContext
  deriving Repr, BEq, DecidableEq, Inhabited

/-- Expressions. -/
inductive Expr where
  | literal (v : Value)
  /-- a part that is left out -/
  | absent
  /-- a constant that cannot be written down, so that it has no value -/
  | unwritable
  /-- the text that the statement around the expression has collected -/
  | captured
  | name (id : String)
  | list (items : List Expr)
  | tuple (items : List Expr)
  | dict (keys values : List Expr)
  | attribute (e : Expr) (name : String)
  | item (e index : Expr)
  | slice (start stop step : Expr)
  | call (function : Expr) (args : List Expr) (names : List String) (named : List Expr)
      (spread spreadNamed : Expr)
  | filter (e : Expr) (name : String) (args : List Expr) (names : List String) (named : List Expr)
      (spread spreadNamed : Expr)
  | test (e : Expr) (name : String) (args : List Expr) (names : List String) (named : List Expr)
      (spread spreadNamed : Expr)
  | unary (op : UnaryOp) (e : Expr)
  | binary (op : BinaryOp) (a b : Expr)
  | concat (escaping : Escaping) (items : List Expr)
  | compare (e : Expr) (ops : List CompareOp) (operands : List Expr)
  | both (a b : Expr)
  | either (a b : Expr)
  | negation (e : Expr)
  | choice (condition yes no : Expr)
  deriving Inhabited

/-- What an assignment assigns to: a name, a field of a record, or several targets at once. -/
inductive Target where
  | name (id : String)
  | field (record name : String)
  | tuple (targets : List Target)
  deriving Inhabited

/-- The parts of a template body. -/
inductive Stmt where
  | data (text : String)
  | output (escaping : Escaping) (e : Expr)
  | assign (target : Target) (e : Expr)
  /-- assign the text of a body, filtered if there is a filter -/
  | capture (target : Target) (filter : Expr) (body : List Stmt)
  | loop (target : Target) (items condition : Expr) (isRecursive : Bool) (body otherwise : List Stmt)
  | choice (condition : Expr) (yes no : List Stmt)
  | locals (targets : List Target) (values : List Expr) (body : List Stmt)
  | scope (body : List Stmt)
  | block (name : String) (isScoped isRequired : Bool) (body : List Stmt)
  | parent (template : Expr)
  | included (template : Expr) (mayBeMissing withContext : Bool)
  | imported (template : Expr) (name : String) (withContext : Bool)
  | importedNames (template : Expr) (names : List (String × String)) (withContext : Bool)
  | routine (name : String) (parameters : List String) (defaults : List Expr) (body : List Stmt)
  /-- call a function with a body as its caller -/
  | callWith (parameters : List String) (defaults : List Expr) (call : Expr) (body : List Stmt)
  | filtered (filter : Expr) (body : List Stmt)
  /-- a body in which the texts of values are escaped or not -/
  | escaped (enabled : Expr) (body : List Stmt)
  deriving Inhabited

/-- A block of a template. -/
structure Block where
  name : String
  isScoped : Bool
  isRequired : Bool
  body : List Stmt
  deriving Inhabited

/-- A template that has passed its checks. -/
structure Template where
  /-- the name that it is found by, if it has one -/
  name : Option String
  body : List Stmt
  blocks : List Block
  deriving Inhabited

mutual

/-- The names that a target assigns. -/
def Target.names : Target → List String
  | .name id => [id]
  | .field _ _ => []
  | .tuple ts => Target.namesOf ts

/-- The names that targets assign. -/
def Target.namesOf : List Target → List String
  | [] => []
  | t :: ts => t.names ++ Target.namesOf ts

end

mutual

/-- The records of which a target assigns a field. -/
def Target.records : Target → List String
  | .name _ => []
  | .field record _ => [record]
  | .tuple ts => Target.recordsOf ts

/-- The records of which targets assign a field. -/
def Target.recordsOf : List Target → List String
  | [] => []
  | t :: ts => t.records ++ Target.recordsOf ts

end

/-! ### What bodies contain -/

mutual

/-- Whether a statement assigns a name, other than as a parameter. -/
def Stmt.assigns (name : String) : Stmt → Bool
  | .assign t _ => t.names.contains name
  | .capture t _ b => t.names.contains name || Stmt.anyAssigns name b
  | .loop t _ _ _ b o => t.names.contains name || Stmt.anyAssigns name b || Stmt.anyAssigns name o
  | .choice _ y n => Stmt.anyAssigns name y || Stmt.anyAssigns name n
  | .locals _ _ b => Stmt.anyAssigns name b
  | .scope b => Stmt.anyAssigns name b
  | .block _ _ _ b => Stmt.anyAssigns name b
  | .routine _ _ _ b => Stmt.anyAssigns name b
  | .callWith _ _ _ b => Stmt.anyAssigns name b
  | .filtered _ b => Stmt.anyAssigns name b
  | .escaped _ b => Stmt.anyAssigns name b
  | _ => false

/-- Whether a body assigns a name, other than as a parameter. -/
def Stmt.anyAssigns (name : String) : List Stmt → Bool
  | [] => false
  | s :: ss => s.assigns name || Stmt.anyAssigns name ss

end

mutual

/-- The blocks of a statement, outer ones first. -/
def Stmt.blocks : Stmt → List Block
  | .capture _ _ b => Stmt.blocksOf b
  | .loop _ _ _ _ b o => Stmt.blocksOf b ++ Stmt.blocksOf o
  | .choice _ y n => Stmt.blocksOf y ++ Stmt.blocksOf n
  | .locals _ _ b => Stmt.blocksOf b
  | .scope b => Stmt.blocksOf b
  | .block name isScoped isRequired b => ⟨name, isScoped, isRequired, b⟩ :: Stmt.blocksOf b
  | .routine _ _ _ b => Stmt.blocksOf b
  | .callWith _ _ _ b => Stmt.blocksOf b
  | .filtered _ b => Stmt.blocksOf b
  | .escaped _ b => Stmt.blocksOf b
  | _ => []

/-- The blocks of a body. -/
def Stmt.blocksOf : List Stmt → List Block
  | [] => []
  | s :: ss => s.blocks ++ Stmt.blocksOf ss

end

mutual

/-- Whether a statement or a part of it names a parent. -/
def Stmt.hasParent : Stmt → Bool
  | .parent _ => true
  | .capture _ _ b => Stmt.anyHasParent b
  | .loop _ _ _ _ b o => Stmt.anyHasParent b || Stmt.anyHasParent o
  | .choice _ y n => Stmt.anyHasParent y || Stmt.anyHasParent n
  | .locals _ _ b => Stmt.anyHasParent b
  | .scope b => Stmt.anyHasParent b
  | .block _ _ _ b => Stmt.anyHasParent b
  | .routine _ _ _ b => Stmt.anyHasParent b
  | .callWith _ _ _ b => Stmt.anyHasParent b
  | .filtered _ b => Stmt.anyHasParent b
  | .escaped _ b => Stmt.anyHasParent b
  | _ => false

/-- Whether a body names a parent. -/
def Stmt.anyHasParent : List Stmt → Bool
  | [] => false
  | s :: ss => s.hasParent || Stmt.anyHasParent ss

end

end Stencil.Template
