import Stencil.Template.Syntax

namespace Stencil.Template

/-!
# Names in templates

Every body has names of its own. Where the value of a name comes from when the body starts is decided by
what the body does with it first.

* `Origin` — where a name gets its first value from;
* `Names.ofBody` — the names of a body with their origins;
* `undeclared` — which of some special names a body reads without declaring them.
-/

/-! ### What expressions read -/

mutual

/-- The names that an expression reads. -/
def Expr.reads : Expr → List String
  | .literal _ => []
  | .absent => []
  | .unwritable => []
  | .captured => []
  | .name id => [id]
  | .list items => Expr.readsOf items
  | .tuple items => Expr.readsOf items
  | .dict keys values => Expr.readsOf keys ++ Expr.readsOf values
  | .attribute e _ => e.reads
  | .item e index => e.reads ++ index.reads
  | .slice start stop step => start.reads ++ stop.reads ++ step.reads
  | .call f args _ named spread spreadNamed =>
    f.reads ++ Expr.readsOf args ++ Expr.readsOf named ++ spread.reads ++ spreadNamed.reads
  | .filter e _ args _ named spread spreadNamed =>
    e.reads ++ Expr.readsOf args ++ Expr.readsOf named ++ spread.reads ++ spreadNamed.reads
  | .test e _ args _ named spread spreadNamed =>
    e.reads ++ Expr.readsOf args ++ Expr.readsOf named ++ spread.reads ++ spreadNamed.reads
  | .unary _ e => e.reads
  | .binary _ a b => a.reads ++ b.reads
  | .concat _ items => Expr.readsOf items
  | .compare e _ operands => e.reads ++ Expr.readsOf operands
  | .both a b => a.reads ++ b.reads
  | .either a b => a.reads ++ b.reads
  | .negation e => e.reads
  | .choice c y n => c.reads ++ y.reads ++ n.reads

/-- The names that expressions read. -/
def Expr.readsOf : List Expr → List String
  | [] => []
  | e :: es => e.reads ++ Expr.readsOf es

end

/-! ### Special names -/

/-- A name that is read, or one that is given a value. -/
inductive Mention where
  | read (name : String)
  | given (name : String)
  deriving Repr, BEq, DecidableEq, Inhabited

/-- The names that an expression reads, as mentions. -/
def Expr.mentions (e : Expr) : List Mention :=
  e.reads.map .read

/-- The names that expressions read, as mentions. -/
def Expr.mentionsOf (es : List Expr) : List Mention :=
  (Expr.readsOf es).map .read

/-- The names that a target gives values to, as mentions. -/
def Target.mentions (t : Target) : List Mention :=
  t.names.map .given

mutual

/-- The mentions of names in a statement, those inside blocks left out. -/
def Stmt.mentions : Stmt → List Mention
  | .data _ => []
  | .output _ e => e.mentions
  | .assign t e => t.mentions ++ e.mentions
  | .capture t f b => t.mentions ++ f.mentions ++ Stmt.mentionsOf b
  | .loop t e c _ b o => t.mentions ++ e.mentions ++ Stmt.mentionsOf b ++ Stmt.mentionsOf o ++ c.mentions
  | .choice c y n => c.mentions ++ Stmt.mentionsOf y ++ Stmt.mentionsOf n
  | .locals ts es b => ts.flatMap Target.mentions ++ Expr.mentionsOf es ++ Stmt.mentionsOf b
  | .scope b => Stmt.mentionsOf b
  | .block .. => []
  | .parent e => e.mentions
  | .included e _ _ => e.mentions
  | .imported e _ _ => e.mentions
  | .importedNames e _ _ => e.mentions
  | .routine _ ps ds b => ps.map .given ++ Expr.mentionsOf ds ++ Stmt.mentionsOf b
  | .callWith ps ds c b => c.mentions ++ ps.map .given ++ Expr.mentionsOf ds ++ Stmt.mentionsOf b
  | .filtered f b => Stmt.mentionsOf b ++ f.mentions
  | .escaped e b => e.mentions ++ Stmt.mentionsOf b

/-- The mentions of names in a body, those inside blocks left out. -/
def Stmt.mentionsOf : List Stmt → List Mention
  | [] => []
  | s :: ss => s.mentions ++ Stmt.mentionsOf ss

end

/-- The names of a list that are read before they are given a value. -/
def undeclaredIn : List String → List Mention → List String
  | _, [] => []
  | names, .read n :: rest =>
    if names.contains n then n :: undeclaredIn names rest else undeclaredIn names rest
  | names, .given n :: rest => undeclaredIn (names.filter (· != n)) rest

/-- The special names that a body reads without giving them a value. -/
def undeclared (names : List String) (body : List Stmt) : List String :=
  undeclaredIn names (Stmt.mentionsOf body)

/-! ### Names of a body -/

/-- Where a name gets its first value from. -/
inductive Origin where
  /-- the value is given from outside the body -/
  | parameter
  /-- the value that the name has around the body -/
  | outer
  /-- the value that the name has in the context -/
  | context
  /-- there is none before an assignment -/
  | nothing
  deriving Repr, BEq, DecidableEq, Inhabited

/-- The names of a body with their origins, and those among them that the body gives values to. -/
structure Names where
  origins : List (String × Origin) := []
  given : List String := []
  deriving Repr, BEq, DecidableEq, Inhabited

namespace Names

/-- Whether the body has a name of its own. -/
def has (ns : Names) (name : String) : Bool :=
  ns.origins.any fun (n, _) => n == name

/-- Set the origin of a name. -/
def setOrigin (ns : Names) (name : String) (o : Origin) : Names :=
  { ns with origins := (name, o) :: ns.origins.filter fun (n, _) => n != name }

/-- A name is given a value from outside. -/
def parameter (ns : Names) (name : String) : Names :=
  { ns.setOrigin name .parameter with given := name :: ns.given }

/-- A name is read; `around` says which names there are around the body. -/
def read (around : String → Bool) (ns : Names) (name : String) : Names :=
  if ns.has name || around name then ns else ns.setOrigin name .context

/-- A name is given a value. -/
def give (around : String → Bool) (ns : Names) (name : String) : Names :=
  let known := if ns.has name then ns
    else ns.setOrigin name (if around name then .outer else .nothing)
  { known with given := name :: known.given }

/-- Names are read. -/
def readAll (around : String → Bool) (ns : Names) (names : List String) : Names :=
  names.foldl (read around) ns

/-- A target is given a value. -/
def assign (around : String → Bool) (ns : Names) (t : Target) : Names :=
  t.names.foldl (give around) (readAll around ns t.records)

/-- Join the branches of a choice: what only some branch gives a value to has the value from before. -/
def join (around : String → Bool) (ns : Names) (branches : List Names) : Names :=
  let fresh := (branches.flatMap (·.given)).filter fun n => !ns.given.contains n
  let merged := branches.foldl
    (fun ns b =>
      let ns := b.origins.reverse.foldl (fun ns (n, o) => ns.setOrigin n o) ns
      { ns with given := b.given ++ ns.given })
    ns
  fresh.foldl (fun ns n => ns.setOrigin n (if around n then .outer else .context)) merged

mutual

/-- What a statement does to the names of its body. -/
def addStmt (around : String → Bool) (ns : Names) : Stmt → Names
  | .data _ => ns
  | .output _ e => readAll around ns e.reads
  | .assign t e => assign around (readAll around ns e.reads) t
  | .capture t _ _ => assign around ns t
  | .loop _ e _ _ _ _ => readAll around ns e.reads
  | .choice c y n =>
    let ns := readAll around ns c.reads
    join around ns [addBody around ns y, addBody around ns n]
  | .locals _ es _ => readAll around ns (Expr.readsOf es)
  | .scope _ => ns
  | .block .. => ns
  | .parent e => readAll around ns e.reads
  | .included e _ _ => readAll around ns e.reads
  | .imported e name _ => give around (readAll around ns e.reads) name
  | .importedNames e names _ => (names.map (·.2)).foldl (give around) (readAll around ns e.reads)
  | .routine name _ _ _ => give around ns name
  | .callWith _ _ c _ => readAll around ns c.reads
  | .filtered f _ => readAll around ns f.reads
  | .escaped .. => ns

/-- What statements do to the names of their body. -/
def addBody (around : String → Bool) (ns : Names) : List Stmt → Names
  | [] => ns
  | s :: ss => addBody around (addStmt around ns s) ss

end

/-- The names of a body with some parameters. Expressions may read names before the body and after it. -/
def ofBody (around : String → Bool) (parameters : List String) (body : List Stmt)
    (before after : List String := []) : Names :=
  let start := readAll around (parameters.foldl parameter {}) before
  readAll around (addBody around start body) after

end Names

end Stencil.Template
