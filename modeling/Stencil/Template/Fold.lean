import Stencil.Template.Statement

namespace Stencil.Template

/-!
# Constant parts of expressions

What a template can compute before it runs is computed once, when the template is read.

* `Expr.constant` — the value of an expression that needs no names, calls or running template;
* `Expr.folded` — an expression with the parts replaced that have values which can be written down.

A failure inside an operator, filter or test leaves the expression for later. A failure outside of them, where a
collection or a text is put together, is final: the template cannot be had.
-/

/-- What is known about the place of an expression before a template runs. -/
structure Folding where
  library : Library
  evaluator : Evaluator
  /-- texts are escaped, as far as that is known -/
  escapes : Bool := false
  /-- whether texts are escaped is known only when the template runs -/
  isOpen : Bool := false

namespace Folding

/-- What is known at the start of a template. -/
def ofLibrary (lib : Library) : Folding :=
  { library := lib, evaluator := .upTo lib maxDepth }

/-- What constants use of the evaluation of templates, in a context that escapes texts or not. -/
def callbacks (fd : Folding) : Run Callbacks := do
  let context ← Run.alloc (.context { escapes := fd.escapes })
  fd.evaluator.callbacks fd.library { context }

/-- Whether a filter can be applied to constants. -/
def hasFilter (fd : Folding) (name : String) : Bool :=
  !fd.isOpen && fd.library.catalogue.hasFilter name &&
    (fd.library.helpers.contains name || !Filter.usesContext name)

/-- Whether a test can be applied to constants. -/
def hasTest (fd : Folding) (name : String) : Bool :=
  !fd.isOpen && fd.library.catalogue.hasTest name

end Folding

/-- The value of a constant, if there is one. -/
abbrev Constant := Run (Option Value)

namespace Constant

/-- There is no constant. -/
def none : Constant :=
  return Option.none

/-- A constant whose failure means that there is none. -/
def soft (x : Constant) : Constant :=
  tryCatch x fun _ => none

/-- A constant that is computed from another. -/
def bind (x : Constant) (f : Value → Constant) : Constant := do
  match ← x with
  | some v => f v
  | Option.none => none

/-- The values of constants, if all of them have one. -/
def all : List Constant → Run (Option (List Value))
  | [] => return some []
  | x :: xs => do
    match ← x with
    | Option.none => return Option.none
    | some v => return (← all xs).map (v :: ·)

/-- The entries of a mapping, if all of them are constants; a key must be one that a mapping can have. -/
def entries : List (Constant × Constant) → Run (Option (List (Value × Value)))
  | [] => return some []
  | (k, v) :: rest => do
    match ← k, ← v with
    | some k, some v =>
      if !k.isHashable then Run.wrongType
      return (← entries rest).map ((k, v) :: ·)
    | _, _ => return Option.none

/-- The texts of constants put together, if all of them have values. -/
def concat (escapes : Value → Run String) : List Constant → Run (Option String)
  | [] => return some ""
  | x :: xs => do
    match ← x with
    | Option.none => return Option.none
    | some v =>
      let s ← escapes v
      return (← concat escapes xs).map (s ++ ·)

/-- The result of a chain of comparisons. -/
def compare (cb : Callbacks) (result left : Value) : List CompareOp → List Constant → Constant
  | op :: ops, x :: xs => bind x fun right => do
    if ← op.apply cb left right then compare cb (.bool true) right ops xs
    else return some (.bool false)
  | _, _ => return some result

end Constant

/-- The arguments of a filter or test that are constants. -/
def constantArguments (cb : Callbacks) (args : List Constant) (names : List String) (named : List Constant)
    (spread spreadNamed : Option Constant) : Run (Option (List Value × List (String × Value))) := do
  let some args ← Constant.all args | return none
  let some named ← Constant.all named | return none
  let listed (v : Value) : Constant := do return some (← Run.newList (← cb.items v))
  let more ← match spread with
    | none => pure (some (Value.list []))
    | some x => Constant.soft (Constant.bind x listed)
  let moreNamed ← match spreadNamed with
    | none => pure (some (Value.dict []))
    | some x => Constant.soft (Constant.bind x fun v => do
        return some (.dict (← Collection.entries cb v)))
  match more, moreNamed with
  | some more, some (.dict entries) =>
    if entries.any fun (k, _) => k.asText?.isNone then return none
    let fields := entries.filterMap fun (k, v) => k.asText?.map fun k => (k, v)
    return some (args ++ (← cb.items (← Run.intern more)), lastNamed (names.zip named ++ fields))
  | _, _ => return none

/-- A part of an expression that may be left out, as a constant. -/
def Expr.constantUnlessAbsent (e : Expr) (x : Constant) : Option Constant :=
  match e with
  | .absent => none
  | _ => some x

/-- The items of a constant in a range of positions; what has no positions has no items there. -/
def constantSlice (v start stop step : Value) : Constant := do
  if v matches .undefined then return none
  try return some (← sliced v start stop step)
  catch
    | .foreign .wrongType => return some .undefined
    | _ => return none

mutual

/-- The value of an expression before the template runs, if it has one. -/
def Expr.constant (fd : Folding) (cb : Callbacks) : Expr → Constant
  | .literal v => some <$> Run.intern v
  | .list items => do
    match ← Constant.all (Expr.constants fd cb items) with
    | some vs => some <$> Run.newList vs
    | none => return none
  | .tuple items => do return (← Constant.all (Expr.constants fd cb items)).map .tuple
  | .dict keys values => do
    match ← Constant.entries ((Expr.constants fd cb keys).zip (Expr.constants fd cb values)) with
    | some entries => some <$> makeDict entries
    | none => return none
  | .attribute e id =>
    Constant.soft (Constant.bind (e.constant fd cb) fun v => some <$> cb.getAttribute v (.str id))
  | .item e (.slice start stop step) =>
    let bound (e : Expr) (x : Constant) : Constant := (e.constantUnlessAbsent x).getD (return some .none)
    Constant.soft <| Constant.bind (e.constant fd cb) fun v =>
      Constant.bind (bound start (start.constant fd cb)) fun a =>
      Constant.bind (bound stop (stop.constant fd cb)) fun b =>
      Constant.bind (bound step (step.constant fd cb)) fun c => constantSlice v a b c
  | .item e index =>
    Constant.soft <| Constant.bind (e.constant fd cb) fun v =>
      Constant.bind (index.constant fd cb) fun i => some <$> cb.getItem v i
  -- The arguments come first: unless all are constants, the operand is not looked at.
  | .filter e id args names named spread spreadNamed => do
    if !fd.hasFilter id then return none
    match ← constantArguments cb (Expr.constants fd cb args) names (Expr.constants fd cb named)
        (spread.constantUnlessAbsent (spread.constant fd cb))
        (spreadNamed.constantUnlessAbsent (spreadNamed.constant fd cb)) with
    | some (args, named) =>
      Constant.bind (e.constant fd cb) fun v => Constant.soft (some <$> cb.filter id v args named)
    | none => return none
  | .test e id args names named spread spreadNamed => do
    if !fd.hasTest id then return none
    match ← constantArguments cb (Expr.constants fd cb args) names (Expr.constants fd cb named)
        (spread.constantUnlessAbsent (spread.constant fd cb))
        (spreadNamed.constantUnlessAbsent (spreadNamed.constant fd cb)) with
    | some (args, named) =>
      Constant.bind (e.constant fd cb) fun v => Constant.soft ((some ∘ .bool) <$> cb.test id v args named)
    | none => return none
  | .unary op e => Constant.soft (Constant.bind (e.constant fd cb) fun v => some <$> op.apply v)
  | .binary op a b =>
    Constant.soft <| Constant.bind (a.constant fd cb) fun v => Constant.bind (b.constant fd cb) fun w => some <$> op.apply v w
  | .concat _ items => do
    return (← Constant.concat Run.textOf (Expr.constants fd cb items)).map .str
  | .compare e ops operands =>
    Constant.bind (e.constant fd cb) fun v => Constant.soft (Constant.compare cb v v ops (Expr.constants fd cb operands))
  | .both a b => Constant.bind (a.constant fd cb) fun v => do if ← Run.isTrue v then b.constant fd cb else return some v
  | .either a b => Constant.bind (a.constant fd cb) fun v => do if ← Run.isTrue v then return some v else b.constant fd cb
  | .negation e => Constant.soft (Constant.bind (e.constant fd cb) fun v => do return some (.bool !(← Run.isTrue v)))
  | .choice condition yes no =>
    Constant.bind (condition.constant fd cb) fun v => do
      if ← Run.isTrue v then yes.constant fd cb else no.constant fd cb
  | _ => Constant.none

/-- The values of expressions before the template runs. -/
def Expr.constants (fd : Folding) (cb : Callbacks) : List Expr → List Constant
  | [] => []
  | e :: es => e.constant fd cb :: Expr.constants fd cb es

end

namespace Folding

/-- The result of a computation before a template runs. -/
def result {α : Type} (x : Run α) : Except Defect α :=
  match x.run {} with
  | .ok (a, _) => .ok a
  | .error (.foreign f) => .error (.foreign f)
  | .error _ => .error (.foreign .unexpected)

/-- The value of an expression, without references, if it is a constant. -/
def value? (fd : Folding) (e : Expr) : Except Defect (Option Value) :=
  result do
    match ← e.constant fd (← fd.callbacks) with
    | some v => some <$> Run.whole v
    | none => return none

/-- The truth value of an expression, if it is a constant. -/
def truth? (fd : Folding) (e : Expr) : Except Defect (Option Bool) :=
  result do
    match ← e.constant fd (← fd.callbacks) with
    | some v => some <$> Run.isTrue v
    | none => return none

/-- The text of an expression where it is printed, if it is a constant. -/
def text? (fd : Folding) (e : Expr) : Except Defect (Option String) :=
  result do
    match ← e.constant fd (← fd.callbacks) with
    | some v => some <$> if fd.escapes then Run.escapedText v else Run.textOf v
    | none => return none

end Folding

/-! ### Literals -/

/-- Whether a value has a literal. -/
def isWritable (v : Value) : Bool :=
  let isPlain : Value → Bool
    | .none | .bool _ | .int _ | .float _ | .complex _ _ | .range _ _ _ | .str _ | .markup _ => true
    | .tuple _ | .list _ | .set _ | .dict _ => true
    | _ => false
  !v.anyPart fun x => !isPlain x

/-- Whether the literal of a value has a number in it that is none when it is read back. -/
def hasSpecialNumber (v : Value) : Bool :=
  v.anyPart fun
    | .float x => !x.isFinite
    | .complex re im => !re.isFinite || !im.isFinite
    | _ => false

/-! ### Folding -/

/-- An expression, or its literal if it has one. -/
def Folding.literal (fd : Folding) (e : Expr) : Except Defect Expr := do
  match ← fd.value? e with
  | some v => return if isWritable v then .literal v else e
  | none => return e

mutual

/-- An expression with all constant parts replaced by literals. -/
def Expr.folded (fd : Folding) : Expr → Except Defect Expr
  | .list items => do fd.literal (.list (← Expr.foldedAll fd items))
  | .tuple items => do fd.literal (.tuple (← Expr.foldedAll fd items))
  | .dict keys values => do fd.literal (.dict (← Expr.foldedAll fd keys) (← Expr.foldedAll fd values))
  | .attribute e id => do fd.literal (.attribute (← e.folded fd) id)
  | .item e index => do fd.literal (.item (← e.folded fd) (← index.folded fd))
  | .slice start stop step => do return .slice (← start.folded fd) (← stop.folded fd) (← step.folded fd)
  | .call function args names named spread spreadNamed => do
    return .call (← function.folded fd) (← Expr.foldedAll fd args) names (← Expr.foldedAll fd named)
      (← spread.folded fd) (← spreadNamed.folded fd)
  | .filter e id args names named spread spreadNamed => do
    fd.literal (.filter (← e.folded fd) id (← Expr.foldedAll fd args) names (← Expr.foldedAll fd named)
      (← spread.folded fd) (← spreadNamed.folded fd))
  | .test e id args names named spread spreadNamed => do
    fd.literal (.test (← e.folded fd) id (← Expr.foldedAll fd args) names (← Expr.foldedAll fd named)
      (← spread.folded fd) (← spreadNamed.folded fd))
  | .unary op e => do fd.literal (.unary op (← e.folded fd))
  | .binary op a b => do fd.literal (.binary op (← a.folded fd) (← b.folded fd))
  | .concat escaping items => do fd.literal (.concat escaping (← Expr.foldedAll fd items))
  | .compare e ops operands => do fd.literal (.compare (← e.folded fd) ops (← Expr.foldedAll fd operands))
  | .both a b => do fd.literal (.both (← a.folded fd) (← b.folded fd))
  | .either a b => do fd.literal (.either (← a.folded fd) (← b.folded fd))
  | .negation e => do fd.literal (.negation (← e.folded fd))
  | .choice condition yes no => do
    fd.literal (.choice (← condition.folded fd) (← yes.folded fd) (← no.folded fd))
  | e => return e

/-- Expressions with all constant parts replaced by literals. -/
def Expr.foldedAll (fd : Folding) : List Expr → Except Defect (List Expr)
  | [] => return []
  | e :: es => do return (← e.folded fd) :: (← Expr.foldedAll fd es)

end

end Stencil.Template
