import Stencil.Template.Function

namespace Stencil.Template

/-!
# Values of expressions

* `UnaryOp.apply`, `BinaryOp.apply`, `CompareOp.apply` — the results of operators on values;
* `sliced`, `concatenated` — the items of a value in a range of positions, and the texts of values put together;
* `Expr.eval` — the value of an expression in a frame;
* `spreadArguments` — the arguments of a call with those that a list and a mapping add.
-/

/-! ### Operators -/

/-- The result of an operator with one operand. -/
def UnaryOp.apply (op : UnaryOp) (v : Value) : Run Value :=
  Run.ofExcept <| match op with
    | .negate => v.negate
    | .plus => v.plus

/-- The result of an operator of arithmetic. A remainder may be a text with all parts of the operand in it. -/
def BinaryOp.apply (op : BinaryOp) (a b : Value) : Run Value := do
  match op with
  | .mod => Run.ofPlain ((← Run.whole a).mod (← Run.whole b))
  | op =>
    let a ← Run.opened a
    let b ← Run.opened b
    Run.ofPlain <| match op with
      | .add => a.add b
      | .sub => a.sub b
      | .mul => a.mul b
      | .div => a.div b
      | .floorDiv => a.floorDiv b
      | .pow => a.pow b
      | .mod => a.mod b

/-- The result of a comparison. -/
def CompareOp.apply (cb : Callbacks) (op : CompareOp) (a b : Value) : Run Bool := do
  let ordered (holds : Ordering → Bool) : Run Bool := do
    Run.ofExcept (Value.ordered holds (← Run.whole a) (← Run.whole b))
  match op with
  | .eq => Run.same a b
  | .ne => return !(← Run.same a b)
  | .lt => ordered (· == .lt)
  | .le => ordered (· != .gt)
  | .gt => ordered (· == .gt)
  | .ge => ordered (· != .lt)
  | .isIn => cb.isAmong a b
  | .notIn => return !(← cb.isAmong a b)

/-- The items of a value in a range of positions. -/
def sliced (v start stop step : Value) : Run Value := do
  Run.ofPlain ((← Run.opened v).slice start stop step)

/-- The texts of values put together; where texts are escaped, the result counts as escaped if some part
does. -/
def concatenated (escapes : Bool) (vs : List Value) (texts : List String) : Value :=
  let isEscaped (v : Value) : Bool := v matches .markup _
  if escapes && vs.any isEscaped then
    .markup (String.join ((vs.zip texts).map fun (v, s) => if isEscaped v then s else Value.escapeMarkup s))
  else .str (String.join texts)

/-! ### Arguments and parts -/

/-- Names that cannot be written as the names of arguments in the language that templates are compiled to. Calls
with such arguments hand over all named arguments in one mapping. -/
def reservedNames : List String :=
  ["False", "None", "True", "and", "as", "assert", "async", "await", "break", "class", "continue", "def",
   "del", "elif", "else", "except", "finally", "for", "from", "global", "if", "import", "in", "is",
   "lambda", "nonlocal", "not", "or", "pass", "raise", "return", "try", "while", "with", "yield"]

/-- Named arguments of which the last one with each name counts. -/
def lastNamed (named : List (String × Value)) : List (String × Value) :=
  named.foldl (fun m (k, v) => OrderedMap.put m k v) ([] : OrderedMap Value)

/-- The arguments of a call with those that a list and a mapping add. -/
def spreadArguments (cb : Callbacks) (args : List Value) (named : List (String × Value))
    (spread spreadNamed : Option Value) : Run (List Value × List (String × Value)) := do
  let more ← match spread with
    | none => pure []
    | some v => cb.items v
  -- A reserved name puts all named arguments into one mapping, where a name may come twice.
  let inOne := named.any fun (k, _) => reservedNames.contains k
  let moreNamed ← match spreadNamed with
    | none => pure []
    | some v =>
      match ← Run.opened v with
      | .dict entries =>
        entries.mapM fun (k, v) => do
          match k.asText? with
          | some k => if !inOne && (named.lookup k).isSome then Run.wrongType else pure (k, v)
          | none => Run.wrongType
      | _ => Run.wrongType
  let named := named ++ moreNamed
  return (args ++ more, if inOne then lastNamed named else named)

/-- The value of an expression that may be left out. -/
def Expr.unlessAbsent (e : Expr) (value : Run Value) : Run (Option Value) :=
  match e with
  | .absent => return none
  | _ => some <$> value

/-- The mapping with some entries. -/
def makeDict (entries : List (Value × Value)) : Run Value :=
  if entries.all fun (k, _) => k.isHashable then Run.newDict (Collection.merged [] entries) else Run.wrongType

/-- The values of pairs of computations, pair by pair. -/
def evalPairs (xs ys : List (Run Value)) : Run (List (Value × Value)) :=
  (xs.zip ys).mapM fun (x, y) => do
    let v ← x
    return (v, ← y)

/-- Whether texts are escaped in a frame. -/
def Escaping.holds (f : Frame) : Escaping → Run Bool
  | .off => return false
  | .on => return true
  | .byContext => Run.escapes f

mutual

/-- The value of an expression in a frame. -/
def Expr.eval (lib : Library) (ev : Evaluator) (f : Frame) : Expr → Run Value
  | .literal v => Run.intern v
  | .absent => return .undefined
  | .unwritable => Run.missing
  | .captured => return f.captured
  | .name id => Run.lookUp f id
  | .list items => do Run.newList (← Expr.evalAll lib ev f items)
  | .tuple items => do return .tuple (← Expr.evalAll lib ev f items)
  -- Each value is evaluated right after its key.
  | .dict keys values => do makeDict (← evalPairs (Expr.evals lib ev f keys) (Expr.evals lib ev f values))
  | .attribute e id => do ev.getAttribute f (← e.eval lib ev f) id
  | .item e (.slice start stop step) => do
    let v ← e.eval lib ev f
    let a ← start.unlessAbsent (start.eval lib ev f)
    let b ← stop.unlessAbsent (stop.eval lib ev f)
    let c ← step.unlessAbsent (step.eval lib ev f)
    sliced v (a.getD .none) (b.getD .none) (c.getD .none)
  | .item e key => do
    let v ← e.eval lib ev f
    ev.getItem f v (← key.eval lib ev f)
  | .slice .. => Run.wrongType
  | .call function args names named spread spreadNamed => do
    let function ← function.eval lib ev f
    let args ← Expr.evalAll lib ev f args
    let more ← spread.unlessAbsent (spread.eval lib ev f)
    let named ← Expr.evalAll lib ev f named
    let moreNamed ← spreadNamed.unlessAbsent (spreadNamed.eval lib ev f)
    let (args, named) ← spreadArguments (ev.taking f) args (names.zip named) more moreNamed
    ev.callValue lib f function args named
  | .filter e id args names named spread spreadNamed => do
    let v ← e.eval lib ev f
    let args ← Expr.evalAll lib ev f args
    let more ← spread.unlessAbsent (spread.eval lib ev f)
    let named ← Expr.evalAll lib ev f named
    let moreNamed ← spreadNamed.unlessAbsent (spreadNamed.eval lib ev f)
    let (args, named) ← spreadArguments (ev.taking f) args (names.zip named) more moreNamed
    ev.applyFilter lib f id v args named
  | .test e id args names named spread spreadNamed => do
    let v ← e.eval lib ev f
    let args ← Expr.evalAll lib ev f args
    let more ← spread.unlessAbsent (spread.eval lib ev f)
    let named ← Expr.evalAll lib ev f named
    let moreNamed ← spreadNamed.unlessAbsent (spreadNamed.eval lib ev f)
    let (args, named) ← spreadArguments (ev.taking f) args (names.zip named) more moreNamed
    return .bool (← Test.apply lib.catalogue (ev.taking f) id v args named)
  | .unary op e => do op.apply (← e.eval lib ev f)
  | .binary op a b => do
    let a ← a.eval lib ev f
    op.apply a (← b.eval lib ev f)
  | .concat escaping items => do
    let vs ← Expr.evalAll lib ev f items
    return concatenated (← escaping.holds f) vs (← vs.mapM (ev.textOf f))
  | .compare e ops operands => do Expr.compareAll lib ev f (← e.eval lib ev f) ops operands
  -- These operators give one of their operands and not its truth value.
  | .both a b => do
    let v ← a.eval lib ev f
    if ← Run.isTrue v then b.eval lib ev f else return v
  | .either a b => do
    let v ← a.eval lib ev f
    if ← Run.isTrue v then return v else b.eval lib ev f
  | .negation e => do return .bool !(← Run.isTrue (← e.eval lib ev f))
  | .choice condition yes no => do
    if ← Run.isTrue (← condition.eval lib ev f) then yes.eval lib ev f else no.eval lib ev f

/-- The values of expressions in a frame. -/
def Expr.evalAll (lib : Library) (ev : Evaluator) (f : Frame) : List Expr → Run (List Value)
  | [] => return []
  | e :: es => do
    let v ← e.eval lib ev f
    return v :: (← Expr.evalAll lib ev f es)

/-- The computations of the values of expressions in a frame. -/
def Expr.evals (lib : Library) (ev : Evaluator) (f : Frame) : List Expr → List (Run Value)
  | [] => []
  | e :: es => e.eval lib ev f :: Expr.evals lib ev f es

/-- A chain of comparisons, up to the first that does not hold. -/
def Expr.compareAll (lib : Library) (ev : Evaluator) (f : Frame) (left : Value) (ops : List CompareOp) :
    List Expr → Run Value
  | [] => return .bool true
  | e :: es => do
    let right ← e.eval lib ev f
    match ops with
    | [] => return .bool true
    | op :: ops =>
      if ← op.apply (ev.taking f) left right then Expr.compareAll lib ev f right ops es
      else return .bool false

end

end Stencil.Template
