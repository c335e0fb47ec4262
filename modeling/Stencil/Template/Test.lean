import Stencil.Template.Stream

namespace Stencil.Template

/-!
# Tests of templates

* `Test.names` — the tests there are;
* `Test.apply` — the result of a test;
* `Catalogue` — which filters and tests a template can use.
-/

/-- Which filters and tests there are. -/
structure Catalogue where
  hasFilter : String → Bool
  hasTest : String → Bool

namespace Test

open Value Arguments

/-- The tests there are. -/
def names : List String :=
  ["odd", "even", "divisibleby", "defined", "undefined", "filter", "test", "none", "boolean", "false",
   "true", "integer", "float", "lower", "upper", "string", "mapping", "number", "sequence", "iterable",
   "callable", "sameas", "escaped", "in", "==", "eq", "equalto", "!=", "ne", ">", "gt", "greaterthan",
   "ge", ">=", "<", "lt", "lessthan", "<=", "le"]

/-- Whether a value can be called. -/
def isCallable : Value → Run Bool
  | .undefined => return true
  | .method _ _ => return true
  | .object (.ticker i) => do
    match ← Run.cell i with
    | .joiner _ _ => return true
    | _ => return false
  | .object (.record _) => return false
  | .object (.stream _) => return false
  | .object (.module _) => return false
  | .object (.blocks _) => return false
  | .object _ => return true
  | _ => return false

/-- Whether the items of a value can be taken one by one. -/
def isIterable : Value → Bool
  | .object (.stream _) => true
  | .object (.loop _) => true
  | .object (.blocks _) => true
  | .ref _ _ => true
  | v => v.items?.isSome

/-- Whether a value has a length and positions or keys. -/
def isSequence : Value → Bool
  | .ref _ .set => false
  | .ref _ _ => true
  | .view _ _ => false
  | v => v.items?.isSome

/-- Whether two values are one and the same. -/
def isSame : Value → Value → Bool
  | .bool a, .bool b => a == b
  | .bool _, _ => false
  | _, .bool _ => false
  | .int a, .int b => a == b
  | .int _, _ => false
  | _, .int _ => false
  | .ref a _, .ref b _ => a == b
  | .view _ _, _ => false
  | a, b => a.same b

/-- Whether a remainder is a given number. -/
def hasRemainder (v divisor : Value) (r : Int) : Run Bool := do
  return (← Run.ofExcept (mod (← Run.whole v) (← Run.whole divisor))).same (.int r)

/-- The only argument of a test, which may be given by a name. -/
def argument (name : Option String) (args : List Value) (named : List (String × Value)) : Run Value :=
  match args, named with
  | [a], [] => return a
  | [], [(k, a)] => if name = some k then return a else Run.wrongType
  | _, _ => Run.wrongType

/-- Whether a name that a value gives is among known ones. -/
def isKnown (known : String → Bool) (v : Value) : Run Bool :=
  match v.asText? with
  | some s => return known s
  | Option.none => if v.isHashable then return false else Run.wrongType

/-- Whether the text of a value has a property. -/
def textIs (property : List Char → Bool) (v : Value) : Run Bool := do
  return property (← Run.textOf v).toList

/-- The result of a test without arguments, if there is such a test. -/
def plain? (c : Catalogue) (name : String) (v : Value) : Option (Run Bool) :=
  match name with
  | "odd" => some (hasRemainder v (.int 2) 1)
  | "even" => some (hasRemainder v (.int 2) 0)
  | "defined" => some (pure !(v matches .undefined))
  | "undefined" => some (pure (v matches .undefined))
  | "filter" => some (isKnown c.hasFilter v)
  | "test" => some (isKnown c.hasTest v)
  | "none" => some (pure (v matches .none))
  | "boolean" => some (pure (v matches .bool _))
  | "false" => some (pure (v matches .bool false))
  | "true" => some (pure (v matches .bool true))
  | "integer" => some (pure (v matches .int _))
  | "float" => some (pure (v matches .float _))
  | "lower" => some (textIs isLowerText v)
  | "upper" => some (textIs isUpperText v)
  | "string" => some (pure v.asText?.isSome)
  | "mapping" => some (pure (v matches .dict _ | .ref _ .dict))
  | "number" => some (pure (v.num?.isSome || (v matches .complex _ _)))
  | "sequence" => some (pure (isSequence v))
  | "iterable" => some (pure (isIterable v))
  | "callable" => some (isCallable v)
  | "escaped" => some (pure (v matches .markup _ | .object (.module _)))
  | _ => Option.none

/-- The result of a test. -/
def apply (c : Catalogue) (cb : Callbacks) (name : String) (v : Value) (args : List Value)
    (named : List (String × Value)) : Run Bool := do
  match plain? c name v with
  | some result =>
    let _ ← Run.ofExcept (positional 0 0 args named)
    result
  | Option.none =>
    let compared (holds : Ordering → Bool) : Run Bool := do
      let a ← argument Option.none args named
      Run.ofExcept (ordered holds (← Run.whole v) (← Run.whole a))
    match name with
    | "divisibleby" => hasRemainder v (← argument (some "num") args named) 0
    | "sameas" => return isSame v (← argument (some "other") args named)
    | "in" => cb.isAmong v (← argument (some "seq") args named)
    | "==" | "eq" | "equalto" => Run.same v (← argument Option.none args named)
    | "!=" | "ne" => return !(← Run.same v (← argument Option.none args named))
    | ">" | "gt" | "greaterthan" => compared (· == .gt)
    | "ge" | ">=" => compared (· != .lt)
    | "<" | "lt" | "lessthan" => compared (· == .lt)
    | "<=" | "le" => compared (· != .gt)
    | _ => Run.missing

end Test

end Stencil.Template
