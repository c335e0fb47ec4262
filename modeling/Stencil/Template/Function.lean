import Stencil.Template.Evaluator

namespace Stencil.Template.Evaluator

/-!
# Calling functions and filters

* `Evaluator.callValue` — call a value;
* `Evaluator.applyFilter` — the result of a filter.
-/

/-! ### Functions that templates define -/

/-- The values of the parameters of a routine, in order, with what is left of the arguments; an absent
value is filled in by the default. -/
structure Bound where
  values : List (String × Option Value)
  named : List (String × Value)
  rest : List Value

/-- Bind the arguments of a call to the parameters of a routine. -/
def bindRoutine (r : Routine) (args : List Value) (named : List (String × Value)) : Bound :=
  let open_ := r.parameters.drop args.length
  { values := (r.parameters.zip args).map (fun (p, v) => (p, some v)) ++
      open_.map fun p => (p, named.lookup p)
    named := named.filter fun (k, _) => !open_.contains k
    rest := args.drop r.parameters.length }

/-- The special parameters of a routine with their values. -/
def specialsOf (r : Routine) (b : Bound) : Run (List (String × Value)) := do
  let takesCaller := r.usesCaller && !r.parameters.contains "caller"
  let caller : Value := match (b.named.lookup "caller").getD .none with
    | .none => .undefined
    | v => v
  let named := if takesCaller then b.named.filter (·.1 != "caller") else b.named
  if !r.usesNamed && !named.isEmpty then Run.wrongType
  if !r.usesRest && !b.rest.isEmpty then Run.wrongType
  let kwargs ← if r.usesNamed then do
      pure [("kwargs", ← Run.newDict (named.map fun (k, v) => (.str k, v)))]
    else pure []
  let varargs := if r.usesRest then [("varargs", Value.tuple b.rest)] else []
  return (if takesCaller then [("caller", caller)] else []) ++ kwargs ++ varargs

/-- The text of a routine for some arguments, as the frame of the call uses it. -/
def callRoutine (ev : Evaluator) (f : Frame) (r : Routine) (args : List Value)
    (named : List (String × Value)) : Run Value := do
  let b := bindRoutine r args named
  let specials ← specialsOf r b
  let parameters := r.parameters ++ specials.map (·.1)
  let names ← Run.namesOf r.frame parameters r.body (Expr.readsOf r.defaults)
  let inner ← Run.enter { r.frame with isGuarded := false, collecting := 0 } names
  for (p, v) in specials do Run.assign inner p v
  for (p, v) in b.values do
    if let some v := v then Run.assign inner p v
  let required := r.parameters.length - r.defaults.length
  for ((p, v), i) in b.values.zipIdx do
    if v.isNone then
      match if i < required then none else r.defaults[i - required]? with
      | some e => Run.assign inner p (← ev.expr inner e)
      | none => Run.assign inner p .undefined
  Run.made f (← Run.capture (ev.body inner r.body))

/-! ### Other functions -/

/-- Call a global function. -/
def callGlobal (cb : Callbacks) (g : GlobalFunction) (args : List Value) (named : List (String × Value)) :
    Run Value := do
  match g with
  | .range =>
    let bounds ← (← Run.ofExcept (Arguments.positional 1 3 args named)).mapM fun v =>
      Run.ofExcept (Value.theInt v)
    match bounds with
    | [stop] => return .range 0 stop 1
    | [start, stop] => return .range start stop 1
    | [start, stop, step] =>
      if step = 0 then throw (.foreign .wrongValue)
      return .range start stop step
    | _ => Run.wrongType
  | .dict => Run.newDict (Collection.merged [] (← Collection.argumentEntries cb args named))
  | .namespaceOf =>
    let entries := Collection.merged [] (← Collection.argumentEntries cb args named)
    let fields := entries.filterMap fun (k, v) => k.asText?.map fun k => (k, v)
    return .object (.record (← Run.alloc (.record (.ofEntries fields))))
  | .cycler =>
    if args.isEmpty || !named.isEmpty then Run.wrongType
    return .object (.ticker (← Run.alloc (.cycler args 0)))
  | .joiner =>
    match ← Run.ofExcept (Arguments.bind ["sep"] args named) with
    | [separator] => return .object (.ticker (← Run.alloc (.joiner (separator.getD (.str ", ")) false)))
    | _ => Run.wrongType
  | .lipsum => throw (.foreign .unexpected)

/-- Use a cycler or a joiner. -/
def callTicker (i : Nat) (name : String) : Run Value := do
  match ← Run.cell i, name with
  | .cycler items position, "next" =>
    Run.setCell i (.cycler items ((position + 1) % items.length))
    return items[position]?.getD .undefined
  | .cycler items _, "reset" =>
    Run.setCell i (.cycler items 0)
    return .none
  | .joiner separator isUsed, "" =>
    Run.setCell i (.joiner separator true)
    return if isUsed then separator else .str ""
  | _, _ => Run.wrongType

/-- Call an operation of a value. -/
def callMethod (cb : Callbacks) (ev : Evaluator) (f : Frame) (self : Value) (name : String)
    (args : List Value) (named : List (String × Value)) : Run Value := do
  match self with
  | .object (.loop i) =>
    if !named.isEmpty then Run.wrongType
    if name = "cycle" then Loop.cycle i args else Loop.changed i args
  | .object (.ticker i) =>
    let _ ← Run.ofExcept (Arguments.positional 0 0 args named)
    callTicker i name
  | .object (.global .dict) => Collection.fromKeys cb args named
  | .ref i _ => Collection.call cb (fun v args => ev.call f v args []) i self name args named
  | self => Collection.callPlain cb self name args named

/-- Call a value. -/
def callValue (lib : Library) (ev : Evaluator) (f : Frame) (function : Value) (args : List Value)
    (named : List (String × Value)) : Run Value := do
  let noArguments : Run Unit := do
    let _ ← Run.ofExcept (Arguments.positional 0 0 args named)
  match function with
  | .undefined => Run.missing
  | .object (.helper h) =>
    Run.ofPlain (Helper.call h (← Run.wholeAll args) (← Run.wholeNamed named))
  | .object (.global g) => do callGlobal (← callbacks lib ev f) g args named
  | .object (.routine i) =>
    match ← Run.cell i with
    | .routine r => callRoutine ev f r args named
    | _ => Run.wrongType
  | .object (.loop i) =>
    let l ← Run.loop i
    match l.form.isRecursive, ← Run.ofExcept (Arguments.bind ["iterable"] args named) with
    | true, [some v] => Run.made f (← Run.capture (runLoop ev l.form v (l.depth + 1)))
    | _, _ => Run.wrongType
  | .object (.ticker i) =>
    noArguments
    callTicker i ""
  | .object (.block context name depth) =>
    noArguments
    let text ← Run.capture (runBlock ev context name depth)
    return if (← Run.context context).escapes then .markup text else .str text
  | .method self name => do callMethod (← callbacks lib ev f) ev f self name args named
  | _ => Run.wrongType

/-- The result of a filter: a helper, or else one of the others. -/
def applyFilter (lib : Library) (ev : Evaluator) (f : Frame) (name : String) (v : Value) (args : List Value)
    (named : List (String × Value)) : Run Value := do
  match lib.helpers.get? name with
  | some h => Run.ofPlain (Helper.call h (← Run.wholeAll (v :: args)) (← Run.wholeNamed named))
  | none => Filter.apply (← callbacks lib ev f) name v args named

end Stencil.Template.Evaluator
