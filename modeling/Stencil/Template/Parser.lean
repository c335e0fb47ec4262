import Stencil.Template.Syntax
import Stencil.Template.Token

namespace Stencil.Template

/-!
# Reading templates

* `Parse` — parsers over the tokens of a template;
* `Parse.expression` — conditional expressions over the operators by strength: `or`, `and`, `not`,
  comparisons, sums, `~`, products, powers, signs, postfixes, filters and tests;
* `Parse.template` — the body of a template.
-/

/-- Parsers over tokens. -/
abbrev Parse := StateT (List Token) (Except Defect)

namespace Parse

variable {α : Type}

/-- The template is malformed. -/
def fail : Parse α :=
  throw .malformed

/-- The next token. -/
def peek : Parse (Option Token) := do
  return (← get).head?

/-- The failure of a number with more digits than can be read, once it is reached. -/
def check (t : Option Token) : Parse (Option Token) :=
  if t == some .longInteger then throw (.foreign .wrongValue) else return t

/-- The token after the next. -/
def peekSecond : Parse (Option Token) := do
  check (← get).tail.head?

/-- Skip a token. -/
def advance : Parse Unit := do
  modify List.tail
  let _ ← check (← peek)

/-- How many tokens are left. -/
def remaining : Parse Nat := do
  return (← get).length

/-- Skip a token if it is the next. -/
def skip (t : Token) : Parse Bool := do
  if (← peek) == some t then
    advance
    return true
  return false

/-- Skip a token that must be there. -/
def expect (t : Token) : Parse Unit := do
  unless ← skip t do fail

/-- Skip a sign if it is the next token. -/
def skipSign (s : String) : Parse Bool :=
  skip (.sign s)

/-- Skip a word if it is the next token. -/
def skipWord (s : String) : Parse Bool :=
  skip (.name s)

/-- Whether the next token is a sign. -/
def atSign (s : String) : Parse Bool := do
  return (← peek) == some (.sign s)

/-- Whether the next token is one of several words. -/
def atWord (words : List String) : Parse Bool := do
  match ← peek with
  | some (.name s) => return words.contains s
  | _ => return false

/-- A name. -/
def anyName : Parse String := do
  match ← peek with
  | some (.name s) =>
    advance
    return s
  | _ => fail

/-- Parse as long as a parser of one more part says so; `fuel` bounds the number of parts. -/
def extend (more : α → Parse (Option α)) : Nat → α → Parse α
  | 0, a => return a
  | fuel + 1, a => do
    match ← more a with
    | some a => extend more fuel a
    | none => return a

/-- Parse as long as possible. -/
def extendAll (more : α → Parse (Option α)) (a : α) : Parse α := do
  extend more ((← remaining) + 1) a

/-- Items between the next token and a closing sign, with commas between them; a comma may follow the last
item if that is allowed. -/
def itemsUntil (close : String) (trailing : Bool) (one : Parse α) : Parse (List α) := do
  let more (items : List α) : Parse (Option (List α)) := do
    if ← atSign close then return none
    unless items.isEmpty do
      expect (.sign ",")
      if trailing && (← atSign close) then return none
    return some ((← one) :: items)
  let items ← extendAll more []
  expect (.sign close)
  return items.reverse

/-! ### Expressions -/

/-- The parser of nested expressions; the flag says whether an expression may have a condition. -/
abbrev Nested := Bool → Parse Expr

/-- The arguments of a call. -/
structure Arguments where
  args : List Expr := []
  names : List String := []
  named : List Expr := []
  spread : Expr := .absent
  spreadNamed : Expr := .absent
  deriving Inhabited

/-- Whether a part of an expression is left out. -/
def isAbsent : Expr → Bool
  | .absent => true
  | .unwritable => true
  | _ => false

/-- One more argument: positional before named ones, spread ones last. -/
def argument (nested : Nested) (a : Arguments) : Parse Arguments := do
  if ← skipSign "*" then
    unless isAbsent a.spread && isAbsent a.spreadNamed do fail
    return { a with spread := ← nested true }
  else if ← skipSign "**" then
    unless isAbsent a.spreadNamed do fail
    return { a with spreadNamed := ← nested true }
  else
    match ← peek, ← peekSecond with
    | some (.name key), some (.sign "=") =>
      unless isAbsent a.spreadNamed do fail
      advance
      advance
      let e ← nested true
      return { a with names := a.names ++ [key], named := a.named ++ [e] }
    | _, _ =>
      unless isAbsent a.spread && isAbsent a.spreadNamed && a.named.isEmpty do fail
      return { a with args := a.args ++ [← nested true] }

/-- The arguments between parentheses. -/
def arguments (nested : Nested) : Parse Arguments := do
  expect (.sign "(")
  let more (state : Bool × Arguments) : Parse (Option (Bool × Arguments)) := do
    let (needsComma, a) := state
    if ← atSign ")" then return none
    if needsComma then
      expect (.sign ",")
      if ← atSign ")" then return none
    return some (true, ← argument nested a)
  let (_, a) ← extendAll more (false, {})
  expect (.sign ")")
  return a

/-- Whether a list of expressions without parentheses ends here. -/
def atTupleEnd (endWords : List String) : Parse Bool := do
  match ← peek with
  | some .outputEnd | some .statementEnd | some (.sign ")") => return true
  | _ => atWord endWords

/-- One expression, or several with commas between them. -/
def tupleOf (one : Parse Expr) (endWords : List String) (inParentheses : Bool) : Parse Expr := do
  -- The state holds the items so far, and whether the last was followed by a comma.
  let more (state : List Expr × Bool × Bool) : Parse (Option (List Expr × Bool × Bool)) := do
    let (items, isTuple, done) := state
    if done || (← atTupleEnd endWords) then return none
    let e ← one
    let comma ← skipSign ","
    return some (e :: items, isTuple || comma, !comma)
  let (items, isTuple, _) ← extendAll more ([], false, false)
  match items with
  | [e] => return if isTuple then .tuple [e] else e
  | [] => if inParentheses then return .tuple [] else fail
  | items => return .tuple items.reverse

/-- A list of entries of a mapping. -/
def entry (nested : Nested) : Parse (Expr × Expr) := do
  let key ← nested true
  expect (.sign ":")
  return (key, ← nested true)

/-- Texts that stand next to each other are one. -/
def moreText (s : String) : Parse (Option String) := do
  match ← peek with
  | some (.text t) =>
    advance
    return some (s ++ t)
  | _ => return none

/-- The constant that a word stands for. -/
def constant? (word : String) : Option Value :=
  if word = "true" || word = "True" then some (.bool true)
  else if word = "false" || word = "False" then some (.bool false)
  else if word = "none" || word = "None" then some .none
  else none

/-- A name, a literal or an expression between brackets. -/
def primary (nested : Nested) : Parse Expr := do
  match ← peek with
  | some (.name s) =>
    advance
    match constant? s with
    | some v => return .literal v
    | none => return .name s
  | some (.text s) =>
    advance
    return .literal (.str (← extendAll moreText s))
  | some (.integer n) =>
    advance
    return .literal (.int n)
  | some (.float x) =>
    advance
    return .literal (.float x)
  | some (.sign "(") =>
    advance
    let e ← tupleOf (nested true) [] true
    expect (.sign ")")
    return e
  | some (.sign "[") =>
    advance
    return .list (← itemsUntil "]" true (nested true))
  | some (.sign "\x7b") =>
    advance
    let entries ← itemsUntil "\x7d" true (entry nested)
    return .dict (entries.map (·.1)) (entries.map (·.2))
  | _ => fail

/-- An index, or a range of positions. -/
def subscript (nested : Nested) : Parse Expr := do
  let bound : Parse Expr := do
    if (← atSign ":") || (← atSign "]") || (← atSign ",") then return .absent
    nested true
  let start ← if ← atSign ":" then pure Expr.absent else nested true
  if ← skipSign ":" then
    let stop ← bound
    if ← skipSign ":" then
      let step ← if (← atSign "]") || (← atSign ",") then pure Expr.absent else nested true
      return .slice start stop step
    return .slice start stop .absent
  return start

/-- A call of an expression. -/
def callOf (nested : Nested) (e : Expr) : Parse Expr := do
  let a ← arguments nested
  return .call e a.args a.names a.named a.spread a.spreadNamed

/-- One more attribute, index or call. -/
def postfixOp (nested : Nested) (e : Expr) : Parse (Option Expr) := do
  if ← skipSign "." then
    match ← peek with
    | some (.name s) =>
      advance
      return some (.attribute e s)
    | some (.integer n) =>
      advance
      return some (.item e (.literal (.int n)))
    | _ => fail
  else if ← skipSign "[" then
    match ← itemsUntil "]" false (subscript nested) with
    | [index] => return some (.item e index)
    | indexes => return some (.item e (.tuple indexes))
  else if ← atSign "(" then
    return some (← callOf nested e)
  else return none

/-- Names with dots between them. -/
def dottedName : Parse String := do
  let more (s : String) : Parse (Option String) := do
    if ← skipSign "." then return some (s ++ "." ++ (← anyName))
    return none
  extendAll more (← anyName)

/-- A filter with its arguments. -/
def filterOf (nested : Nested) (e : Expr) : Parse Expr := do
  let name ← dottedName
  let a ← if ← atSign "(" then arguments nested else pure {}
  return .filter e name a.args a.names a.named a.spread a.spreadNamed

/-- Any number of filters after bars. -/
def filters (nested : Nested) (e : Expr) : Parse Expr :=
  extendAll (fun e => do
    if ← skipSign "|" then return some (← filterOf nested e)
    return none) e

/-- Whether an argument without parentheses can start here. -/
def atTestArgument : Parse Bool := do
  match ← peek with
  | some (.name s) => return !(["else", "or", "and"].contains s)
  | some (.text _) | some (.integer _) | some (.float _) => return true
  | some (.sign s) => return s == "(" || s == "[" || s == "\x7b"
  | _ => return false

/-- A test with its arguments, after the word `is`. -/
def testOf (nested : Nested) (e : Expr) : Parse Expr := do
  let negated ← skipWord "not"
  let name ← dottedName
  let a ←
    if ← atSign "(" then arguments nested
    else if ← atTestArgument then
      if ← atWord ["is"] then fail
      let first ← primary nested
      pure { args := [← extendAll (postfixOp nested) first] }
    else pure {}
  let test := Expr.test e name a.args a.names a.named a.spread a.spreadNamed
  return if negated then .negation test else test

/-- One more filter, test or call. -/
def filterOrTest (nested : Nested) (e : Expr) : Parse (Option Expr) := do
  if ← skipSign "|" then return some (← filterOf nested e)
  else if ← skipWord "is" then return some (← testOf nested e)
  else if ← atSign "(" then return some (← callOf nested e)
  else return none

/-- Signs before an operand, the last one first. -/
def moreSigns (ops : List UnaryOp) : Parse (Option (List UnaryOp)) := do
  if ← skipSign "-" then return some (.negate :: ops)
  else if ← skipSign "+" then return some (.plus :: ops)
  else return none

/-- An operand with its signs, postfixes, filters and tests. -/
def operand (nested : Nested) : Parse Expr := do
  let ops ← extendAll moreSigns []
  let e ← extendAll (postfixOp nested) (← primary nested)
  let e := ops.foldl (fun e op => .unary op e) e
  extendAll (filterOrTest nested) e

/-- Operands with operators of one strength between them, grouped from the left. -/
def leftGrouped (ops : List (String × BinaryOp)) (one : Parse Expr) : Parse Expr := do
  let more (e : Expr) : Parse (Option Expr) := do
    match ← peek with
    | some (.sign s) =>
      match ops.lookup s with
      | some op =>
        advance
        return some (.binary op e (← one))
      | none => return none
    | _ => return none
  extendAll more (← one)

/-- Powers. -/
def power (nested : Nested) : Parse Expr :=
  leftGrouped [("**", .pow)] (operand nested)

/-- Products. -/
def product (nested : Nested) : Parse Expr :=
  leftGrouped [("*", .mul), ("/", .div), ("//", .floorDiv), ("%", .mod)] (power nested)

/-- Texts put together. -/
def concatenation (nested : Nested) : Parse Expr := do
  let more (items : List Expr) : Parse (Option (List Expr)) := do
    if ← skipSign "~" then return some ((← product nested) :: items)
    return none
  match ← extendAll more [← product nested] with
  | [e] => return e
  | items => return .concat .off items.reverse

/-- Sums. -/
def sum (nested : Nested) : Parse Expr :=
  leftGrouped [("+", .add), ("-", .sub)] (concatenation nested)

/-- The signs that compare. -/
def compareSigns : List (String × CompareOp) :=
  [("==", .eq), ("!=", .ne), ("<", .lt), ("<=", .le), (">", .gt), (">=", .ge)]

/-- A comparison operator, if there is one. -/
def compareOp : Parse (Option CompareOp) := do
  match ← peek with
  | some (.sign s) =>
    match compareSigns.lookup s with
    | some op =>
      advance
      return some op
    | none => return none
  | some (.name "in") =>
    advance
    return some .isIn
  | some (.name "not") =>
    if (← peekSecond) == some (.name "in") then
      advance
      advance
      return some .notIn
    return none
  | _ => return none

/-- A chain of comparisons. -/
def comparison (nested : Nested) : Parse Expr := do
  let first ← sum nested
  let more (state : List CompareOp × List Expr) : Parse (Option (List CompareOp × List Expr)) := do
    match ← compareOp with
    | some op => return some (state.1 ++ [op], state.2 ++ [← sum nested])
    | none => return none
  match ← extendAll more ([], []) with
  | ([], _) => return first
  | (ops, operands) => return .compare first ops operands

/-- A negation. -/
def negation (nested : Nested) : Parse Expr := do
  let count ← extendAll (fun n : Nat => do
    if ← skipWord "not" then return some (n + 1)
    return none) 0
  let e ← comparison nested
  return (List.range count).foldl (fun e _ => .negation e) e

/-- A conjunction. -/
def conjunction (nested : Nested) : Parse Expr := do
  extendAll (fun e => do
    if ← skipWord "and" then return some (.both e (← negation nested))
    return none) (← negation nested)

/-- A disjunction. -/
def disjunction (nested : Nested) : Parse Expr := do
  extendAll (fun e => do
    if ← skipWord "or" then return some (.either e (← conjunction nested))
    return none) (← conjunction nested)

/-- An expression with a condition after it. -/
def conditional (nested : Nested) : Parse Expr := do
  extendAll (fun e => do
    if ← skipWord "if" then
      let condition ← disjunction nested
      let no ← if ← skipWord "else" then nested true else pure Expr.absent
      return some (.choice condition e no)
    return none) (← disjunction nested)

/-- How deep expressions may be nested. -/
def maxNested : Nat := 74

/-- An expression, possibly with a condition; `depth` bounds the nesting. -/
def expressionIn : Nat → Nested
  | 0, _ => throw (.foreign .tooDeep)
  | depth + 1, true => conditional (expressionIn depth)
  | depth + 1, false => disjunction (expressionIn depth)

/-- An expression, possibly with a condition. -/
def expression (withCondition : Bool := true) : Parse Expr := do
  expressionIn maxNested withCondition

/-- One expression, or several with commas between them. -/
def expressions (withCondition : Bool := true) (endWords : List String := []) : Parse Expr :=
  tupleOf (expression withCondition) endWords false

/-! ### Targets -/

mutual

/-- The target that an expression denotes; `allowsFields` says whether it may be a field. -/
def target? (allowsFields : Bool) : Expr → Option Target
  | .name s => some (.name s)
  | .attribute (.name record) field => if allowsFields then some (.field record field) else none
  | .tuple items => (targets? allowsFields items).map .tuple
  | _ => none

/-- The targets that expressions denote. -/
def targets? (allowsFields : Bool) : List Expr → Option (List Target)
  | [] => some []
  | e :: es => do
    let t ← target? allowsFields e
    return t :: (← targets? allowsFields es)

end

/-- A part of a target: as an expression, without postfixes except for a field. -/
def targetPart (allowsFields : Bool) : Parse Expr := do
  let e ← primary (fun withCondition => expression withCondition)
  match e with
  | .name _ =>
    if allowsFields && (← skipSign ".") then return .attribute e (← anyName)
    return e
  | _ => return e

/-- A target. -/
def target (allowsFields : Bool) (endWords : List String := []) : Parse Target := do
  let e ← tupleOf (targetPart allowsFields) endWords false
  match target? allowsFields e with
  | some t => return t
  | none => fail

/-- A name that can be assigned. -/
def targetName : Parse String := do
  let s ← anyName
  if (constant? s).isSome then fail
  return s

/-! ### Statements -/

/-- The parser of a body up to one of several words, which is left for the caller. -/
abbrev Body := List String → Parse (List Stmt)

/-- A body after the tag that opens it. -/
def bodyUntil (body : Body) (endWords : List String) : Parse (List Stmt) := do
  let _ ← skipSign ":"
  expect .statementEnd
  body endWords

/-- A body and the word that closes it. -/
def closedBody (body : Body) (endWord : String) : Parse (List Stmt) := do
  let b ← bodyUntil body [endWord]
  advance
  return b

/-- An assignment of a value, or of the text of a body. -/
def assignment (body : Body) : Parse Stmt := do
  let t ← target true
  if ← skipSign "=" then return .assign t (← expressions)
  let filter ← filters (fun c => expression c) .captured
  return .capture t filter (← closedBody body "endset")

/-- A loop. -/
def forLoop (body : Body) : Parse Stmt := do
  let t ← target false ["in"]
  unless ← skipWord "in" do fail
  let items ← expressions false ["recursive"]
  let condition ← if ← skipWord "if" then expression else pure Expr.absent
  let isRecursive ← skipWord "recursive"
  let main ← bodyUntil body ["endfor", "else"]
  if ← skipWord "endfor" then return .loop t items condition isRecursive main []
  advance
  return .loop t items condition isRecursive main (← closedBody body "endfor")

/-- The rest of a choice after its first word; `fuel` bounds the number of branches. -/
def choiceOf (body : Body) : Nat → Parse Stmt
  | 0 => fail
  | fuel + 1 => do
    let condition ← expressions false
    let yes ← bodyUntil body ["elif", "else", "endif"]
    if ← skipWord "elif" then return .choice condition yes [← choiceOf body fuel]
    else if ← skipWord "else" then return .choice condition yes (← closedBody body "endif")
    else
      advance
      return .choice condition yes []

/-- Local names with their values, and the body that sees them. -/
def localNames (body : Body) : Parse Stmt := do
  let more (pairs : List (Target × Expr)) : Parse (Option (List (Target × Expr))) := do
    if (← peek) == some .statementEnd then return none
    unless pairs.isEmpty do expect (.sign ",")
    let t ← target false
    expect (.sign "=")
    return some ((t, ← expression) :: pairs)
  let pairs := (← extendAll more []).reverse
  return .locals (pairs.map (·.1)) (pairs.map (·.2)) (← closedBody body "endwith")

/-- Whether a part of a body is blank text. -/
def isBlankData : Stmt → Bool
  | .data s => !s.isEmpty && s.toList.all Text.isBlank
  | _ => false

/-- A block. -/
def blockOf (body : Body) : Parse Stmt := do
  let name ← anyName
  let isScoped ← skipWord "scoped"
  let isRequired ← skipWord "required"
  if ← atSign "-" then fail
  let b ← closedBody body "endblock"
  if isRequired && !b.all isBlankData then fail
  let _ ← skipWord name
  return .block name isScoped isRequired b

/-- Whether the words on the context stand here, and what they say. -/
def contextWords : Parse (Option Bool) := do
  if (← atWord ["with", "without"]) && (← peekSecond) == some (.name "context") then
    let word ← anyName
    advance
    return some (word == "with")
  return none

/-- The inclusion of a template. -/
def inclusion : Parse Stmt := do
  let e ← expression
  let mayBeMissing ←
    if (← atWord ["ignore"]) && (← peekSecond) == some (.name "missing") then do
      advance
      advance
      pure true
    else pure false
  return .included e mayBeMissing ((← contextWords).getD true)

/-- The import of a template under a name. -/
def importAs : Parse Stmt := do
  let e ← expression
  unless ← skipWord "as" do fail
  let name ← targetName
  return .imported e name ((← contextWords).getD false)

/-- The import of names from a template. -/
def importFrom : Parse Stmt := do
  let e ← expression
  unless ← skipWord "import" do fail
  -- The state holds the names so far, the words on the context, and whether the list has ended.
  let more (state : List (String × String) × Option Bool × Bool) :
      Parse (Option (List (String × String) × Option Bool × Bool)) := do
    let (names, _, done) := state
    if done then return none
    unless names.isEmpty do expect (.sign ",")
    unless (← peek) matches some (.name _) do fail
    match ← contextWords with
    | some c => return some (names, some c, true)
    | none =>
      let name ← targetName
      if name.startsWith "_" then fail
      let alias_ ← if ← skipWord "as" then targetName else pure name
      let names := names ++ [(name, alias_)]
      match ← contextWords with
      | some c => return some (names, some c, true)
      | none => return some (names, none, !(← atSign ","))
  let (names, context, _) ← extendAll more ([], none, false)
  return .importedNames e names (context.getD false)

/-- The parameters of a template function with their defaults, which belong to the last ones. -/
def signature : Parse (List String × List Expr) := do
  expect (.sign "(")
  let one (state : List String × List Expr) : Parse (Option (List String × List Expr)) := do
    let (names, defaults) := state
    if ← atSign ")" then return none
    unless names.isEmpty do expect (.sign ",")
    let name ← targetName
    if ← skipSign "=" then return some (names ++ [name], defaults ++ [← expression])
    unless defaults.isEmpty do fail
    return some (names ++ [name], defaults)
  let s ← extendAll one ([], [])
  expect (.sign ")")
  return s

/-- A template function. -/
def routineOf (body : Body) : Parse Stmt := do
  let name ← targetName
  let (parameters, defaults) ← signature
  return .routine name parameters defaults (← closedBody body "endmacro")

/-- A call with a body. -/
def callBody (body : Body) : Parse Stmt := do
  let (parameters, defaults) ← if ← atSign "(" then signature else pure ([], [])
  let e ← expression
  unless e matches .call .. do fail
  return .callWith parameters defaults e (← closedBody body "endcall")

/-- A filtered body. -/
def filterBody (body : Body) : Parse Stmt := do
  let nested : Nested := fun c => expression c
  let first ← filterOf nested .captured
  let filter ← filters nested first
  return .filtered filter (← closedBody body "endfilter")

/-- Outputs in a statement. -/
def outputs : Parse (List Stmt) := do
  let more (es : List Stmt) : Parse (Option (List Stmt)) := do
    if (← peek) == some .statementEnd then return none
    unless es.isEmpty do expect (.sign ",")
    return some (.output .off (← expression) :: es)
  return (← extendAll more []).reverse

/-- A statement, from its first word on. -/
def statement (body : Body) : Parse (List Stmt) := do
  match ← anyName with
  | "set" => return [← assignment body]
  | "for" => return [← forLoop body]
  | "if" => return [← choiceOf body ((← remaining) + 1)]
  | "with" => return [← localNames body]
  | "autoescape" =>
    let enabled ← expression
    return [.escaped enabled (← closedBody body "endautoescape")]
  | "block" => return [← blockOf body]
  | "extends" => return [.parent (← expression)]
  | "include" => return [← inclusion]
  | "import" => return [← importAs]
  | "from" => return [← importFrom]
  | "macro" => return [← routineOf body]
  | "call" => return [← callBody body]
  | "filter" => return [← filterBody body]
  | "print" => outputs
  | _ => fail

/-- The parts of a body up to one of several words, or up to the end of the template if there are none;
`fuel` bounds the number of parts. -/
def parts (nested : Body) (endWords : List String) : Nat → Parse (List Stmt)
  | 0 => fail
  | fuel + 1 => do
    match ← peek with
    | none => if endWords.isEmpty then return [] else fail
    | some (.data s) =>
      advance
      return .data s :: (← parts nested endWords fuel)
    | some .outputStart =>
      advance
      let e ← expressions
      expect .outputEnd
      return .output .off e :: (← parts nested endWords fuel)
    | some .statementStart =>
      advance
      if ← atWord endWords then return []
      let s ← statement nested
      expect .statementEnd
      return s ++ (← parts nested endWords fuel)
    | some _ => fail

/-- A body; `depth` bounds the nesting. -/
def bodyIn : Nat → Body
  | 0, _ => fail
  | depth + 1, endWords => do parts (bodyIn depth) endWords ((← remaining) + 1)

/-- A whole template. -/
def template : Parse (List Stmt) := do
  bodyIn ((← remaining) + 1) []

end Parse

/-- The body of the template with a source. -/
def parse (source : List Char) : Except Defect (List Stmt) := do
  let tokens ← Token.scan source
  let (body, _) ← Parse.template.run tokens
  return body

end Stencil.Template
