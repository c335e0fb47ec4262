import Stencil.Shell.Program.Basic
import Stencil.Shell.Regular.Reader

namespace Stencil.Shell.Program

/-!
# Calculating

An expression is given by its parts as arguments.

* `Formula` — computations that read an expression;
* `expr` — the program.
-/

open Exec

/-- Computations that read an expression: what is left of the arguments, and the last one that was read. -/
abbrev Formula := StateT (List Raw × Raw) Exec

namespace Formula

/-- The arguments that an operator stands for. -/
def comparisons : List (String × (Ordering → Bool)) :=
  [("<", (· = .lt)), ("<=", (· != .gt)), ("=", (· = .eq)), ("==", (· = .eq)), ("!=", (· != .eq)),
   (">=", (· != .lt)), (">", (· = .gt))]

/-- Complain, and end the program. -/
def refuse {α : Type} (reason : Raw) : Formula α :=
  liftM (Program.refuse "expr" reason 2 : Exec α)

/-- Read one of some arguments. -/
def accept (names : List String) : Formula (Option String) := do
  match ← get with
  | (a :: rest, _) =>
    if names.contains (.ofList a) then
      set (rest, a)
      return some (.ofList a)
    return none
  | ([], _) => return none

/-- Read an argument. -/
def next : Formula Raw := do
  match ← get with
  | (a :: rest, _) =>
    set (rest, a)
    return a
  | ([], last) => refuse ("syntax error: missing argument after ".toList ++ shown last)

/-- The whole number that a value is. -/
def whole? (r : Raw) : Option Int :=
  match r with
  | '-' :: digits => (Raw.nat? digits).map fun n => -(n : Int)
  | digits => (Raw.nat? digits).map Int.ofNat

/-- Whether a value counts as nothing. -/
def isNothing (r : Raw) : Bool :=
  r.isEmpty || whole? r = some 0 && r.all fun c => c = '0' || c = '-'

/-- The part of a text that an expression describes from its start on: what its first group describes, or else how
long it is. -/
def described (text pattern : Raw) : Formula Raw := do
  match Regular.read {} (Raw.letters pattern) with
  | .error f => refuse f.message.toList
  | .ok r =>
    let letters := Raw.letters text
    let found := (r.partsAt { letters := letters.toArray } 0).head?
    if 0 < r.groupCount then
      match found.bind fun part => part.groups.lookup 1 with
      | some (i, j) => return Raw.ofLetters ((letters.drop i).take (j - i))
      | none => return []
    else return Raw.ofNat ((found.map fun part => part.stop).getD 0)

/-- Apply an operator to numbers; without `counts` nothing is computed. -/
def compute (counts : Bool) (op : String) (a b : Raw) : Formula Raw := do
  if !counts then return []
  match whole? a, whole? b with
  | some x, some y =>
    if (op = "/" || op = "%") && y = 0 then refuse "division by zero".toList
    return Raw.ofInt (match op with
      | "+" => x + y
      | "-" => x - y
      | "*" => x * y
      | "/" => x.tdiv y
      | _ => x.tmod y)
  | _, _ => refuse "non-integer argument".toList

mutual

/-- The value of an expression; `level` is the weakest operator that it may have, and a number bounds its
length. -/
def value : Nat → Bool → Nat → Formula Raw
  | 0, _, _ => refuse "syntax error".toList
  | limit + 1, counts, level => do
    if 5 < level then atom limit counts
    else
      let first ← value limit counts (level + 1)
      continued limit counts level first

/-- What an expression of some level comes to after its first part. -/
def continued : Nat → Bool → Nat → Raw → Formula Raw
  | 0, _, _, first => return first
  | limit + 1, counts, level, first => do
    match level with
    | 0 =>
      match ← accept ["|"] with
      | some _ =>
        let second ← value limit (counts && isNothing first) 1
        continued limit counts 0 (if !isNothing first then first else if isNothing second then ['0'] else second)
      | none => return first
    | 1 =>
      match ← accept ["&"] with
      | some _ =>
        let second ← value limit (counts && !isNothing first) 2
        continued limit counts 1 (if isNothing first || isNothing second then ['0'] else first)
      | none => return first
    | 2 =>
      match ← accept (comparisons.map (·.1)) with
      | some op =>
        let second ← value limit counts 3
        let order := match whole? first, whole? second with
          | some x, some y => compare x y
          | _, _ => compare first second
        let holds := ((comparisons.lookup op).map fun test => test order).getD false
        continued limit counts 2 (if holds then ['1'] else ['0'])
      | none => return first
    | 3 =>
      match ← accept ["+", "-"] with
      | some op => continued limit counts 3 (← compute counts op first (← value limit counts 4))
      | none => return first
    | 4 =>
      match ← accept ["*", "/", "%"] with
      | some op => continued limit counts 4 (← compute counts op first (← value limit counts 5))
      | none => return first
    | _ =>
      match ← accept [":"] with
      | some _ =>
        let pattern ← value limit counts 6
        let r ← if counts then described first pattern else pure []
        continued limit counts 5 r
      | none => return first

/-- The value of an expression without operators. -/
def atom : Nat → Bool → Formula Raw
  | 0, _ => refuse "syntax error".toList
  | limit + 1, counts => do
    let a ← next
    match String.ofList a with
    | "(" =>
      let r ← value limit counts 0
      match ← accept [")"] with
      | some _ => return r
      | none =>
        match ← get with
        | ([], last) => refuse ("syntax error: expecting ')' after ".toList ++ shown last)
        | (b :: _, _) => refuse ("syntax error: expecting ')' instead of ".toList ++ shown b)
    | ")" => refuse "syntax error: unexpected ')'".toList
    | "+" => next
    | "length" =>
      let text ← value limit counts 6
      return Raw.ofNat (Raw.letters text).length
    | "match" =>
      let text ← value limit counts 6
      let pattern ← value limit counts 6
      if counts then described text pattern else return []
    | "index" =>
      let text ← value limit counts 6
      let letters := Raw.letters (← value limit counts 6)
      match (Raw.letters text).findIdx? letters.contains with
      | some i => return Raw.ofNat (i + 1)
      | none => return ['0']
    | "substr" =>
      let text ← value limit counts 6
      let start ← value limit counts 6
      let size ← value limit counts 6
      match whole? start, whole? size with
      | some i, some n =>
        if i ≤ 0 || n ≤ 0 then return []
        return Raw.ofLetters (((Raw.letters text).drop (i.toNat - 1)).take n.toNat)
      | _, _ => return []
    | _ => return a

end

end Formula

/-- Write the value of an expression. -/
def expr : Program := fun _ args => do
  let args := match args with
    | ['-', '-'] :: rest => rest
    | args => args
  if args.isEmpty then
    complainAs "expr" "missing operand".toList
    complain "Try 'expr --help' for more information.".toList
    return 2
  let (r, rest, _) ← (Formula.value (10 * args.length + 10) true 0).run (args, [])
  match rest with
  | [] =>
    putLine r
    return if Formula.isNothing r then 1 else 0
  | a :: _ => refuse "expr" ("syntax error: unexpected argument ".toList ++ shown a) 2

end Stencil.Shell.Program
