import Stencil.Shell.Arithmetic
import Stencil.Shell.Builtin.Basic

namespace Stencil.Shell.Builtin

/-!
# Conditions

Conditions look at texts, numbers and files. They are joined by operators; of a few arguments, those that could be
operators are read as texts where that makes sense of them.

* `Condition` — a place among the arguments;
* `condition` — whether the arguments are a condition that holds.
-/

open Exec

namespace Condition

/-- What kind of operator an argument is. -/
inductive Kind where
  | unary
  | binary
  | negation
  | conjunction
  | disjunction
  | opening
  | closing
  deriving Repr, BEq, DecidableEq, Inhabited

/-- The kind of an operator. -/
def kind? (r : Raw) : Option Kind :=
  let s := String.ofList r
  if ["-r", "-w", "-x", "-e", "-f", "-d", "-c", "-b", "-p", "-u", "-g", "-k", "-s", "-t", "-z", "-n", "-h", "-O",
      "-G", "-L", "-S"].contains s then some .unary
  else if ["=", "!=", "<", ">", "-eq", "-ne", "-ge", "-gt", "-le", "-lt", "-nt", "-ot", "-ef"].contains s then
    some .binary
  else match s with
    | "!" => some .negation
    | "-a" => some .conjunction
    | "-o" => some .disjunction
    | "(" => some .opening
    | ")" => some .closing
    | _ => none

/-- The arguments and the place of the one that is looked at. -/
structure Place where
  args : Array Raw
  at_ : Nat := 0
  deriving Inhabited

/-- Computations that move along the arguments. -/
abbrev Walk := StateT Place Exec

/-- The argument some places further on. -/
def look (distance : Nat) : Walk (Option Raw) := do
  let p ← get
  return p.args[p.at_ + distance]?

/-- Move on by some places. -/
def move (distance : Nat) : Walk Unit :=
  modify fun p => { p with at_ := p.at_ + distance }

/-- What an argument is: nothing behind the last one, an operator, or an operand. -/
inductive Reading where
  | finish
  | operator (k : Kind)
  | operand
  deriving Repr, BEq, DecidableEq, Inhabited

/-- Whether the operator before one argument must be an operand, because of what follows. -/
def isOperand (distance : Nat) : Walk Bool := do
  match ← look (distance + 1), ← look (distance + 2) with
  | none, _ => return true
  | _, none => return false
  | some r, _ => return kind? r == some .binary

/-- How the argument some places further on is read. -/
def reading (distance : Nat) : Walk Reading := do
  match ← look distance with
  | none => return .finish
  | some r =>
    match kind? r with
    | none => return .operand
    | some k =>
      if k = .unary then
        if ← isOperand distance then return .operand
      if k = .opening && (← look (distance + 1)).isNone then return .operand
      return .operator k

/-- Complain about the arguments. -/
def wrong {α : Type} (about : Raw) (reason : String) : Walk α :=
  liftM (fail (if about.isEmpty then reason.toList else about ++ ": ".toList ++ reason.toList) : Exec α)

/-- The number that an operand stands for. -/
def numberOf (r : Raw) : Walk Int := do
  match Arithmetic.readNumber? false r with
  | some n => return n
  | none => liftM (illegalNumber r : Exec Int)

/-- Whether a condition on one operand holds. -/
def unary (op : Raw) (r : Raw) : Exec Bool := do
  let found ← if isNowhere r then pure (Except.ok (Entry.file .empty)) else entry r
  match String.ofList op with
  | "-z" => return r.isEmpty
  | "-n" => return !r.isEmpty
  | "-t" =>
    let _ ← number r
    return false
  | "-d" => return (found matches .ok .directory)
  | "-f" => return (found matches .ok (.file _)) && !isNowhere r
  | "-s" =>
    match found with
    | .ok (.file b) => return b.size > 0
    | .ok .directory => return true
    | .error _ => return false
  | "-x" =>
    match found, ← locate r with
    | .ok .directory, _ => return true
    | .ok (.file _), .ok l => return (← get).machine.files.isRunnable l
    | _, _ => return false
  | "-c" => return isNowhere r
  | s => return ["-e", "-r", "-w", "-O", "-G"].contains s && found.isOk

/-- Whether a condition on two operands holds. -/
def binary (a op b : Raw) : Walk Bool := do
  let numbers (test : Int → Int → Bool) : Walk Bool := do
    let m ← numberOf a
    return test m (← numberOf b)
  match String.ofList op with
  | "=" => return a == b
  | "!=" => return a != b
  | "<" => return compare a b == .lt
  | ">" => return compare a b == .gt
  | "-eq" => numbers (· == ·)
  | "-ne" => numbers (· != ·)
  | "-ge" => numbers (· ≥ ·)
  | "-gt" => numbers (· > ·)
  | "-le" => numbers (· ≤ ·)
  | "-lt" => numbers (· < ·)
  | "-ef" =>
    match ← liftM (entry a : Exec _), ← liftM (locate a : Exec _), ← liftM (locate b : Exec _) with
    | .ok _, .ok l, .ok m => return l == m
    | _, _, _ => return false
  | _ => return false

mutual

/-- Conditions of which one must hold, from an argument that has been read. -/
def disjunction : Nat → Reading → Walk Bool
  | 0, _ => return false
  | n + 1, r => do
    let a ← conjunction n r
    if (← reading 1) != .operator .disjunction then return a
    move 2
    let b ← disjunction n (← reading 0)
    return a || b

/-- Conditions that must all hold. -/
def conjunction : Nat → Reading → Walk Bool
  | 0, _ => return false
  | n + 1, r => do
    let a ← negation n r
    if (← reading 1) != .operator .conjunction then return a
    move 2
    let b ← conjunction n (← reading 0)
    return a && b

/-- A condition that may be turned around. -/
def negation : Nat → Reading → Walk Bool
  | 0, _ => return false
  | n + 1, r => do
    if r != .operator .negation then primary n r
    else
      let next ← reading 1
      if next != .finish then move 1
      return !(← negation n next)

/-- A condition on operands, or one in brackets. -/
def primary : Nat → Reading → Walk Bool
  | 0, _ => return false
  | n + 1, r => do
    match r with
    | .finish => return false
    | .operator .opening =>
      move 1
      let next ← reading 0
      if next = .operator .closing then return false
      let value ← disjunction n next
      move 1
      if (← reading 0) != .operator .closing then wrong [] "closing paren expected"
      return value
    | .operator .unary =>
      let op := (← look 0).getD []
      move 1
      match ← look 0 with
      | none => wrong op "argument expected"
      | some operand => liftM (unary op operand : Exec Bool)
    | _ =>
      let a := (← look 0).getD []
      if (← reading 1) = .operator .binary then
        let op := (← look 1).getD []
        match ← look 2 with
        | none => wrong op "argument expected"
        | some b =>
          move 2
          binary a op b
      else return !a.isEmpty

end

/-- Whether arguments that need no special reading are a condition that holds. -/
def whole (args : List Raw) (isOperandFirst : Bool) : Exec Bool := do
  let act : Walk Bool := do
    let first ← if isOperandFirst then pure Reading.operand else reading 0
    let value ← disjunction (4 * args.length + 8) first
    match ← look 0, ← look 1 with
    | some r, some _ => wrong r "unexpected operator"
    | _, _ => return value
  return (← act.run { args := args.toArray }).1

/-- Whether arguments are a condition that holds; `limit` bounds how often they are turned around. -/
def ofArguments : Nat → List Raw → Exec Bool
  | 0, _ => return false
  | limit + 1, args => do
    match args with
    | [] => return false
    | [_, op, _] =>
      if kind? op = some .binary then whole args true
      else special limit args
    | [_, _, _, _] => special limit args
    | args => whole args false
where
  /-- Three or four arguments whose second one is no operator. -/
  special (limit : Nat) (args : List Raw) : Exec Bool := do
    if args.head? = some ['('] && args.getLast? = some [')'] then whole (args.tail.dropLast) false
    else if args.head? = some ['!'] then return !(← ofArguments limit args.tail)
    else whole args false

end Condition

/-- Whether the arguments are a condition that holds. -/
def condition (args : List Raw) : Exec Nat := do
  return if ← Condition.ofArguments (args.length + 1) args then 0 else 1

/-- Whether the arguments up to a closing bracket are a condition that holds. -/
def bracketed (args : List Raw) : Exec Nat := do
  if args.getLast? = some [']'] then condition args.dropLast else fail "missing ]".toList

end Stencil.Shell.Builtin
