import Stencil.Shell.Stream

namespace Stencil.Shell

/-!
# Arithmetic

Expressions have the operators, the strength and the wrapping 64-bit numbers that are usual for integers. A name
stands for the number that is the value of its variable.

* `Arithmetic.tokens` — the pieces of an expression;
* `Arithmetic.readNumber?` — a number with a mark for its base;
* `Arithmetic.evaluate` — the value of an expression.
-/

namespace Arithmetic

/-- The number of 64 bits that stands for a number. -/
def wrap (n : Int) : Int :=
  n.bmod (Nat.pow 2 64)

/-- The largest number. -/
def largest : Int := Int.pow 2 63 - 1

/-- The smallest number. -/
def smallest : Int := -Int.pow 2 63

/-! ### Numbers -/

/-- The value of a digit in a base. -/
def digit? (base : Nat) (c : Char) : Option Nat :=
  let n := if c.isDigit then c.toNat - 48
    else if c.isLower then c.toNat - 87
    else if c.isUpper then c.toNat - 55
    else base
  if n < base then some n else none

/-- The base of a number, and what follows the mark for it. -/
def baseOf (r : Raw) : Nat × Raw :=
  match r with
  | '0' :: x :: d :: rest =>
    if (x = 'x' || x = 'X') && (digit? 16 d).isSome then (16, d :: rest) else (8, r)
  | '0' :: _ => (8, r)
  | r => (10, r)

/-- The digits at the start of bytes as a number, and what follows them. -/
def readDigits (base : Nat) (r : Raw) : Nat × Raw :=
  let isDigit (c : Char) : Bool := (digit? base c).isSome
  ((r.takeWhile isDigit).foldl (fun n c => n * base + (digit? base c).getD 0) 0, r.dropWhile isDigit)

/-- The number at the start of bytes, and what follows it. -/
def readUnsigned (r : Raw) : Nat × Raw :=
  let (base, rest) := baseOf r
  readDigits base rest

/-- Whether a byte is a blank. -/
def isBlank (c : Char) : Bool :=
  c = ' ' || (9 ≤ c.toNat && c.toNat ≤ 13)

/-- The number that bytes stand for, blanks around it aside; no digits at all stand for zero. `bases` says
whether marks for bases are understood. -/
def readNumber? (bases : Bool) (r : Raw) : Option Int :=
  let r := r.dropWhile isBlank
  let (isNegative, unsigned) := match r with
    | '-' :: rest => (true, rest)
    | '+' :: rest => (false, rest)
    | r => (false, r)
  let (n, rest) := if bases then readUnsigned unsigned else readDigits 10 unsigned
  let hasDigits := rest.length < unsigned.length
  let rest := if hasDigits then rest else r
  let value : Int := if isNegative then -(n : Int) else n
  if !(rest.dropWhile isBlank).isEmpty then none
  else if !hasDigits && !bases then none
  else if value < smallest || largest < value then none
  else some value

/-! ### Tokens -/

/-- A piece of an expression. -/
inductive Token where
  | number (n : Int)
  | name (r : Raw)
  | sign (s : String)
  /-- a character that means nothing -/
  | bad
  | finish
  deriving Repr, BEq, DecidableEq, Inhabited

/-- The signs, longer ones first. -/
def signs : List String :=
  ["<<=", ">>=", "&&", "||", "==", "!=", "<=", ">=", "<<", ">>", "+=", "-=", "*=", "/=", "%=", "&=", "^=", "|=",
   "=", "<", ">", "+", "-", "*", "/", "%", "&", "^", "|", "!", "~", "(", ")", "?", ":"]

/-- The pieces of an expression; `limit` bounds how many there are. -/
def tokensUpTo : Nat → Raw → List Token
  | 0, _ => [.finish]
  | _, [] => [.finish]
  | limit + 1, c :: rest =>
    if c = ' ' || c = '\t' || c = '\n' then tokensUpTo limit rest
    else if c.isDigit then
      let (n, after) := readUnsigned (c :: rest)
      .number (min n largest) :: tokensUpTo limit after
    else if c.isAlpha || c = '_' then
      let isPart (d : Char) : Bool := d.isAlphanum || d = '_'
      .name (c :: rest.takeWhile isPart) :: tokensUpTo limit (rest.dropWhile isPart)
    else
      match signs.find? fun s => Text.startsWith s.toList (c :: rest) with
      | some s => .sign s :: tokensUpTo limit ((c :: rest).drop s.length)
      | none => [.bad, .finish]

/-- The pieces of an expression. -/
def tokens (r : Raw) : List Token :=
  tokensUpTo (r.length + 1) r

/-! ### Values -/

/-- Why an expression has no value. -/
inductive Problem where
  /-- something is missing where a piece stands -/
  | expecting (what : String)
  | zeroDivision
  /-- the value of a variable is no number -/
  | noNumber (value : Raw)
  | stop (s : Stop)
  deriving Repr, BEq, DecidableEq, Inhabited

/-- Computations on the pieces that are left. -/
abbrev Calculation := StateT (List Token) (ExceptT Problem (StateM Session))

/-- The next piece. -/
def peek : Calculation Token := do
  return (← get).head?.getD .finish

/-- Move past the next piece. -/
def next : Calculation Token := do
  let t ← peek
  modify fun ts => ts.tail
  return t

/-- The number that a variable holds. -/
def valueOf (name : Raw) : Calculation Int := do
  let value := (((← getThe Session).process.vars.get? (.ofList name)).bind (·.value)).getD []
  match readNumber? true value with
  | some n => return n
  | none => throw (.noNumber value)

/-- Set a variable to a number. -/
def assign (set : Raw → Raw → Exec Unit) (name : Raw) (n : Int) : Calculation Int := fun ts s =>
  match (set name (Raw.ofInt n)).run s with
  | (.ok (), s) => (.ok (n, ts), s)
  | (.error stop, s) => (.error (.stop stop), s)

/-- The strength of an operator between two numbers; a smaller number binds closer. -/
def strength? (t : Token) : Option (String × Nat) :=
  match t with
  | .sign s =>
    if ["*", "/", "%"].contains s then some (s, 0)
    else if ["+", "-"].contains s then some (s, 1)
    else if ["<<", ">>"].contains s then some (s, 2)
    else if ["<", "<=", ">", ">="].contains s then some (s, 3)
    else if ["==", "!="].contains s then some (s, 4)
    else if s = "&" then some (s, 5)
    else if s = "^" then some (s, 6)
    else if s = "|" then some (s, 7)
    else none
  | _ => none

/-- A truth value as a number. -/
def ofBool (b : Bool) : Int :=
  if b then 1 else 0

/-- The bits of a number. -/
def bits (n : Int) : BitVec 64 :=
  .ofInt 64 n

/-- The value of an operator. -/
def apply (op : String) (a b : Int) : Calculation Int := do
  match op with
  | "*" => return wrap (a * b)
  | "/" => if b = 0 then throw .zeroDivision else return wrap (a.tdiv b)
  | "%" => if b = 0 then throw .zeroDivision else return wrap (a.tmod b)
  | "+" => return wrap (a + b)
  | "-" => return wrap (a - b)
  | "<<" => return (bits a <<< (b.emod 64).toNat).toInt
  | ">>" => return ((bits a).sshiftRight (b.emod 64).toNat).toInt
  | "<" => return ofBool (a < b)
  | "<=" => return ofBool (a ≤ b)
  | ">" => return ofBool (a > b)
  | ">=" => return ofBool (a ≥ b)
  | "==" => return ofBool (a = b)
  | "!=" => return ofBool (a ≠ b)
  | "&" => return (bits a &&& bits b).toInt
  | "^" => return (bits a ^^^ bits b).toInt
  | _ => return (bits a ||| bits b).toInt

/-- The operators that change a variable, with the operator on its value. -/
def assignments : List (String × Option String) :=
  [("=", none), ("+=", some "+"), ("-=", some "-"), ("*=", some "*"), ("/=", some "/"), ("%=", some "%"),
   ("<<=", some "<<"), (">>=", some ">>"), ("&=", some "&"), ("^=", some "^"), ("|=", some "|")]

mutual

/-- An assignment or a choice. With `isIdle` nothing is looked up or changed. -/
def assignment (set : Raw → Raw → Exec Unit) : Nat → Bool → Calculation Int
  | 0, _ => throw (.expecting "expecting primary")
  | n + 1, isIdle => do
    match ← get with
    | .name name :: .sign s :: rest =>
      match assignments.lookup s with
      | some op =>
        MonadState.set rest
        let value ← assignment set n isIdle
        if isIdle then return value
        match op with
        | none => assign set name value
        | some op => assign set name (← apply op (← valueOf name) value)
      | none => condition set n isIdle
    | _ => condition set n isIdle

/-- A choice between two values. -/
def condition (set : Raw → Raw → Exec Unit) : Nat → Bool → Calculation Int
  | 0, _ => throw (.expecting "expecting primary")
  | n + 1, isIdle => do
    let a ← disjunction set n isIdle
    if (← peek) != .sign "?" then return a
    let _ ← next
    let b ← assignment set n (isIdle || a = 0)
    if (← peek) != .sign ":" then throw (.expecting "expecting ':'")
    let _ ← next
    let c ← condition set n (isIdle || a ≠ 0)
    return if a ≠ 0 then b else c

/-- Values of which one must be true. -/
def disjunction (set : Raw → Raw → Exec Unit) : Nat → Bool → Calculation Int
  | 0, _ => throw (.expecting "expecting primary")
  | n + 1, isIdle => do
    let a ← conjunction set n isIdle
    if (← peek) != .sign "||" then return a
    let _ ← next
    let b ← disjunction set n (isIdle || a ≠ 0)
    return ofBool (a ≠ 0 || b ≠ 0)

/-- Values that must all be true. -/
def conjunction (set : Raw → Raw → Exec Unit) : Nat → Bool → Calculation Int
  | 0, _ => throw (.expecting "expecting primary")
  | n + 1, isIdle => do
    let a ← operand set n isIdle
    let a ← match strength? (← peek) with
      | some (op, _) => operation set n isIdle a op 8
      | none => pure a
    if (← peek) != .sign "&&" then return a
    let _ ← next
    let b ← conjunction set n (isIdle || a = 0)
    return ofBool (a ≠ 0 && b ≠ 0)

/-- Operators that bind closer than a strength, after a value and in front of the first of them. -/
def operation (set : Raw → Raw → Exec Unit) : Nat → Bool → Int → String → Nat → Calculation Int
  | 0, _, _, _, _ => throw (.expecting "expecting primary")
  | n + 1, isIdle, a, op, limit => do
    let _ ← next
    let own := ((strength? (.sign op)).map (·.2)).getD 8
    let b ← operand set n isIdle
    let b ← match strength? (← peek) with
      | some (closer, s) => if s < own then operation set n isIdle b closer own else pure b
      | none => pure b
    let value ← if isIdle then pure b else apply op a b
    match strength? (← peek) with
    | some (following, s) => if s < limit then operation set n isIdle value following limit else return value
    | none => return value

/-- A number, a variable, an expression in brackets or a sign before one of these. -/
def operand (set : Raw → Raw → Exec Unit) : Nat → Bool → Calculation Int
  | 0, _ => throw (.expecting "expecting primary")
  | n + 1, isIdle => do
    match ← next with
    | .number k => return k
    | .name name => if isIdle then return 0 else valueOf name
    | .sign "(" =>
      let value ← assignment set n isIdle
      if (← peek) != .sign ")" then throw (.expecting "expecting ')'")
      let _ ← next
      return value
    | .sign "+" => operand set n isIdle
    | .sign "-" => return wrap (-(← operand set n isIdle))
    | .sign "!" => return ofBool ((← operand set n isIdle) = 0)
    | .sign "~" => return (~~~ bits (← operand set n isIdle)).toInt
    | _ => throw (.expecting "expecting primary")

end

/-- The value of an expression; `set` sets a variable. -/
def evaluate (set : Raw → Raw → Exec Unit) (r : Raw) (s : Session) : Except Problem Int × Session :=
  let ts := tokens r
  let act : Calculation Int := do
    let value ← assignment set (8 * ts.length + 8) false
    if (← peek) != .finish then throw (.expecting "expecting EOF")
    return value
  match act.run ts s with
  | (.ok (value, _), s) => (.ok value, s)
  | (.error p, s) => (.error p, s)

end Arithmetic

end Stencil.Shell
