import Stencil.Shell.Regular

namespace Stencil.Shell

/-!
# Reading regular expressions

In the basic style the signs of groups, counts and choices are written with a backslash, in the extended one
without it.

* `RegularStyle` — how an expression is written;
* `RegularFault` — why it cannot be read;
* `Regular.read` — the expression that a text stands for.
-/

/-- How an expression is written. -/
structure RegularStyle where
  isExtended : Bool := false
  /-- whether signs that make no sense stand for themselves -/
  isLenient : Bool := false
  deriving Repr, BEq, DecidableEq, Inhabited

/-- Why an expression cannot be read. -/
inductive RegularFault where
  | openGroup
  | closedGroup
  | openSet
  | openCount
  | badCount
  | badRange
  | badKind
  | nothingToRepeat
  | badGroup
  | loneBackslash
  | kindOutsideSet
  | tooLarge
  deriving Repr, BEq, DecidableEq, Inhabited

namespace RegularFault

/-- The words for a fault. -/
def message : RegularFault → String
  | openGroup => "Unmatched ( or \\("
  | closedGroup => "Unmatched ) or \\)"
  | openSet => "Unmatched [, [^, [:, [., or [="
  | openCount => "Unmatched \\\x7b"
  | badCount => "Invalid content of \\\x7b\\\x7d"
  | badRange => "Invalid range end"
  | badKind => "Invalid character class name"
  | nothingToRepeat => "Invalid preceding regular expression"
  | badGroup => "Invalid back reference"
  | loneBackslash => "Trailing backslash"
  | kindOutsideSet => "character class syntax is [[:space:]], not [:space:]"
  | tooLarge => "Regular expression too big"

end RegularFault

namespace Regular

/-! ### Signs -/

/-- A sign of an expression. -/
inductive Sign where
  | plain (r : Regular)
  | place (p : Place)
  | set
  | opening
  | closing
  | bar
  | repeats (shown : Char) (least : Nat) (most : Option Nat)
  | count
  | again (n : Nat)

/-- The sign of a letter after a backslash. -/
def escapedSign (style : RegularStyle) (c : Char) : Sign :=
  let word : List SetMember := [.kind .alnum, .range '_' '_']
  let basic (s : Sign) : Sign := if style.isExtended then .plain (letter c) else s
  match c with
  | '(' => basic .opening
  | ')' => basic .closing
  | '|' => basic .bar
  | '\x7b' => basic .count
  | '+' => basic (.repeats '+' 1 none)
  | '?' => basic (.repeats '?' 0 (some 1))
  | '<' => .place .wordStart
  | '>' => .place .wordEnd
  | 'b' => .place .wordEdge
  | 'B' => .place .notWordEdge
  | '\x60' => .place .textStart
  | '\x27' => .place .textEnd
  | 'w' => .plain (set false word)
  | 'W' => .plain (set true word)
  | 's' => .plain (set false [.kind .space])
  | 'S' => .plain (set true [.kind .space])
  | c => if c.isDigit && c != '0' then .again (c.toNat - 48) else .plain (letter c)

/-- Whether an expression, or a part of it, may end in front of a text. -/
def endsBefore (style : RegularStyle) (rest : List Char) : Bool :=
  match rest with
  | [] => true
  | '\\' :: ')' :: _ => !style.isExtended
  | '\\' :: '|' :: _ => !style.isExtended
  | _ => false

/-- The next sign of an expression and what follows it. `isFirst` says whether it is the first one of a part. -/
def sign (style : RegularStyle) (isFirst : Bool) : List Char → Except RegularFault (Option (Sign × List Char))
  | [] => .ok none
  | ['\\'] => .error .loneBackslash
  | '\\' :: c :: rest => .ok (some (escapedSign style c, rest))
  | c :: rest =>
    let extended (s : Sign) : Sign := if style.isExtended then s else .plain (letter c)
    .ok (some (match c with
      | '.' => .plain any
      | '[' => .set
      | '*' => .repeats '*' 0 none
      | '^' => if style.isExtended || isFirst then .place .lineStart else .plain (letter c)
      | '$' => if style.isExtended || endsBefore style rest then .place .lineEnd else .plain (letter c)
      | '(' => extended .opening
      | ')' => extended .closing
      | '|' => extended .bar
      | '+' => extended (.repeats '+' 1 none)
      | '?' => extended (.repeats '?' 0 (some 1))
      | '\x7b' => extended .count
      | c => .plain (letter c), rest))

/-! ### Sets -/

/-- The name between two signs, and what follows it. -/
def setName? (mark : Char) (rest : List Char) : Option (List Char × List Char) :=
  Text.cutAtText [mark, ']'] rest

/-- A single letter of a set, and what follows it. -/
def setLetter : List Char → Except RegularFault (Char × List Char)
  | '[' :: '.' :: rest =>
    match setName? '.' rest with
    | some ([c], rest) => .ok (c, rest)
    | _ => .error .openSet
  | '[' :: '=' :: rest =>
    match setName? '=' rest with
    | some ([c], rest) => .ok (c, rest)
    | _ => .error .openSet
  | c :: rest => .ok (c, rest)
  | [] => .error .openSet

/-- The members of a set and what follows the set; `limit` bounds how many there are. -/
def members : Nat → Bool → List Char → Except RegularFault (List SetMember × List Char)
  | 0, _, _ => .error .openSet
  | limit + 1, isFirst, text =>
    match text with
    | ']' :: rest => do
      if isFirst then
        let (more, rest) ← afterLetter limit ']' rest
        return (more, rest)
      return ([], rest)
    | '[' :: ':' :: rest =>
      match setName? ':' rest with
      | none => .error .openSet
      | some (name, rest) =>
        match LetterKind.all.lookup (.ofList name) with
        | none => .error .badKind
        | some k => do
          let (more, rest) ← members limit false rest
          return (.kind k :: more, rest)
    | text => do
      let (c, rest) ← setLetter text
      afterLetter limit c rest
where
  /-- The members of a set after a letter, which may start a range. -/
  afterLetter : Nat → Char → List Char → Except RegularFault (List SetMember × List Char)
    | 0, _, _ => .error .openSet
    | limit + 1, c, rest =>
      match rest with
      | '-' :: ']' :: _ => do
        let (more, rest) ← members limit false rest
        return (.range c c :: more, rest)
      | '-' :: rest => do
        let (last, rest) ← setLetter rest
        if last < c then .error .badRange
        let (more, rest) ← members limit false rest
        return (.range c last :: more, rest)
      | rest => do
        let (more, rest) ← members limit false rest
        return (.range c c :: more, rest)

/-- The set after its opening sign, and what follows it. -/
def readSet (rest : List Char) : Except RegularFault (Regular × List Char) := do
  let (isInverted, rest) := match rest with
    | '^' :: rest => (true, rest)
    | rest => (false, rest)
  let (ms, rest) ← members (2 * rest.length + 2) true rest
  return (set isInverted ms, rest)

/-! ### Counts -/

/-- How often a part can be repeated. -/
def maxCount : Nat := 32767

/-- The least and the largest count after an opening brace, and what follows. -/
def readCount (style : RegularStyle) (rest : List Char) :
    Except RegularFault ((Nat × Option Nat) × List Char) := do
  let closing := if style.isExtended then ['\x7d'] else ['\\', '\x7d']
  match Text.cutAtText closing rest with
  | none => .error .openCount
  | some (inside, rest) =>
    let (least, most) := Text.cut ',' inside
    let number (r : List Char) (other : Option Nat) : Except RegularFault (Option Nat) :=
      if r.isEmpty then .ok other
      else match Raw.nat? r with
        | some n => .ok (some n)
        | none => .error .badCount
    let first ← number least (if most.isSome then some 0 else none)
    match first with
    | none => .error .badCount
    | some first =>
      let last ← match most with
        | none => pure (some first)
        | some r => number r none
      if last.any (· < first) then .error .badCount
      if maxCount < first || last.any (maxCount < ·) then .error .tooLarge
      return ((first, last), rest)

/-! ### Expressions -/

/-- What is still to be read, and the groups that have been found. -/
structure Reading where
  rest : List Char
  opened : Nat := 0
  closed : List Nat := []

/-- Reading an expression. -/
abbrev Read := StateT Reading (Except RegularFault)

/-- Join parts. -/
def join : List Regular → Regular
  | [] => nothing
  | [r] => r
  | r :: rest => both r (join rest)

/-- The next sign, without reading it. -/
def peek (style : RegularStyle) (isFirst : Bool) : Read (Option (Sign × List Char)) := do
  match sign style isFirst (← get).rest with
  | .ok found => return found
  | .error f => throw f

/-- Go on behind a sign. -/
def goOn (rest : List Char) : Read Unit :=
  modify fun s => { s with rest }

/-- The repetitions after a part; `limit` bounds how many there are. -/
def repetitions (style : RegularStyle) : Nat → Regular → Read Regular
  | 0, r => return r
  | limit + 1, r => do
    match ← peek style false with
    | some (.repeats _ least most, rest) =>
      goOn rest
      repetitions style limit (repeated least most r)
    | some (.count, rest) =>
      match readCount style rest with
      | .ok ((least, most), rest) =>
        goOn rest
        repetitions style limit (repeated least most r)
      | .error f => if style.isLenient && style.isExtended && f != .tooLarge then return r else throw f
    | _ => return r

mutual

/-- The choices of an expression, up to the sign that closes its group. -/
def choices (style : RegularStyle) : Nat → Nat → Read Regular
  | 0, _ => throw .tooLarge
  | limit + 1, depth => do
    let first ← sequence style limit depth true true []
    match ← peek style false with
    | some (.bar, rest) =>
      goOn rest
      return either first (← choices style limit depth)
    | _ => return first

/-- A sequence of parts; `isFirst` says whether nothing is there to be repeated, `isStart` whether nothing has been
read. -/
def sequence (style : RegularStyle) : Nat → Nat → Bool → Bool → List Regular → Read Regular
  | 0, _, _, _, _ => throw .tooLarge
  | limit + 1, depth, isFirst, isStart, before => do
    let finish : Read Regular := return join before.reverse
    let part (r : Regular) (rest : List Char) : Read Regular := do
      goOn rest
      let r ← repetitions style limit r
      sequence style limit depth false false (r :: before)
    match ← peek style isStart with
    | none => finish
    | some (s, rest) =>
      match s with
      | .bar => finish
      | .closing =>
        if 0 < depth then finish
        else if style.isLenient && style.isExtended then part (letter ')') rest
        else throw .closedGroup
      | .plain r => part r rest
      | .place p =>
        goOn rest
        sequence style limit depth true false (.at p :: before)
      | .set =>
        match readSet rest with
        | .ok (r, rest) => part r rest
        | .error f => throw f
      | .again n =>
        if !(← get).closed.contains n then throw .badGroup
        part (again n) rest
      | .repeats shown _ _ =>
        if !isFirst then
          goOn rest
          sequence style limit depth false false before
        else if style.isExtended then
          if style.isLenient then
            goOn rest
            sequence style limit depth true false before
          else throw .nothingToRepeat
        else part (letter shown) rest
      | .count =>
        if style.isLenient && style.isExtended then
          match readCount style rest with
          | .ok (_, rest) =>
            goOn rest
            sequence style limit depth true false before
          | .error _ => part (letter '\x7b') rest
        else throw .nothingToRepeat
      | .opening =>
        modify fun s => { s with rest, opened := s.opened + 1 }
        let number := (← get).opened
        let inside ← choices style limit (depth + 1)
        match ← peek style false with
        | some (.closing, rest) =>
          modify fun s => { s with closed := number :: s.closed }
          part (group number inside) rest
        | _ => throw .openGroup

end

/-- The expression that a text stands for. -/
def read (style : RegularStyle) (text : List Char) : Except RegularFault Regular := do
  let (r, s) ← (choices style (3 * text.length + 3) 0).run { rest := text }
  if s.rest.isEmpty then return r else .error .closedGroup

end Regular

end Stencil.Shell
