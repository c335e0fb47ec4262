import Stencil.Shell.Program.Basic
import Stencil.Shell.Regular.Reader
import Stencil.Text.Letters

namespace Stencil.Shell.Program.Edit

/-!
# Scripts for editing lines

A script is a list of steps. Each step may say for which lines it is meant.

* `Address`, `Selection` — which lines are meant;
* `Step` — what is done;
* `readScript` — the steps that texts stand for.
-/

/-! ### Steps -/

/-- An expression and how it is looked for. Without an expression the last one that was used is meant. -/
structure Sought where
  pattern : Option Regular := none
  ignoresCase : Bool := false
  hasLines : Bool := false
  deriving Inhabited

/-- Which line is meant. -/
inductive Address where
  | line (n : Nat)
  /-- a line, and each one some lines further on -/
  | step (first step : Nat)
  | last
  | matching (s : Sought)
  deriving Inhabited

/-- Where a range of lines ends. -/
inductive RangeEnd where
  | at (a : Address)
  | after (count : Nat)
  | multiple (n : Nat)
  deriving Inhabited

/-- The lines for which a step is meant. -/
structure Selection where
  first : Option Address := none
  last : Option RangeEnd := none
  isInverted : Bool := false
  deriving Inhabited

/-- How letters of a replacement are changed. -/
inductive Casing where
  | upper
  | lower
  | nextUpper
  | nextLower
  | unchanged
  deriving Repr, BEq, DecidableEq, Inhabited

/-- A part of a replacement. -/
inductive Piece where
  | text (s : List Char)
  /-- what a group describes; number zero is the whole part -/
  | group (n : Nat)
  | casing (c : Casing)
  deriving Repr, BEq, DecidableEq, Inhabited

/-- A replacement of parts of a line. -/
structure Substitution where
  sought : Sought
  pieces : List Piece
  isGlobal : Bool := false
  number : Nat := 1
  prints : Bool := false
  target : Option Raw := none
  deriving Inhabited

/-- When a jump is made. -/
inductive JumpKind where
  | always
  | ifChanged
  | ifUnchanged
  deriving Repr, BEq, DecidableEq, Inhabited

/-- What a step does. -/
inductive Action where
  /-- a block of steps; the number is that of the step that closes it -/
  | block (last : Nat)
  | nothing
  | jump (kind : JumpKind) (label : List Char)
  | substitute (s : Substitution)
  | exchangeLetters (pairs : List (Char × Char))
  | append (text : List Char)
  | insert (text : List Char)
  | change (text : List Char)
  | delete
  | deleteFirst
  | print
  | printFirst
  | lineNumber
  | fileName
  | list (width : Nat)
  | next
  | join
  | hold
  | holdMore
  | fetch
  | fetchMore
  | exchange
  | clear
  | quit (code : Nat) (prints : Bool)
  | readFile (name : Raw)
  | readLine (name : Raw)
  | writeFile (name : Raw)
  | writeFirst (name : Raw)
  deriving Inhabited

/-- A step of a script. -/
structure Step where
  selection : Selection
  action : Action
  deriving Inhabited

/-! ### Reading -/

/-- What is still to be read of a script, and what has been read. -/
structure Reading where
  rest : List Char
  /-- how many letters have been read of the current text -/
  count : Nat := 0
  /-- the steps, the last one first -/
  steps : List Step := []
  /-- the numbers of the steps that open blocks, the innermost first -/
  blocks : List Nat := []
  /-- the labels and the numbers of the steps behind them -/
  labels : List (List Char × Nat) := []
  isExtended : Bool := false

/-- Why a script cannot be read, and how many letters had been read then. -/
structure Fault where
  count : Nat
  reason : List Char

/-- Reading a script. -/
abbrev Read := StateT Reading (Except Fault)

/-- Give up. -/
def refuse {α : Type} (reason : String) : Read α := do
  throw { count := (← get).count, reason := reason.toList }

/-- The next letter, if there is one. -/
def next? : Read (Option Char) := do
  let s ← get
  match s.rest with
  | [] => return none
  | c :: rest =>
    set { s with rest, count := s.count + 1 }
    return some c

/-- The next letter, without reading it. -/
def peek? : Read (Option Char) := do
  return (← get).rest.head?

/-- Read letters of a kind. -/
def takeWhile (p : Char → Bool) : Read (List Char) := do
  let s ← get
  let found := s.rest.takeWhile p
  set { s with rest := s.rest.drop found.length, count := s.count + found.length }
  return found

/-- Whether a letter is a gap inside a line. -/
def isGap (c : Char) : Bool :=
  c = ' ' || c = '\t' || c = '\r' || c = '\x0b' || c = '\x0c'

/-- Read a number. -/
def number : Read Nat := do
  return Raw.digitsValue (← takeWhile Char.isDigit)

/-- Read what stands up to a delimiter. In front of the delimiter a backslash is dropped; in an expression a
backslash and an n stand for a line end. There is nothing if the delimiter is missing. -/
def delimited (delimiter : Char) (isExpression : Bool) : Nat → List Char → Read (Option (List Char))
  | 0, _ => return none
  | limit + 1, before => do
    match ← peek? with
    | none => return none
    | some '\n' => return none
    | some c =>
      let _ ← next?
      if c = delimiter then return some before.reverse
      if c != '\\' then delimited delimiter isExpression limit (c :: before)
      else match ← next? with
        | none => return none
        | some d =>
          if d = delimiter && !(d = '&' && !isExpression) then delimited delimiter isExpression limit (d :: before)
          else if d = 'n' && isExpression then delimited delimiter isExpression limit ('\n' :: before)
          else if d = '\n' && isExpression then delimited delimiter isExpression limit (d :: before)
          else delimited delimiter isExpression limit (d :: '\\' :: before)

/-- The letter that digits in a base stand for, at most some of them, and what follows. -/
def numbered (base limit : Nat) (rest : List Char) : Option (Char × List Char) :=
  let isDigit (c : Char) : Bool := (Text.hexValue? c).any (· < base)
  let digits := (rest.take limit).takeWhile isDigit
  if digits.isEmpty then none
  else
    let n := digits.foldl (fun n c => n * base + (Text.hexValue? c).getD 0) 0
    some (Char.ofNat (n % 256), rest.drop digits.length)

/-- The letter that stands behind a backslash as a mark, whether it was given by its number, and what follows. -/
def mark? (rest : List Char) : Option (Char × Bool × List Char) :=
  match rest with
  | 'a' :: rest => some ('\x07', false, rest)
  | 'f' :: rest => some ('\x0c', false, rest)
  | 'r' :: rest => some ('\r', false, rest)
  | 't' :: rest => some ('\t', false, rest)
  | 'v' :: rest => some ('\x0b', false, rest)
  | 'c' :: c :: rest => some (Char.ofNat ((c.toUpper.toNat + 64) % 128), true, rest)
  | 'd' :: rest => (numbered 10 3 rest).map fun (c, rest) => (c, true, rest)
  | 'o' :: rest => (numbered 8 3 rest).map fun (c, rest) => (c, true, rest)
  | 'x' :: rest => (numbered 16 2 rest).map fun (c, rest) => (c, true, rest)
  | _ => none

/-- An expression with its marks replaced; `limit` bounds its length. -/
def withoutMarks : Nat → List Char → List Char
  | 0, r => r
  | _, [] => []
  | limit + 1, '\\' :: rest =>
    match mark? rest with
    | some (c, byNumber, after) =>
      if byNumber && "*.[]^$\\+?()\x7b\x7d|/".toList.contains c then '\\' :: c :: withoutMarks limit after
      else c :: withoutMarks limit after
    | none =>
      match rest with
      | c :: rest => '\\' :: c :: withoutMarks limit rest
      | [] => ['\\']
  | limit + 1, c :: rest => c :: withoutMarks limit rest

/-- The expression that a text stands for. -/
def expression (text : List Char) : Read (Option Regular) := do
  if text.isEmpty then return none
  match Regular.read { isExtended := (← get).isExtended } (withoutMarks text.length text) with
  | .ok r => return some r
  | .error f => refuse f.message

/-- The pieces of a replacement; `limit` bounds its length. -/
def pieces : Nat → List Char → List Piece
  | 0, _ => []
  | _, [] => []
  | limit + 1, '&' :: rest => .group 0 :: pieces limit rest
  | _, ['\\'] => [.text ['\\']]
  | limit + 1, '\\' :: c :: rest =>
    if c.isDigit then .group (c.toNat - 48) :: pieces limit rest
    else match c with
      | 'L' => .casing .lower :: pieces limit rest
      | 'U' => .casing .upper :: pieces limit rest
      | 'l' => .casing .nextLower :: pieces limit rest
      | 'u' => .casing .nextUpper :: pieces limit rest
      | 'E' => .casing .unchanged :: pieces limit rest
      | 'n' => .text ['\n'] :: pieces limit rest
      | c =>
        match mark? (c :: rest) with
        | some (d, _, after) => .text [d] :: pieces limit after
        | none => .text [c] :: pieces limit rest
  | limit + 1, c :: rest => .text [c] :: pieces limit rest

/-! ### Addresses -/

/-- Read the letters behind an expression that say how it is looked for. -/
def soughtFlags (s : Sought) : Nat → Read Sought
  | 0 => return s
  | limit + 1 => do
    match ← peek? with
    | some 'I' =>
      let _ ← next?
      soughtFlags { s with ignoresCase := true } limit
    | some 'M' =>
      let _ ← next?
      soughtFlags { s with hasLines := true } limit
    | _ => return s

/-- Read an address, if there is one. -/
def address? : Read (Option Address) := do
  match ← peek? with
  | none => return none
  | some c =>
    if c.isDigit then
      let n ← number
      let _ ← takeWhile isGap
      if (← peek?) = some '~' then
        let _ ← next?
        let _ ← takeWhile isGap
        return some (.step n (← number))
      return some (.line n)
    else if c = '$' then
      let _ ← next?
      return some .last
    else if c = '/' || c = '\\' then
      let _ ← next?
      let delimiter ← if c = '/' then pure '/' else do
        match ← next? with
        | some d => pure d
        | none => refuse "unexpected `,'"
      match ← delimited delimiter true ((← get).rest.length + 1) [] with
      | none => refuse "unterminated address regex"
      | some text =>
        let s ← soughtFlags {} 10
        return some (.matching { s with pattern := ← expression text })
    else return none

/-- Read the end of a range. -/
def rangeEnd : Read RangeEnd := do
  let _ ← takeWhile isGap
  match ← peek? with
  | some '+' =>
    let _ ← next?
    return .after (← number)
  | some '~' =>
    let _ ← next?
    return .multiple (← number)
  | _ =>
    match ← address? with
    | some (.step n _) => return .at (.line n)
    | some a => return .at a
    | none =>
      let _ ← next?
      refuse "unexpected `,'"

/-- Read the lines for which a step is meant. -/
def selection : Read Selection := do
  match ← address? with
  | none => return {}
  | some first =>
    let _ ← takeWhile isGap
    let last ← if (← peek?) = some ',' then do
        let _ ← next?
        pure (some (← rangeEnd))
      else pure none
    if let .line 0 := first then
      match last with
      | some (.at (.matching _)) => pure ()
      | _ =>
        let _ ← next?
        refuse "invalid usage of line address 0"
    return { first := some first, last }

/-! ### Actions -/

/-- Read up to the end of a step. -/
def stepEnd : Read Unit := do
  let _ ← takeWhile isGap
  match ← peek? with
  | none => return
  | some c =>
    if c = '\x7d' || c = '#' then return
    let _ ← next?
    if c != '\n' && c != ';' then refuse "extra characters after command"

/-- The text of a step, up to a line end that has no backslash in front of it; `limit` bounds its length. -/
def textLines : Nat → List Char → Read (List Char)
  | 0, before => return before.reverse
  | limit + 1, before => do
    match ← next? with
    | none => return before.reverse
    | some '\n' => return before.reverse
    | some '\\' =>
      match ← peek? with
      | none => return before.reverse
      | some '\n' =>
        let _ ← next?
        textLines limit ('\n' :: before)
      | some c =>
        match mark? (← get).rest with
        | some (d, _, after) =>
          modify fun s => { s with rest := after, count := s.count + (s.rest.length - after.length) }
          textLines limit (d :: before)
        | none =>
          let _ ← next?
          textLines limit (c :: before)
    | some c => textLines limit (c :: before)

/-- Read the text of a step. -/
def stepText : Read (List Char) := do
  let missing : Read Unit := refuse "expected \\ after `a', `c' or `i'"
  let _ ← takeWhile isGap
  match ← peek? with
  | none => missing
  | some '\n' => missing
  | some '\\' =>
    let _ ← next?
    let gap ← takeWhile isGap
    match ← peek? with
    | some '\n' =>
      let _ ← next?
    | none => missing
    | some _ => modify fun s => { s with rest := gap ++ s.rest, count := s.count - gap.length }
  | some _ => pure ()
  let text ← textLines ((← get).rest.length + 1) []
  return text ++ ['\n']

/-- Read the name of a label. -/
def label : Read (List Char) := do
  let _ ← takeWhile isGap
  takeWhile fun c => !isGap c && c != '\n' && c != ';'

/-- Read the name of a file. -/
def stepFile : Read Raw := do
  let _ ← takeWhile isGap
  let name ← takeWhile (· != '\n')
  let _ ← if name.isEmpty then pure none else next?
  if name.isEmpty then refuse "missing filename in r/R/w/W commands"
  return Raw.ofLetters name

/-- Read the letters behind a replacement that say how it is made; `limit` bounds how many there are. -/
def substitutionFlags (hasNumber : Bool) : Nat → Substitution → Read Substitution
  | 0, s => return s
  | limit + 1, s => do
    match ← peek? with
    | none => return s
    | some c =>
      if c = '\x7d' || c = '#' then return s
      if c.isDigit then
        let n ← number
        if n = 0 then refuse "number option to `s' command may not be zero"
        if hasNumber then refuse "multiple number options to `s' command"
        substitutionFlags true limit { s with number := n }
      else
        let _ ← next?
        match c with
        | 'g' =>
          if s.isGlobal then refuse "multiple `g' options to `s' command"
          substitutionFlags hasNumber limit { s with isGlobal := true }
        | 'p' =>
          if s.prints then refuse "multiple `p' options to `s' command"
          substitutionFlags hasNumber limit { s with prints := true }
        | 'i' => substitutionFlags hasNumber limit { s with sought := { s.sought with ignoresCase := true } }
        | 'I' => substitutionFlags hasNumber limit { s with sought := { s.sought with ignoresCase := true } }
        | 'm' => substitutionFlags hasNumber limit { s with sought := { s.sought with hasLines := true } }
        | 'M' => substitutionFlags hasNumber limit { s with sought := { s.sought with hasLines := true } }
        | 'w' => return { s with target := some (← stepFile) }
        | '\n' => return s
        | ';' => return s
        | c =>
          if isGap c then substitutionFlags hasNumber limit s
          else refuse "unknown option to `s'"

/-- The largest group that pieces name. -/
def largestGroup (ps : List Piece) : Nat :=
  ps.foldl (fun n p => match p with
    | .group m => max n m
    | _ => n) 0

/-- Read a replacement. -/
def substitution : Read Action := do
  let unterminated {α : Type} : Read α := refuse "unterminated `s' command"
  match ← next? with
  | none => unterminated
  | some delimiter =>
    if delimiter = '\n' || delimiter = '\\' then unterminated
    let limit := (← get).rest.length + 1
    match ← delimited delimiter true limit [] with
    | none => unterminated
    | some text =>
      match ← delimited delimiter false limit [] with
      | none => unterminated
      | some replacement =>
        let ps := pieces replacement.length replacement
        let s ← substitutionFlags false limit { sought := {}, pieces := ps }
        let pattern ← expression text
        let groups := (pattern.map Regular.groupCount).getD 9
        if groups < largestGroup ps then
          refuse ("invalid reference \\" ++ toString (largestGroup ps) ++ " on `s' command's RHS")
        return .substitute { s with sought := { s.sought with pattern } }

/-- The letters of a list for an exchange; a backslash stands before itself and before an n. -/
def exchanged : List Char → Option (List Char)
  | [] => some []
  | '\\' :: '\\' :: rest => (exchanged rest).map ('\\' :: ·)
  | '\\' :: 'n' :: rest => (exchanged rest).map ('\n' :: ·)
  | '\\' :: '\n' :: rest => (exchanged rest).map ('\n' :: ·)
  | '\\' :: 't' :: rest => (exchanged rest).map ('\t' :: ·)
  | '\\' :: 'r' :: rest => (exchanged rest).map ('\r' :: ·)
  | '\\' :: _ => none
  | c :: rest => (exchanged rest).map (c :: ·)

/-- Read an exchange of letters. -/
def exchange : Read Action := do
  let unterminated {α : Type} : Read α := refuse "unterminated `y' command"
  match ← next? with
  | none => unterminated
  | some delimiter =>
    let limit := (← get).rest.length + 1
    match ← delimited delimiter false limit [] with
    | none => unterminated
    | some first =>
      match ← delimited delimiter false limit [] with
      | none => unterminated
      | some second =>
        match exchanged first, exchanged second with
        | some xs, some ys =>
          if xs.length != ys.length then refuse "strings for `y' command are different lengths"
          stepEnd
          return .exchangeLetters (xs.zip ys)
        | _, _ => refuse "strings for `y' command are different lengths"

/-- Read a number that may stand behind a step, and its end. -/
def optionalNumber (other : Nat) : Read Nat := do
  let _ ← takeWhile isGap
  let n ← match ← peek? with
    | some c => if c.isDigit then number else pure other
    | none => pure other
  stepEnd
  return n

/-- Read what a step does, after its letter. -/
def action (s : Selection) (c : Char) : Read Action := do
  let plain (a : Action) : Read Action := do
    stepEnd
    return a
  let once : Read Unit := do
    if s.last.isSome then refuse "command only uses one address"
  match c with
  | '=' => plain .lineNumber
  | 'd' => plain .delete
  | 'D' => plain .deleteFirst
  | 'p' => plain .print
  | 'P' => plain .printFirst
  | 'n' => plain .next
  | 'N' => plain .join
  | 'h' => plain .hold
  | 'H' => plain .holdMore
  | 'g' => plain .fetch
  | 'G' => plain .fetchMore
  | 'x' => plain .exchange
  | 'z' => plain .clear
  | 'F' => plain .fileName
  | 'l' => return .list (← optionalNumber 70)
  | 'q' =>
    once
    return .quit (← optionalNumber 0) true
  | 'Q' =>
    once
    return .quit (← optionalNumber 0) false
  | 'a' => return .append (← stepText)
  | 'i' => return .insert (← stepText)
  | 'c' => return .change (← stepText)
  | 's' => substitution
  | 'y' => exchange
  | 'r' => return .readFile (← stepFile)
  | 'R' => return .readLine (← stepFile)
  | 'w' => return .writeFile (← stepFile)
  | 'W' => return .writeFirst (← stepFile)
  | 'b' => jump .always
  | 't' => jump .ifChanged
  | 'T' => jump .ifUnchanged
  | 'v' =>
    let _ ← label
    plain .nothing
  | c => refuse ("unknown command: `" ++ c.toString ++ "'")
where
  /-- Read where a jump leads. -/
  jump (kind : JumpKind) : Read Action := do
    let _ ← takeWhile isGap
    let name ← takeWhile fun c => !isGap c && c != '\n' && c != ';' && c != '\x7d'
    stepEnd
    return .jump kind name

/-- Add a step. -/
def addStep (s : Step) : Read Unit :=
  modify fun r => { r with steps := s :: r.steps }

/-- Read the steps of a text; `limit` bounds how many there are. -/
def readSteps : Nat → Read Unit
  | 0 => return
  | limit + 1 => do
    let _ ← takeWhile fun c => isGap c || c = '\n' || c = ';'
    if (← peek?).isNone then return
    let chosen ← selection
    let _ ← takeWhile isGap
    let isInverted ← if (← peek?) = some '!' then do
        let _ ← next?
        let _ ← takeWhile isGap
        if (← peek?) = some '!' then
          let _ ← next?
          refuse "multiple `!'s"
        pure true
      else pure false
    let chosen := { chosen with isInverted }
    match ← next? with
    | none => refuse "missing command"
    | some '#' =>
      if chosen.first.isSome then refuse "comments don't accept any addresses"
      let _ ← takeWhile (· != '\n')
    | some ':' =>
      if chosen.first.isSome then refuse ": doesn't want any addresses"
      let name ← label
      if name.isEmpty then refuse "\":\" lacks a label"
      modify fun r => { r with labels := (name, r.steps.length) :: r.labels }
      stepEnd
    | some '\x7b' =>
      let n := (← get).steps.length
      addStep { selection := chosen, action := .block 0 }
      modify fun r => { r with blocks := n :: r.blocks }
    | some '\x7d' =>
      match (← get).blocks with
      | [] => refuse "unexpected `\x7d'"
      | n :: blocks =>
        if chosen.first.isSome then refuse "\x7d doesn't want any addresses"
        let last := (← get).steps.length
        modify fun r =>
          let steps := r.steps.reverse.zipIdx.map fun (s, i) => if i = n then { s with action := .block last } else s
          { r with steps := steps.reverse, blocks }
        addStep { selection := {}, action := .nothing }
        stepEnd
    | some '\n' => refuse "missing command"
    | some ';' => refuse "missing command"
    | some c => addStep { selection := chosen, action := ← action chosen c }
    readSteps limit

/-- A script: its steps, and where its labels stand. -/
structure Script where
  steps : Array Step := #[]
  labels : List (List Char × Nat) := []

/-- A text of a script, and how it is named in complaints. -/
structure Source where
  isFile : Bool
  /-- the name of the file, or the number of the text -/
  name : Raw
  text : List Char

/-- The words for a fault in a text. -/
def Source.complaint (s : Source) (f : Fault) : Raw :=
  let place :=
    if s.isFile then
      "file ".toList ++ s.name ++ " line ".toList ++ Raw.ofNat ((s.text.take f.count).count '\n' + 1)
    else "-e expression #".toList ++ s.name ++ ", char ".toList ++ Raw.ofNat f.count
  place ++ ": ".toList ++ Raw.ofLetters f.reason

/-- The script that texts stand for. -/
def readScript (isExtended : Bool) (sources : List Source) : Except Raw Script := do
  let mut r : Reading := { rest := [], isExtended }
  for s in sources do
    match (readSteps (s.text.length + 1)).run { r with rest := s.text, count := 0 } with
    | .ok (_, next) => r := next
    | .error f => throw (s.complaint f)
  let name := ((sources.getLast?.map (·.name)).getD ['1'])
  if !r.blocks.isEmpty then
    throw ("-e expression #".toList ++ name ++ ", char 0: unmatched `\x7b'".toList)
  for s in r.steps.reverse do
    if let .jump _ target := s.action then
      if !target.isEmpty && (r.labels.lookup target).isNone then
        throw ("can't find label for jump to `".toList ++ Raw.ofLetters target ++ ['\x27'])
  return { steps := r.steps.reverse.toArray, labels := r.labels }

end Stencil.Shell.Program.Edit
