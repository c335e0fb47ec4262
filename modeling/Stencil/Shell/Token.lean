import Stencil.OrderedMap
import Stencil.Shell.Syntax

namespace Stencil.Shell

/-!
# Reading words

* `Token` — the pieces of a script that commands are made of;
* `Cursor`, `Reader` — a place in a script, and computations that move it;
* `Reader.word` — the word at a place;
* `Reader.token` — the token at a place.

A backslash before a line end joins two lines everywhere but between single quotes.
-/

/-- Why a script cannot be read: the line, and what is wrong there. -/
structure Misread where
  line : Nat
  reason : String
  deriving Repr, BEq, DecidableEq, Inhabited

/-- The pieces of a script that commands are made of. -/
inductive Token where
  | endOfScript
  | lineEnd
  | sign (text : String)
  | keyword (text : String)
  | word (w : Word)
  /-- the sign of a redirection -/
  | redirect (stream : Nat) (kind : RedirectKind)
  /-- the sign of a text that follows in the script -/
  | here (stream : Nat) (stripsTabs : Bool)
  deriving Inhabited

/-- How a token is named in a complaint. -/
def Token.title : Token → String
  | .endOfScript => "end of file"
  | .lineEnd => "newline"
  | .sign s => "\"" ++ s ++ "\""
  | .keyword s => "\"" ++ s ++ "\""
  | .word _ => "word"
  | .redirect _ _ => "redirection"
  | .here _ _ => "redirection"

/-- A text that follows in the script: its number, the line that ends it, and how it is read. -/
structure Awaited where
  number : Nat
  mark : Raw
  stripsTabs : Bool
  expands : Bool
  deriving Repr, BEq, DecidableEq, Inhabited

/-- A place in a script. -/
structure Cursor where
  rest : Raw
  line : Nat := 1
  /-- a token that has been read and is still to be used -/
  kept : Option Token := none
  /-- the texts that start on the next line -/
  awaited : List Awaited := []
  /-- the texts that have been found, by their numbers -/
  documents : Array Word := #[]
  /-- the words that stand for other words -/
  aliases : OrderedMap Raw := []
  /-- words that stand for themselves until no more than some of the script is left -/
  suspended : List (String × Nat) := []
  deriving Inhabited

/-- Computations that move through a script. -/
abbrev Reader := StateT Cursor (Except Misread)

namespace Reader

/-- The script cannot be read. -/
def fail {α : Type} (reason : String) : Reader α := do
  throw ⟨(← get).line, reason⟩

/-- What follows joined lines, and how many there are. -/
def skipJoints : Nat → Raw → Nat × Raw
  | n, '\\' :: '\n' :: rest => skipJoints (n + 1) rest
  | n, r => (n, r)

/-- The next character, lines joined. -/
def peek : Reader (Option Char) := do
  let c ← get
  let (n, rest) := skipJoints 0 c.rest
  set { c with rest, line := c.line + n }
  return rest.head?

/-- Move past a character. -/
def skip : Reader Unit :=
  modify fun c => { c with
    rest := c.rest.tail, line := if c.rest.head? = some '\n' then c.line + 1 else c.line }

/-- Move past the next character, lines joined. -/
def next : Reader (Option Char) := do
  let c ← peek
  skip
  return c

/-- Move past the next character if it is the given one. -/
def skipIf (c : Char) : Reader Bool := do
  if (← peek) = some c then
    skip
    return true
  else return false

/-- Move past the characters that belong to a class. -/
def takeWhile (p : Char → Bool) : Nat → Reader Raw
  | 0 => return []
  | n + 1 => do
    match ← peek with
    | some c =>
      if p c then
        skip
        return c :: (← takeWhile p n)
      else return []
    | none => return []

/-- Whether a character may stand in the name of a variable. -/
def isNameChar (c : Char) : Bool :=
  c.isAlphanum || c = '_'

/-- Whether a character may start the name of a variable. -/
def isNameStart (c : Char) : Bool :=
  c.isAlpha || c = '_'

/-- Whether a character is the name of a parameter of the shell itself. -/
def isSpecial (c : Char) : Bool :=
  "@*#?-$!".toList.contains c || c.isDigit

/-! ### Quotes -/

/-- What a complaint says about a quote that is not closed. -/
def unclosedQuote : String := "Unterminated quoted string"

/-- The text up to a closing single quote. -/
def singleQuoted : Nat → Reader Raw
  | 0 => fail unclosedQuote
  | n + 1 => do
    match (← get).rest.head? with
    | none => fail unclosedQuote
    | some c =>
      skip
      if c = '\x27' then return [] else return c :: (← singleQuoted n)

/-- The script between backquotes: a backslash before some signs is dropped. -/
def backquoted (isQuoted : Bool) : Nat → Reader Raw
  | 0 => fail "EOF in backquote substitution"
  | n + 1 => do
    match ← next with
    | none => fail "EOF in backquote substitution"
    | some '\x60' => return []
    | some '\\' =>
      match ← next with
      | none => fail "EOF in backquote substitution"
      | some d =>
        let isDropped := d = '\\' || d = '\x60' || d = '$' || (isQuoted && d = '"')
        let rest ← backquoted isQuoted n
        return if isDropped then d :: rest else '\\' :: d :: rest
    | some c => return c :: (← backquoted isQuoted n)

/-- The part that a backslash between double quotes makes with what follows it. -/
def escapedInQuotes (alsoEscapes : Char → Bool) : Reader (List Part) := do
  match ← peek with
  | none => return [.char '\\']
  | some c =>
    skip
    if c = '\\' || c = '\x60' || c = '$' || alsoEscapes c then return [.literal [c]]
    else return [.literal ['\\', c]]

/-! ### Substitutions -/

/-- How the words of a script are read: the commands up to a closing bracket, and those of a script of its
own. -/
structure Commands where
  inBrackets : Reader (Option Command)
  whole : Raw → Reader (Option Command)

/-- The operator after the name of a parameter, its doubled form known. -/
inductive Operator where
  | none
  | use (orEmpty : Bool) (sign : Char)
  | trim (t : Trim)
  | length
  | malformed
  deriving Repr, BEq, DecidableEq, Inhabited

/-- The operator after the name of a parameter whose use is not told before it. -/
def operator : Reader Operator := do
  let orEmpty ← skipIf ':'
  match ← next with
  | some '}' => return if orEmpty then .use true '}' else .none
  | some '%' =>
    if orEmpty then return .malformed
    return .trim (if ← skipIf '%' then .longestEnd else .shortestEnd)
  | some '#' =>
    if orEmpty then return .malformed
    return .trim (if ← skipIf '#' then .longestStart else .shortestStart)
  | some c => return if "-+?=".toList.contains c then .use orEmpty c else .malformed
  | none => return .malformed

/-- The name of a parameter inside braces, and the operator after it. A number sign before a name asks for the
length of the value. -/
def parameterName (limit : Nat) : Reader (Raw × Operator) := do
  match ← peek with
  | none => return ([], .malformed)
  | some c =>
    if isNameStart c then
      let name ← takeWhile isNameChar limit
      return (name, ← operator)
    else if c.isDigit then
      let name ← takeWhile Char.isDigit limit
      return (name, ← operator)
    else if c = '}' then return ([], .malformed)
    else
      skip
      match ← peek with
      | some d =>
        if c = '#' && isNameChar d then
          let name ← takeWhile (if d.isDigit then Char.isDigit else isNameChar) limit
          return (name, if (← peek) = some '}' then .length else .malformed)
        else if c = '#' && d != '}' then
          -- Either the length of a special parameter or an operator on the number of arguments.
          let before ← get
          skip
          if (← peek) = some '}' then return ([d], if isSpecial d then .length else .malformed)
          set before
          return ([c], ← operator)
        else if isSpecial c then return ([c], ← operator)
        else return ([], .malformed)
      | none => return ([], .malformed)

/-- The use of a parameter that an operator and the word after it stand for. -/
def Operator.toUse (w : Word) : Operator → Use
  | .none => .value
  | .length => .length
  | .malformed => .malformed
  | .trim t => .trim t w
  | .use orEmpty '-' => .default orEmpty w
  | .use orEmpty '=' => .assign orEmpty w
  | .use orEmpty '?' => .demand orEmpty w
  | .use orEmpty '+' => .alternative orEmpty w
  | .use _ _ => .value

mutual

/-- The parts up to a closing double quote. -/
def quoted (cs : Commands) (inBraces : Bool) : Nat → Reader Word
  | 0 => fail unclosedQuote
  | n + 1 => do
    match ← next with
    | none => fail unclosedQuote
    | some '"' => return []
    | some '\\' =>
      let parts ← escapedInQuotes fun c => c = '"' || (inBraces && c = '}')
      return parts ++ (← quoted cs inBraces n)
    | some '$' =>
      let part ← dollar cs true n
      return part :: (← quoted cs inBraces n)
    | some '\x60' =>
      let part ← oldOutput cs true n
      return part :: (← quoted cs inBraces n)
    | some c => return .char c :: (← quoted cs inBraces n)

/-- The parts up to a closing brace. -/
def braced (cs : Commands) (isQuoted : Bool) : Nat → Reader Word
  | 0 => fail "Missing '\x7d'"
  | n + 1 => do
    match ← next with
    | none => fail (if isQuoted then unclosedQuote else "Missing '\x7d'")
    | some '}' => return []
    | some '\\' =>
      let parts ←
        if isQuoted then escapedInQuotes fun c => c = '"' || c = '}'
        else
          match ← next with
          | some c => pure [.literal [c]]
          | none => pure [.literal ['\\']]
      return parts ++ (← braced cs isQuoted n)
    | some '"' =>
      let inside ← quoted cs true n
      return .quoted inside :: (← braced cs isQuoted n)
    | some '\x27' =>
      if isQuoted then return .char '\x27' :: (← braced cs isQuoted n)
      let s ← singleQuoted n
      return .literal s :: (← braced cs isQuoted n)
    | some '$' =>
      let part ← dollar cs isQuoted n
      return part :: (← braced cs isQuoted n)
    | some '\x60' =>
      let part ← oldOutput cs isQuoted n
      return part :: (← braced cs isQuoted n)
    | some c => return .char c :: (← braced cs isQuoted n)

/-- The parts of an expression up to its two closing brackets; `depth` counts the open ones. -/
def expression (cs : Commands) : Nat → Nat → Reader Word
  | 0, _ => fail "Missing '))'"
  | n + 1, depth => do
    match ← next with
    | none => fail "Missing '))'"
    | some '(' => return .char '(' :: (← expression cs n (depth + 1))
    | some ')' =>
      match depth with
      | 0 =>
        if ← skipIf ')' then return []
        return .char ')' :: (← expression cs n 0)
      | d + 1 => return .char ')' :: (← expression cs n d)
    | some '\\' =>
      let parts ← escapedInQuotes (· = '"')
      return parts ++ (← expression cs n depth)
    | some '$' =>
      let part ← dollar cs true n
      return part :: (← expression cs n depth)
    | some '\x60' =>
      let part ← oldOutput cs true n
      return part :: (← expression cs n depth)
    | some c => return .char c :: (← expression cs n depth)

/-- What a dollar sign starts; alone it stands for itself. -/
def dollar (cs : Commands) (isQuoted : Bool) : Nat → Reader Part
  | 0 => return .char '$'
  | n + 1 => do
    match ← peek with
    | some '(' =>
      skip
      if ← skipIf '(' then return .arithmetic (← expression cs n 0)
      return .output (← cs.inBrackets)
    | some '{' =>
      skip
      let (name, op) ← parameterName n
      match op with
      | .none => return .parameter name .value
      | .trim _ => return .parameter name (op.toUse (← braced cs false n))
      | op => return .parameter name (op.toUse (← braced cs isQuoted n))
    | some c =>
      if isNameStart c then return .parameter (← takeWhile isNameChar n) .value
      else if isSpecial c then
        skip
        return .parameter [c] .value
      else return .char '$'
    | none => return .char '$'

/-- The commands between backquotes. -/
def oldOutput (cs : Commands) (isQuoted : Bool) : Nat → Reader Part
  | 0 => fail "EOF in backquote substitution"
  | n + 1 => do
    let source ← backquoted isQuoted n
    return .output (← cs.whole source)

end

/-! ### Words -/

/-- Whether a character ends a word. -/
def endsWord (c : Char) : Bool :=
  " \t\n;&|<>()".toList.contains c

/-- The parts of a word. In the line that ends a text nothing is replaced. -/
def word (cs : Commands) (isMark : Bool) : Nat → Reader Word
  | 0 => return []
  | n + 1 => do
    match ← peek with
    | none => return []
    | some c =>
      if endsWord c then return []
      skip
      let part : Part ← match c with
        | '\\' => do
          match ← next with
          | some d => pure (.literal [d])
          | none => pure (.literal ['\\'])
        | '\x27' => do pure (.literal (← singleQuoted n))
        | '"' => do pure (.quoted (← quoted cs false n))
        | '$' => if isMark then pure (.char c) else dollar cs false n
        | '\x60' => if isMark then pure (.char c) else oldOutput cs false n
        | c => pure (.char c)
      return part :: (← word cs isMark n)

/-- The text of a word without its quotes, nothing replaced. -/
def markText : Word → Raw
  | [] => []
  | .char c :: rest => c :: markText rest
  | .literal s :: rest => s ++ markText rest
  | .quoted inside :: rest => markText inside ++ markText rest
  | _ :: rest => markText rest

/-! ### Texts in the script -/

/-- The line at the start of bytes, and what follows it. -/
def cutLine (r : Raw) : Raw × Raw :=
  (r.takeWhile (· != '\n'), (r.dropWhile (· != '\n')).drop 1)

/-- Whether the line at a place ends a text; if so, move past it. -/
def skipMark (a : Awaited) : Reader Bool := do
  if a.stripsTabs then modify fun c => { c with rest := c.rest.dropWhile (· = '\t') }
  let c ← get
  let (line, rest) := cutLine c.rest
  if c.rest.isEmpty then return true
  if line = a.mark then
    set { c with rest, line := c.line + 1 }
    return true
  return false

/-- The lines of a text in which nothing is replaced. -/
def plainDocument (a : Awaited) : Nat → Reader Raw
  | 0 => return []
  | n + 1 => do
    if ← skipMark a then return []
    let c ← get
    let (line, rest) := cutLine c.rest
    let hasEnd := line.length < c.rest.length
    set { c with rest, line := if hasEnd then c.line + 1 else c.line }
    return line ++ (if hasEnd then ['\n'] else []) ++ (← plainDocument a n)

/-- The parts of a text in which parameters and outputs are replaced. -/
def document (cs : Commands) (a : Awaited) : Nat → Bool → Reader Word
  | 0, _ => return []
  | n + 1, atStart => do
    if atStart then
      if ← skipMark a then return []
    match ← next with
    | none => return []
    | some '\\' =>
      let parts ← escapedInQuotes fun _ => false
      return parts ++ (← document cs a n false)
    | some '$' =>
      let part ← dollar cs true n
      return part :: (← document cs a n false)
    | some '\x60' =>
      let part ← oldOutput cs true n
      return part :: (← document cs a n false)
    | some c => return .char c :: (← document cs a n (c = '\n'))

/-- Read the texts that start at this place. -/
def documents (cs : Commands) : Reader Unit := do
  let waiting := (← get).awaited
  modify fun c => { c with awaited := [] }
  for a in waiting do
    let limit := (← get).rest.length + 1
    let w ←
      if a.expands then pure [.quoted (← document cs a limit true)]
      else pure [.literal (← plainDocument a limit)]
    modify fun c => { c with documents := c.documents.setIfInBounds a.number w }

/-! ### Tokens -/

/-- The sign of a redirection after `<` or `>`. -/
def redirection (first : Char) (stream : Option Nat) : Reader Token := do
  if first = '>' then
    let n := stream.getD 1
    if ← skipIf '>' then return .redirect n .append
    if ← skipIf '|' then return .redirect n .overwrite
    if ← skipIf '&' then return .redirect n .duplicate
    return .redirect n .write
  else
    let n := stream.getD 0
    if ← skipIf '<' then return .here n (← skipIf '-')
    if ← skipIf '&' then return .redirect n .duplicate
    if ← skipIf '>' then return .redirect n .readWrite
    return .redirect n .read

/-- A word, or the sign of a redirection with the number of its stream. -/
def wordToken (cs : Commands) (isMark : Bool) : Reader Token := do
  let w ← word cs isMark ((← get).rest.length + 1)
  match w, ← peek with
  | [], some c =>
    skip
    redirection c none
  | [.char d], some c =>
    if d.isDigit && (c = '<' || c = '>') then
      skip
      redirection c (some (d.toNat - 48))
    else return .word w
  | w, _ => return .word w

/-- Move past blanks and a comment. -/
def skipBlanks : Nat → Reader Unit
  | 0 => return
  | n + 1 => do
    match ← peek with
    | some ' ' =>
      skip
      skipBlanks n
    | some '\t' =>
      skip
      skipBlanks n
    | some '#' => modify fun c => { c with rest := c.rest.dropWhile (· != '\n') }
    | _ => return

/-- The token at a place. -/
def scan (cs : Commands) (isMark : Bool) : Reader Token := do
  skipBlanks ((← get).rest.length + 1)
  match ← peek with
  | none => return .endOfScript
  | some '\n' =>
    skip
    return .lineEnd
  | some '&' =>
    skip
    return .sign (if ← skipIf '&' then "&&" else "&")
  | some '|' =>
    skip
    return .sign (if ← skipIf '|' then "||" else "|")
  | some ';' =>
    skip
    return .sign (if ← skipIf ';' then ";;" else ";")
  | some '(' =>
    skip
    return .sign "("
  | some ')' =>
    skip
    return .sign ")"
  | some _ => wordToken cs isMark

/-- The words that have a meaning of their own where a command could start. -/
def keywords : List String :=
  ["!", "case", "do", "done", "elif", "else", "esac", "fi", "for", "if", "in", "then", "until", "while",
   "\x7b", "\x7d"]

/-- A word that has a meaning of its own. -/
def asKeyword (t : Token) : Token :=
  match t with
  | .word w =>
    match Word.plain? w with
    | some s => if keywords.contains (.ofList s) then .keyword (.ofList s) else t
    | none => t
  | t => t

/-- Move past line ends, each with the texts that start after it. -/
def skipLineEnds (cs : Commands) : Nat → Token → Reader Token
  | 0, t => return t
  | n + 1, .lineEnd => do
    documents cs
    skipLineEnds cs n (← scan cs false)
  | _, t => return t

/-- What is looked for at a place. -/
structure Wanted where
  skipsLineEnds : Bool := false
  keywords : Bool := false
  /-- whether a word may stand for other words -/
  aliases : Bool := false
  isMark : Bool := false
  deriving Repr, BEq, DecidableEq, Inhabited

/-- The text that a word stands for, if it is to be read in its place. -/
def aliasOf? (t : Token) : Reader (Option (String × Raw)) := do
  let c ← get
  match t with
  | .word w =>
    match Word.plain? w with
    | some name =>
      let name := String.ofList name
      let isSuspended := c.suspended.any fun (s, left) => s = name && left < c.rest.length
      return if isSuspended then none else (c.aliases.get? name).map fun text => (name, text)
    | none => return none
  | _ => return none

/-- Move past a token that is not read from those kept; words that stand for other words are replaced at most
`limit` times. -/
def freshToken (cs : Commands) (wanted : Wanted) : Nat → Reader Token
  | 0 => scan cs wanted.isMark
  | limit + 1 => do
    let t ← scan cs wanted.isMark
    let t ← if wanted.skipsLineEnds then skipLineEnds cs ((← get).rest.length + 1) t else pure t
    let t := if wanted.keywords then asKeyword t else t
    if !wanted.aliases && !wanted.keywords then return t
    match ← aliasOf? t with
    | none => return t
    | some (name, text) =>
      modify fun c => { c with
        rest := text ++ ' ' :: c.rest
        suspended := (name, c.rest.length) :: c.suspended }
      freshToken cs wanted limit

/-- Move past the token at a place. -/
def token (cs : Commands) (wanted : Wanted) : Reader Token := do
  let c ← get
  match c.kept with
  | none => freshToken cs wanted (c.aliases.length + 1)
  | some t =>
    set { c with kept := none }
    let t ← if wanted.skipsLineEnds then skipLineEnds cs (c.rest.length + 1) t else pure t
    return if wanted.keywords then asKeyword t else t

/-- Keep a token that has been read. -/
def keep (t : Token) : Reader Unit :=
  modify fun c => { c with kept := some t }

end Reader

end Stencil.Shell
