import Stencil.Yaml.Token

namespace Stencil.Yaml

/-!
# The token stream of a document

Indentation and indicators open and close blocks. A token at which a simple key may start is
remembered; if a value indicator follows on the same line and not too far away, a key token is inserted
before it.

* `Token.scan` — all tokens of a text.
-/

/-- A place where a simple key may start: before which token, and where in the text. -/
structure PossibleKey where
  position : Nat
  required : Bool
  index : Nat
  line : Nat
  column : Nat

/-- The state of the scan. -/
structure Scan where
  cursor : Cursor
  tokens : Array Token := #[]
  /-- the nesting of flow collections -/
  flow : Nat := 0
  /-- the column of the current block, `-1` outside all blocks -/
  indent : Int := -1
  outer : List Int := []
  keyAllowed : Bool := true
  /-- possible keys by flow nesting -/
  keys : List (Nat × PossibleKey) := []

namespace Scan

/-- Add a token. -/
def push (s : Scan) (t : Token) : Scan :=
  { s with tokens := s.tokens.push t }

/-- Close the blocks deeper than a column. -/
def unwind (s : Scan) (column : Int) : Scan :=
  -- Inside flow collections, indentation has no meaning.
  if s.flow > 0 then s
  else
    let closed := (s.indent :: s.outer).takeWhile (· > column)
    let rest := (s.indent :: s.outer).drop closed.length
    { s with
      tokens := s.tokens ++ (closed.map fun _ => Token.blockEnd).toArray
      indent := rest.head?.getD (-1)
      outer := rest.drop 1 }

/-- Open a block at a column if it is deeper than the current one. -/
def openBlock (s : Scan) (column : Nat) : Bool × Scan :=
  if s.indent < column then (true, { s with outer := s.indent :: s.outer, indent := column })
  else (false, s)

/-- Forget the possible key of the current flow nesting; one that had to be a key must not be
forgotten. -/
def dropKey (s : Scan) : Except Problem Scan := do
  match s.keys.lookup s.flow with
  | some key =>
    require (!key.required)
    return { s with keys := s.keys.filter (·.1 != s.flow) }
  | none => return s

/-- Forget the possible keys that are on another line or too far away. -/
def dropStaleKeys (s : Scan) : Except Problem Scan := do
  let isStale (key : PossibleKey) := key.line != s.cursor.line || s.cursor.index - key.index > 1024
  require (s.keys.all fun (_, key) => !(isStale key && key.required))
  return { s with keys := s.keys.filter fun (_, key) => !isStale key }

/-- Remember that a simple key may start here. -/
def saveKey (s : Scan) : Except Problem Scan := do
  if !s.keyAllowed then return s
  let s ← s.dropKey
  let key : PossibleKey :=
    { position := s.tokens.size
      -- What stands at the indentation of the current block has to be a key.
      required := s.flow == 0 && s.indent == (s.cursor.column : Int)
      index := s.cursor.index, line := s.cursor.line, column := s.cursor.column }
  return { s with keys := (s.flow, key) :: s.keys }

/-- Insert a token before the token at a position. -/
def insertAt (s : Scan) (position : Nat) (t : Token) : Scan :=
  { s with tokens := (s.tokens.extract 0 position).push t ++ s.tokens.extract position s.tokens.size }

/-- Skip blanks, comments and line ends before the next token. -/
def skipToToken : Nat → Scan → Scan
  | 0, s => s
  | fuel + 1, s =>
    let c := s.cursor.skipSpaces
    let c := if c.peek == some '#' then c.skipWhile (!isBreak ·) else c
    match c.lineBreak with
    -- After a line end a simple key may start again, except inside flow collections.
    | (some _, c) => skipToToken fuel { s with cursor := c, keyAllowed := s.keyAllowed || s.flow == 0 }
    | (none, c) => { s with cursor := c }

/-- Add a token of a number of characters. -/
def take (s : Scan) (length : Nat) (t : Token) : Scan :=
  { s with cursor := s.cursor.skip length, tokens := s.tokens.push t }

/-- The start or end of a document. -/
def documentMarker (s : Scan) (t : Token) : Except Problem Scan := do
  let s ← (s.unwind (-1)).dropKey
  return { s.take 3 t with keyAllowed := false }

/-- The start of a flow collection. -/
def openFlow (s : Scan) (t : Token) : Except Problem Scan := do
  let s ← s.saveKey
  return { s.take 1 t with flow := s.flow + 1, keyAllowed := true }

/-- The end of a flow collection; there must be one to end. -/
def closeFlow (s : Scan) (t : Token) : Except Problem Scan := do
  let s ← s.dropKey
  require (s.flow > 0)
  return { s.take 1 t with flow := s.flow - 1, keyAllowed := false }

/-- An item of a block sequence. -/
def blockEntry (s : Scan) : Except Problem Scan := do
  let s ← if s.flow > 0 then pure s else do
    require s.keyAllowed
    let (opened, s) := s.openBlock s.cursor.column
    pure (if opened then s.push .blockSequenceStart else s)
  let s ← { s with keyAllowed := true }.dropKey
  return s.take 1 .blockEntry

/-- The indicator of a key that is no simple one. -/
def complexKey (s : Scan) : Except Problem Scan := do
  let s ← if s.flow > 0 then pure s else do
    require s.keyAllowed
    let (opened, s) := s.openBlock s.cursor.column
    pure (if opened then s.push .blockMappingStart else s)
  let s ← { s with keyAllowed := s.flow == 0 }.dropKey
  return s.take 1 .key

/-- The indicator of a value, which turns the possible key before it into a key. -/
def valueIndicator (s : Scan) : Except Problem Scan := do
  match s.keys.lookup s.flow with
  | some key =>
    let s := { s with keys := s.keys.filter (·.1 != s.flow), keyAllowed := false }
    -- The key first: the start of a block is inserted at the same position and so comes before it.
    let s := s.insertAt key.position .key
    let s :=
      if s.flow > 0 then s
      else
        let (opened, s) := s.openBlock key.column
        if opened then s.insertAt key.position .blockMappingStart else s
    return s.take 1 .value
  | none =>
    let s ← if s.flow > 0 then pure s else do
      require s.keyAllowed
      let (opened, s) := s.openBlock s.cursor.column
      pure (if opened then s.push .blockMappingStart else s)
    let s ← { s with keyAllowed := s.flow == 0 }.dropKey
    return s.take 1 .value

/-- A token that may be or start a simple key. -/
def property (s : Scan) (read : Cursor → Except Problem (Token × Cursor)) : Except Problem Scan := do
  let s ← s.saveKey
  let (t, c) ← read s.cursor
  return { s with cursor := c, tokens := s.tokens.push t, keyAllowed := false }

/-- A block scalar. -/
def blockScalar (s : Scan) (folded : Bool) : Except Problem Scan := do
  let s ← { s with keyAllowed := true }.dropKey
  let (text, c) ← readBlockScalar s.indent folded s.cursor
  return { s with cursor := c, tokens := s.tokens.push (.scalar text false) }

/-- A plain scalar. -/
def plainScalar (s : Scan) : Except Problem Scan := do
  let s ← s.saveKey
  let (text, broken, c) := readPlain (s.flow > 0) (s.indent + 1) s.cursor
  return { s with cursor := c, tokens := s.tokens.push (.scalar text true), keyAllowed := broken }

/-- Whether a plain scalar may start at the cursor. -/
def startsPlain (s : Scan) : Bool :=
  match s.cursor.peek with
  | none => false
  | some c =>
    !(isBlankOrEnd (some c) || "-?:,[]\x7b\x7d#&*!|>\x27\"%@`".toList.contains c) ||
      (!isBlankOrEnd (s.cursor.peek 1) && (c == '-' || (s.flow == 0 && (c == '?' || c == ':'))))

/-- The next token; the result also says whether the stream goes on. -/
def step (s : Scan) : Except Problem (Bool × Scan) := do
  let s ← (skipToToken (s.cursor.rest.length + 1) s).dropStaleKeys
  let s := s.unwind s.cursor.column
  let c := s.cursor
  let blankAfter := isBlankOrEnd (c.peek 1)
  let goOn (r : Except Problem Scan) : Except Problem (Bool × Scan) := r.map fun s => (true, s)
  match c.peek with
  | none =>
    let s ← (s.unwind (-1)).dropKey
    return (false, s.push .streamEnd)
  | some x =>
    if x == '%' && c.column == 0 then
      goOn do
        let s ← (s.unwind (-1)).dropKey
        let (d, c) ← readDirective s.cursor
        return { s with cursor := c, tokens := s.tokens.push (.directive d), keyAllowed := false }
    else if c.column == 0 && c.atMarker '-' then goOn (s.documentMarker .documentStart)
    else if c.column == 0 && c.atMarker '.' then goOn (s.documentMarker .documentEnd)
    else if x == '[' then goOn (s.openFlow .flowSequenceStart)
    else if x == '{' then goOn (s.openFlow .flowMappingStart)
    else if x == ']' then goOn (s.closeFlow .flowSequenceEnd)
    else if x == '}' then goOn (s.closeFlow .flowMappingEnd)
    else if x == ',' then
      goOn do
        let s ← { s with keyAllowed := true }.dropKey
        return s.take 1 .flowEntry
    -- These indicators count before a blank only; the last two count anywhere inside flow collections.
    else if x == '-' && blankAfter then goOn s.blockEntry
    else if x == '?' && (s.flow > 0 || blankAfter) then goOn s.complexKey
    else if x == ':' && (s.flow > 0 || blankAfter) then goOn s.valueIndicator
    else if x == '*' then
      goOn (s.property fun c => do
        let (name, c) ← readName c
        return (.alias name, c))
    else if x == '&' then
      goOn (s.property fun c => do
        let (name, c) ← readName c
        return (.anchor name, c))
    else if x == '!' then
      goOn (s.property fun c => do
        let (tag, c) ← readTag c
        return (.tag tag, c))
    else if x == '|' && s.flow == 0 then goOn (s.blockScalar false)
    else if x == '>' && s.flow == 0 then goOn (s.blockScalar true)
    else if x == '\x27' || x == '"' then
      goOn (s.property fun c => do
        let (text, c) ← readQuoted (x == '"') c
        return (.scalar text false, c))
    else if s.startsPlain then goOn s.plainScalar
    else .error .malformed

/-- The remaining tokens; every token but the last takes at least one character. -/
def run : Nat → Scan → Except Problem (Array Token)
  | 0, _ => .error .malformed
  | fuel + 1, s => do
    let (more, s) ← s.step
    if more then run fuel s else return s.tokens

end Scan

/-- A character that may occur in a document. -/
def isDocumentChar (c : Char) : Bool :=
  let n := c.toNat
  n == 9 || n == 10 || n == 13 || (0x20 ≤ n && n ≤ 0x7E) || n == 0x85 || (0xA0 ≤ n && n ≤ 0xD7FF) ||
    (0xE000 ≤ n && n ≤ 0xFFFD) || 0x10000 ≤ n

/-- The tokens of a text. -/
def Token.scan (text : List Char) : Except Problem (List Token) := do
  require (text.all isDocumentChar)
  let start : Cursor := { rest := text }
  let start := if start.peek == some '\uFEFF' then start.next else start
  let tokens ← Scan.run (text.length + 2) { cursor := start }
  return tokens.toList

end Stencil.Yaml
