import Stencil.Decimal.Reader
import Stencil.Text.Letters
import Stencil.Yaml.Cursor

namespace Stencil.Yaml

/-!
# Tokens of a document

* `Token` — the tokens: structure found from indentation and from indicators, properties, scalars;
* the functions that read one token each: directives, anchors, tags and the styles of scalars.
-/

/-- A tag as it is written: a handle, if there is one, and the text after it. -/
structure TagText where
  handle : Option String
  suffix : String
  deriving Repr, BEq, DecidableEq

/-- A directive of a document. -/
inductive Directive where
  | version (major minor : Nat)
  | tag (handle start : String)
  | reserved
  deriving Repr, BEq, DecidableEq

/-- A token. -/
inductive Token where
  | streamEnd
  | directive (d : Directive)
  | documentStart
  | documentEnd
  | blockSequenceStart
  | blockMappingStart
  | blockEnd
  | flowSequenceStart
  | flowSequenceEnd
  | flowMappingStart
  | flowMappingEnd
  | blockEntry
  | flowEntry
  | key
  | value
  | alias (name : String)
  | anchor (name : String)
  | tag (t : TagText)
  | scalar (text : String) (plain : Bool)
  deriving Repr, BEq, DecidableEq

/-- A letter, digit, hyphen or underscore of the basic Latin block. -/
def isNameChar (c : Char) : Bool :=
  c.isAlphanum || c == '-' || c == '_'

/-- Fail unless a condition holds. -/
def require (b : Bool) : Except Problem Unit :=
  if b then .ok () else .error .malformed

/-! ### Properties -/

/-- The name of an anchor or alias, after its indicator. -/
def readName (c : Cursor) : Except Problem (String × Cursor) := do
  let (name, after) := c.next.span isNameChar
  require (!name.isEmpty)
  let next := after.peek
  require (isBlankOrEnd next || next.any (fun x => "?:,]\x7d%@`".toList.contains x))
  return (.ofList name, after)

/-- A character that may stand in a tag as it is. -/
def isTagChar (c : Char) : Bool :=
  c.isAlphanum || "-;/?:@&=+$,_.!~*\x27()[]".toList.contains c

/-- Percent-coded characters: the bytes and the cursor after them. -/
def readEscapes : Nat → Cursor → Except Problem (List UInt8 × Cursor)
  | 0, c => .ok ([], c)
  | fuel + 1, c =>
    match c.rest with
    | '%' :: a :: b :: _ => do
      match Text.hexValue? a, Text.hexValue? b with
      | some x, some y =>
        let (bytes, after) ← readEscapes fuel (c.skip 3)
        return (UInt8.ofNat (16 * x + y) :: bytes, after)
      | _, _ => .error .malformed
    | '%' :: _ => .error .malformed
    | _ => .ok ([], c)

/-- The text of a tag, with percent-coded characters decoded. -/
def readTagChars : Nat → Cursor → Except Problem (List Char × Cursor)
  | 0, c => .ok ([], c)
  | fuel + 1, c =>
    match c.rest with
    | '%' :: rest => do
      let (bytes, after) ← readEscapes (rest.length + 1) c
      match String.fromUTF8? ⟨bytes.toArray⟩ with
      | none => .error .malformed
      | some s =>
        let (more, after) ← readTagChars fuel after
        return (s.toList ++ more, after)
    | x :: _ =>
      if isTagChar x then do
        let (more, after) ← readTagChars fuel c.next
        return (x :: more, after)
      else .ok ([], c)
    | [] => .ok ([], c)

/-- The text of a tag, which must not be empty. -/
def readTagUri (c : Cursor) : Except Problem (String × Cursor) := do
  let (text, after) ← readTagChars (c.rest.length + 1) c
  require (!text.isEmpty)
  return (.ofList text, after)

/-- The handle of a tag: one exclamation mark, or a name between two. -/
def readTagHandle (c : Cursor) : Except Problem (String × Cursor) := do
  require (c.peek == some '!')
  if c.peek 1 == some ' ' then return ("!", c.next)
  let (name, after) := c.next.span isNameChar
  if after.peek == some '!' then return (.ofList ('!' :: name ++ ['!']), after.next)
  else .error .malformed

/-- A tag. -/
def readTag (c : Cursor) : Except Problem (TagText × Cursor) := do
  let next := c.peek 1
  let (tag, after) ←
    if next == some '<' then do
      let (suffix, after) ← readTagUri (c.skip 2)
      require (after.peek == some '>')
      pure (⟨none, suffix⟩, after.next)
    else if isBlankOrEnd next then pure (⟨none, "!"⟩, c.next)
    else do
      -- An exclamation mark further on ends a handle; without one, the first mark is the whole handle.
      let ahead := (c.rest.drop 1).takeWhile fun x => !isSpaceOrEnd (some x)
      let (handle, after) ← if ahead.contains '!' then readTagHandle c else pure ("!", c.next)
      let (suffix, after) ← readTagUri after
      pure (⟨some handle, suffix⟩, after)
  require (isSpaceOrEnd after.peek)
  return (tag, after)

/-! ### Directives -/

/-- A number of a version. -/
def readVersionNumber (c : Cursor) : Except Problem (Nat × Cursor) := do
  let (ds, after) := c.span Char.isDigit
  require (!ds.isEmpty)
  return (Decimal.ofDigits 10 (ds.map fun d => d.toNat - 48), after)

/-- Nothing but a comment up to the end of the line. -/
def readRestOfLine (c : Cursor) : Except Problem Cursor := do
  let c := c.skipSpaces
  let c := if c.peek == some '#' then c.skipWhile (!isBreak ·) else c
  require (isBreakOrEnd c.peek)
  return c.lineBreak.2

/-- A directive, up to the end of its line. -/
def readDirective (c : Cursor) : Except Problem (Directive × Cursor) := do
  let (name, c) := c.next.span isNameChar
  require (!name.isEmpty)
  require (isSpaceOrEnd c.peek)
  let (d, c) ←
    if name == "YAML".toList then do
      let (major, c) ← readVersionNumber c.skipSpaces
      require (c.peek == some '.')
      let (minor, c) ← readVersionNumber c.next
      require (isSpaceOrEnd c.peek)
      pure (Directive.version major minor, c)
    else if name == "TAG".toList then do
      let (handle, c) ← readTagHandle c.skipSpaces
      require (c.peek == some ' ')
      let (start, c) ← readTagUri c.skipSpaces
      require (isSpaceOrEnd c.peek)
      pure (Directive.tag handle start, c)
    else pure (Directive.reserved, c.skipWhile (!isBreak ·))
  let c ← readRestOfLine c
  return (d, c)

/-! ### Block scalars -/

/-- What happens to the line ends at the end of a block scalar. -/
inductive Chomping where
  | strip
  | clip
  | keep
  deriving BEq

/-- The chomping and the indentation given in the header of a block scalar, in either order. -/
def readBlockHeader (c : Cursor) : Except Problem (Chomping × Option Nat × Cursor) := do
  let sign (c : Cursor) : Option Chomping × Cursor :=
    if c.peek == some '+' then (some .keep, c.next)
    else if c.peek == some '-' then (some .strip, c.next)
    else (none, c)
  let digit (c : Cursor) : Except Problem (Option Nat × Cursor) :=
    match c.peek with
    | some d =>
      if d == '0' then .error .malformed
      else if d.isDigit then .ok (some (d.toNat - 48), c.next)
      else .ok (none, c)
    | none => .ok (none, c)
  let (first, c) := sign c
  let (increment, c) ← digit c
  -- The sign may stand behind the digit, but there is only one.
  let (second, c) := if first.isNone && increment.isSome then sign c else (none, c)
  require (isSpaceOrEnd c.peek)
  let c ← readRestOfLine c
  return ((first <|> second).getD .clip, increment, c)

/-- Empty lines before the text of a block scalar: their line ends, the deepest indentation seen and the
cursor after them. -/
def readLeadingLines : Nat → Nat → Cursor → List Char × Nat × Cursor
  | 0, deepest, c => ([], deepest, c)
  | fuel + 1, deepest, c =>
    match c.peek with
    | some ' ' =>
      let c := c.next
      readLeadingLines fuel (max deepest c.column) c
    | some _ =>
      match c.lineBreak with
      | (some b, c) =>
        let (breaks, deepest, c) := readLeadingLines fuel deepest c
        (b :: breaks, deepest, c)
      | (none, c) => ([], deepest, c)
    | none => ([], deepest, c)

/-- The cursor after the indentation of a line. -/
def skipIndent (indent : Nat) : Nat → Cursor → Cursor
  | 0, c => c
  | fuel + 1, c =>
    if c.column < indent && c.peek == some ' ' then skipIndent indent fuel c.next else c

/-- The line ends of empty lines inside a block scalar. -/
def readBreaks (indent : Nat) : Nat → Cursor → List Char × Cursor
  | 0, c => ([], c)
  | fuel + 1, c =>
    let c := skipIndent indent c.rest.length c
    match c.lineBreak with
    | (some b, c) =>
      let (breaks, c) := readBreaks indent fuel c
      (b :: breaks, c)
    | (none, c) => ([], c)

/-- The lines of a block scalar: the text, the line end after its last line, the line ends of the empty
lines after it, and the cursor. -/
def readBlockLines (folded : Bool) (indent : Nat) :
    Nat → List Char → Cursor → List Char × List Char × List Char × Cursor
  | 0, breaks, c => ([], [], breaks, c)
  | fuel + 1, breaks, c =>
    if c.column == indent && c.peek.isSome then
      let isSpace (x : Option Char) := x == some ' ' || x == some '\t'
      let startsWithText := !isSpace c.peek
      let (line, after) := c.span (!isBreak ·)
      let (lineEnd, after) := after.lineBreak
      let lineEnd := lineEnd.toList
      let (nextBreaks, after) := readBreaks indent (after.rest.length + 1) after
      if after.column == indent && after.peek.isSome then
        -- Folding joins two lines of text; next to a line that starts with a blank, line ends stay.
        let glue :=
          if folded && lineEnd == ['\n'] && startsWithText && !isSpace after.peek then
            if nextBreaks.isEmpty then [' '] else []
          else lineEnd
        let (text, last, trailing, after) := readBlockLines folded indent fuel nextBreaks after
        (breaks ++ line ++ glue ++ text, last, trailing, after)
      else (breaks ++ line, lineEnd, nextBreaks, after)
    else ([], [], breaks, c)

/-- A block scalar inside a block of a given indentation (`-1` outside all blocks). -/
def readBlockScalar (outer : Int) (folded : Bool) (c : Cursor) : Except Problem (String × Cursor) := do
  let (chomping, increment, c) ← readBlockHeader c.next
  let least := (max (outer + 1) 1).toNat
  let (breaks, indent, c) :=
    match increment with
    | none =>
      let (breaks, deepest, c) := readLeadingLines (c.rest.length + 1) 0 c
      (breaks, max least deepest, c)
    | some n =>
      -- An indentation that is given counts from the block around the scalar.
      let indent := least + n - 1
      let (breaks, c) := readBreaks indent (c.rest.length + 1) c
      (breaks, indent, c)
  let (text, lineEnd, trailing, c) := readBlockLines folded indent (c.rest.length + 1) breaks c
  let ending := match chomping with
    | .strip => []
    | .clip => lineEnd
    | .keep => lineEnd ++ trailing
  return (.ofList (text ++ ending), c)

/-! ### Quoted scalars -/

/-- The character of an escape of one letter. -/
def escapes : List (Char × Char) :=
  [('0', '\x00'), ('a', '\x07'), ('b', '\x08'), ('t', '\t'), ('\t', '\t'), ('n', '\n'),
   ('v', '\x0b'), ('f', '\x0c'), ('r', '\r'), ('e', '\x1b'), (' ', ' '), ('"', '"'), ('\\', '\\'),
   ('/', '/'), ('N', '\u0085'), ('_', '\u00a0'), ('L', '\u2028'), ('P', '\u2029')]

/-- The number of hexadecimal digits of an escape by number. -/
def escapeWidth? (c : Char) : Option Nat :=
  if c == 'x' then some 2 else if c == 'u' then some 4 else if c == 'U' then some 8 else none

/-- Line ends inside a quoted scalar; no document may start or end there. -/
def readQuotedBreaks : Nat → Cursor → Except Problem (List Char × Cursor)
  | 0, c => .ok ([], c)
  | fuel + 1, c => do
    require (!c.atDocumentMarker)
    let c := c.skipWhile fun x => x == ' ' || x == '\t'
    match c.lineBreak with
    | (some b, c) =>
      let (breaks, c) ← readQuotedBreaks fuel c
      return (b :: breaks, c)
    | (none, c) => return ([], c)

/-- A line end folded together with the empty lines after it. -/
def foldBreaks (first : Char) (breaks : List Char) : List Char :=
  if first != '\n' then first :: breaks
  else if breaks.isEmpty then [' '] else breaks

/-- The text of a quoted scalar up to its closing quote. -/
def readQuotedText (double : Bool) : Nat → Cursor → Except Problem (List Char × Cursor)
  | 0, _ => .error .malformed
  | fuel + 1, c => do
    let continueWith (text : List Char) (c : Cursor) : Except Problem (List Char × Cursor) := do
      let (more, c) ← readQuotedText double fuel c
      return (text ++ more, c)
    match c.rest with
    | [] => .error .malformed
    | '\x27' :: rest =>
      if double then continueWith ['\x27'] c.next
      -- Two single quotes stand for one.
      else if rest.head? == some '\x27' then continueWith ['\x27'] (c.skip 2)
      else return ([], c.next)
    | '"' :: _ => if double then return ([], c.next) else continueWith ['"'] c.next
    | '\\' :: rest =>
      if !double then continueWith ['\\'] c.next
      else match rest with
        | [] => .error .malformed
        | e :: digits =>
          match escapes.lookup e with
          | some x => continueWith [x] (c.skip 2)
          | none =>
            match escapeWidth? e with
            | some width =>
              let ds := digits.take width
              let values := ds.filterMap Text.hexValue?
              require (values.length == width)
              let code := Decimal.ofDigits 16 values
              if code ≥ 0x110000 then .error (.value .wrongValue)
              else continueWith [Char.ofNat code] (c.skip (2 + width))
            | none =>
              -- A line end that is escaped is left out, but the empty lines after it are not.
              require (isBreak e)
              let c := c.next.lineBreak.2
              let (breaks, c) ← readQuotedBreaks (c.rest.length + 1) c
              continueWith breaks c
    | x :: _ =>
      if x == ' ' || x == '\t' || isBreak x then
        let (spaces, c) := c.span fun x => x == ' ' || x == '\t'
        match c.lineBreak with
        | (some b, c) =>
          let (breaks, c) ← readQuotedBreaks (c.rest.length + 1) c
          continueWith (foldBreaks b breaks) c
        | (none, c) => continueWith spaces c
      else
        let (text, c) := c.span fun x =>
          !(x == '\x27' || x == '"' || x == '\\' || x == ' ' || x == '\t' || isBreak x)
        continueWith text c

/-- A quoted scalar. -/
def readQuoted (double : Bool) (c : Cursor) : Except Problem (String × Cursor) := do
  let (text, c) ← readQuotedText double (c.rest.length + 1) c.next
  return (.ofList text, c)

/-! ### Plain scalars -/

/-- A character that has a meaning of its own inside flow collections. -/
def isFlowIndicator (c : Char) : Bool :=
  c == ',' || c == '[' || c == ']' || c == '{' || c == '}'

/-- The characters of a plain scalar up to a blank or an indicator. -/
def plainRun (flow : Bool) : List Char → List Char
  | [] => []
  | x :: rest =>
    if isBlankOrEnd (some x) then []
    -- A colon ends the run only where it would be the indicator of a value.
    else if x == ':' && (isBlankOrEnd rest.head? || (flow && rest.head?.any isFlowIndicator)) then []
    else if flow && (x == '?' || isFlowIndicator x) then []
    else x :: plainRun flow rest

/-- Line ends after a line of a plain scalar: the line ends, whether a document marker stopped them, and
the cursor. -/
def readPlainBreaks : Nat → Cursor → List Char × Bool × Cursor
  | 0, c => ([], false, c)
  | fuel + 1, c =>
    match c.peek with
    | some ' ' => readPlainBreaks fuel c.next
    | _ =>
      match c.lineBreak with
      | (some b, c) =>
        if c.atDocumentMarker then ([b], true, c)
        else
          let (breaks, stopped, c) := readPlainBreaks fuel c
          (b :: breaks, stopped, c)
      | (none, c) => ([], false, c)

/-- The white space after a run of a plain scalar: what it contributes if the scalar goes on, whether it
holds a line end, and the cursor. -/
def readPlainSpaces (c : Cursor) : Option (List Char) × Bool × Cursor :=
  let (spaces, c) := c.span (· == ' ')
  match c.lineBreak with
  | (some b, c) =>
    if c.atDocumentMarker then (none, true, c)
    else
      let (breaks, stopped, c) := readPlainBreaks (c.rest.length + 1) c
      if stopped then (none, true, c) else (some (foldBreaks b breaks), true, c)
  | (none, c) => (if spaces.isEmpty then none else some spaces, false, c)

/-- The runs of a plain scalar: the text, whether its last white space holds a line end, and the
cursor. `pending` is the white space before the next run. -/
def readPlainRuns (flow : Bool) (indent : Int) : Nat → List Char → Bool → Cursor →
    List Char × Bool × Cursor
  | 0, _, broken, c => ([], broken, c)
  | fuel + 1, pending, broken, c =>
    let run := plainRun flow c.rest
    if c.peek == some '#' || run.isEmpty then ([], broken, c)
    else
      let (spaces, broken, after) := readPlainSpaces (c.skip run.length)
      match spaces with
      | none => (pending ++ run, broken, after)
      | some spaces =>
        -- A comment ends the scalar, and so does, outside of flow collections, a line with too little indentation.
        if after.peek == some '#' || (!flow && after.column < indent) then
          (pending ++ run, broken, after)
        else
          let (text, broken, after) := readPlainRuns flow indent fuel spaces broken after
          (pending ++ run ++ text, broken, after)

/-- A plain scalar, and whether a simple key may follow because its last white space holds a line
end. -/
def readPlain (flow : Bool) (indent : Int) (c : Cursor) : String × Bool × Cursor :=
  let (text, broken, c) := readPlainRuns flow indent (c.rest.length + 1) [] false c
  (.ofList text, broken, c)

end Stencil.Yaml
