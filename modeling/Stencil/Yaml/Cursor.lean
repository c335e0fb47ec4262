import Stencil.Fault

namespace Stencil.Yaml

/-!
# Reading position in a document

* `Problem` — why a document cannot be read;
* `Cursor` — the rest of the text with its position;
* `isBreak`, `isBlankOrEnd` — the classes of characters that the syntax is made of.
-/

/-- Why a document cannot be read: it is malformed, or one of its scalars denotes no value. -/
inductive Problem where
  | malformed
  | value (kind : Foreign)
  deriving Repr, BEq, DecidableEq

/-- The rest of a text and the position where it starts. -/
structure Cursor where
  rest : List Char
  index : Nat := 0
  line : Nat := 0
  column : Nat := 0

/-- A character that ends a line. -/
def isBreak (c : Char) : Bool :=
  c == '\n' || c == '\r' || c == '\x85' || c == '\u2028' || c == '\u2029'

/-- A line end or the end of the text. -/
def isBreakOrEnd : Option Char → Bool
  | none => true
  | some c => isBreak c

/-- A space, a tab, a line end or the end of the text. -/
def isBlankOrEnd : Option Char → Bool
  | none => true
  | some c => c == ' ' || c == '\t' || isBreak c

/-- A space, a line end or the end of the text. -/
def isSpaceOrEnd : Option Char → Bool
  | none => true
  | some c => c == ' ' || isBreak c

namespace Cursor

/-- The character `k` places ahead. -/
def peek (c : Cursor) (k : Nat := 0) : Option Char :=
  c.rest[k]?

/-- The cursor after the next character. A byte order mark takes no column. -/
def next (c : Cursor) : Cursor :=
  match c.rest with
  | [] => c
  | x :: rest =>
    if isBreak x && !(x == '\r' && rest.head? == some '\n') then
      { rest, index := c.index + 1, line := c.line + 1, column := 0 }
    else
      { rest, index := c.index + 1, line := c.line
        column := if x == '\uFEFF' then c.column else c.column + 1 }

/-- The cursor `n` characters further. -/
def skip (c : Cursor) : Nat → Cursor
  | 0 => c
  | n + 1 => c.next.skip n

/-- The characters of a class at the cursor, and the cursor after them. -/
def span (c : Cursor) (p : Char → Bool) : List Char × Cursor :=
  let taken := c.rest.takeWhile p
  (taken, c.skip taken.length)

/-- The cursor after the characters of a class. -/
def skipWhile (c : Cursor) (p : Char → Bool) : Cursor :=
  (c.span p).2

/-- The cursor after spaces. -/
def skipSpaces (c : Cursor) : Cursor :=
  c.skipWhile (· == ' ')

/-- The line end at the cursor as it counts in a text, and the cursor after it. -/
def lineBreak (c : Cursor) : Option Char × Cursor :=
  match c.rest with
  | '\r' :: '\n' :: _ => (some '\n', c.skip 2)
  | x :: _ =>
    if x == '\u2028' || x == '\u2029' then (some x, c.next)
    else if isBreak x then (some '\n', c.next)
    else (none, c)
  | [] => (none, c)

/-- Whether three given characters and then a blank or the end stand at the cursor. -/
def atMarker (c : Cursor) (mark : Char) : Bool :=
  c.peek 0 == some mark && c.peek 1 == some mark && c.peek 2 == some mark && isBlankOrEnd (c.peek 3)

/-- Whether a document starts or ends at the cursor, which stands at the start of a line. -/
def atDocumentMarker (c : Cursor) : Bool :=
  c.atMarker '-' || c.atMarker '.'

end Cursor

end Stencil.Yaml
