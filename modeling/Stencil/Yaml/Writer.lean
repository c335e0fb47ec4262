import Stencil.Text.Quoted
import Stencil.Yaml.Scalar

namespace Stencil.Yaml

/-!
# Writing documents

Mappings and sequences are written in block style, a sequence inside a mapping without further
indentation; empty collections are written with brackets. A text is plain where it reads back as the
same text, in single quotes where that is possible, and in double quotes otherwise. Lines are folded at
spaces once they pass the eightieth column.

* `Tree` — the documents that are written;
* `Style` — the ways to write a text, and `styleOf`, which chooses one;
* `write` — the text of a document.
-/

/-- A document made of texts, truth values, sequences and mappings. -/
inductive Tree where
  | text (s : String)
  | bool (b : Bool)
  | seq (items : List Tree)
  | map (pairs : List (String × Tree))

instance : Inhabited Tree := ⟨.bool false⟩

/-- How a text is written. -/
inductive Style where
  | plain
  | single
  | double
  deriving Repr, BEq, DecidableEq

/-- A line end as the writer knows them. -/
def isWriterBreak (c : Char) : Bool :=
  c == '\n' || c == '\x85' || c == '\u2028' || c == '\u2029'

/-- A character that needs an escape; beyond the basic block that depends on whether characters are
written as they are. -/
def isSpecial (unicode : Bool) (c : Char) : Bool :=
  let n := c.toNat
  if c == '\n' || (0x20 ≤ n && n ≤ 0x7E) then false
  else if (n == 0x85 || (0xA0 ≤ n && n ≤ 0xD7FF) || (0xE000 ≤ n && n ≤ 0xFFFD) ||
      (0x10000 ≤ n && n < 0x10FFFF)) && n != 0xFEFF then !unicode
  else true

/-- Whether two neighbours in a text satisfy a predicate. -/
def anyNeighbours (p : Char → Char → Bool) : List Char → Bool
  | a :: b :: rest => p a b || anyNeighbours p (b :: rest)
  | _ => false

/-- Whether an indicator keeps a text from being plain: at its start, before a blank after a colon, or
after a blank before a number sign. -/
def hasIndicator (s : List Char) : Bool :=
  let starts (m : String) := (Text.stripPrefix? m.toList s).isSome
  let first :=
    match s with
    | [] => false
    | c :: rest =>
      "#,[]\x7b\x7d&*!|>\x27\"%@`".toList.contains c ||
        ((c == '?' || c == ':' || c == '-') && isBlankOrEnd rest.head?)
  let colon := anyNeighbours (fun a b => a == ':' && isBlankOrEnd (some b)) s || s.getLast? == some ':'
  let comment := anyNeighbours (fun a b => b == '#' && isBlankOrEnd (some a)) s
  starts "---" || starts "..." || first || colon || comment

/-- Whether a text is written on more than one line. -/
def isMultiline (s : List Char) : Bool :=
  s.any isWriterBreak

/-- Whether a text can be plain in a block. -/
def allowsPlain (unicode : Bool) (s : List Char) : Bool :=
  let isEdge (c : Char) := c == ' ' || isWriterBreak c
  s.isEmpty ||
    !(s.head?.any isEdge || s.getLast?.any isEdge || s.any (isSpecial unicode) || isMultiline s ||
      hasIndicator s)

/-- Whether a text can stand in single quotes: no escape is needed, and no space is next to a line
end. -/
def allowsSingle (unicode : Bool) (s : List Char) : Bool :=
  !(s.any (isSpecial unicode) ||
    anyNeighbours (fun a b => (a == ' ' && isWriterBreak b) || (isWriterBreak a && b == ' ')) s)

/-- The style of a text; `isKey` says whether it is a simple key. -/
def styleOf (unicode isKey : Bool) (s : List Char) : Style :=
  let multiline := isMultiline s
  if Tag.ofPlain s == .str && !(isKey && (s.isEmpty || multiline)) && allowsPlain unicode s then .plain
  else if allowsSingle unicode s && !(isKey && multiline) then .single
  else .double

/-! ### The page -/

/-- What has been written: the characters in reverse, the column, whether the last thing written was
white space, and whether the line holds nothing but indentation. -/
structure Page where
  reversed : List Char := []
  column : Nat := 0
  whitespace : Bool := true
  indention : Bool := true

/-- The column after which lines are folded. -/
def bestWidth : Nat := 80

namespace Page

/-- Write characters on the current line. -/
def put (p : Page) (s : List Char) : Page :=
  { p with reversed := s.reverse ++ p.reversed, column := p.column + s.length }

/-- End the current line. -/
def newline (p : Page) (c : Char := '\n') : Page :=
  { reversed := c :: p.reversed, column := 0, whitespace := true, indention := true }

/-- Start a line at an indentation, unless the current one is there already. -/
def indentTo (p : Page) (indent : Nat) : Page :=
  let p :=
    if !p.indention || p.column > indent || (p.column == indent && !p.whitespace) then p.newline else p
  if p.column < indent then
    { p.put (List.replicate (indent - p.column) ' ') with whitespace := true }
  else p

/-- Write an indicator, with a space before it where one is needed. -/
def indicator (p : Page) (s : List Char) (spaced : Bool) (keepsIndention : Bool := false) : Page :=
  let p' := p.put (if p.whitespace || !spaced then s else ' ' :: s)
  { p' with whitespace := false, indention := p.indention && keepsIndention }

end Page

/-- Runs of characters of a text that agree in a property. -/
def runs (same : Char → Char → Bool) : List Char → List (List Char)
  | [] => []
  | c :: rest =>
    match runs same rest with
    | [] => [[c]]
    | [] :: more => [c] :: more
    | (d :: run) :: more => if same c d then (c :: d :: run) :: more else [c] :: (d :: run) :: more

/-- Write a plain text: a single space beyond the width becomes a line end. -/
def writePlain (indent : Nat) (split : Bool) (s : List Char) (p : Page) : Page :=
  if s.isEmpty then p
  else
    let p := if p.whitespace then p else p.put [' ']
    let p := { p with whitespace := false, indention := false }
    (runs (fun a b => (a == ' ') == (b == ' ')) s).foldl
      (fun p run =>
        if run == [' '] && p.column > bestWidth && split then
          { p.indentTo indent with whitespace := false, indention := false }
        else p.put run) p

/-- The kinds of characters that a single-quoted text is cut into. -/
def quotedClass (c : Char) : Nat :=
  if c == ' ' then 0 else if isWriterBreak c then 1 else 2

/-- Write a text in single quotes: quotes are doubled, a line end is written as an empty line, and a
single space inside beyond the width becomes a line end. -/
def writeSingle (indent : Nat) (split : Bool) (s : List Char) (p : Page) : Page :=
  let pieces := runs (fun a b => quotedClass a == quotedClass b) s
  let count := pieces.length
  let step : Page × Nat → List Char → Page × Nat := fun (p, i) run =>
    let p :=
      match run with
      | c :: _ =>
        if isWriterBreak c then
          let p := if c == '\n' then p.newline else p
          (run.foldl (fun p b => p.newline b) p).indentTo indent
        else if run == [' '] && p.column > bestWidth && split && i != 0 && i + 1 != count then
          p.indentTo indent
        else if c == ' ' then p.put run
        else p.put (run.flatMap fun c => if c == '\x27' then ['\x27', '\x27'] else [c])
      | [] => p
    (p, i + 1)
  let (p, _) := pieces.foldl step (p.indicator ['\x27'] true, 0)
  p.indicator ['\x27'] false

/-- The letters of escapes in double quotes. -/
def escapeLetters : List (Char × Char) :=
  [('\x00', '0'), ('\x07', 'a'), ('\x08', 'b'), ('\t', 't'), ('\n', 'n'), ('\x0b', 'v'),
   ('\x0c', 'f'), ('\r', 'r'), ('\x1b', 'e'), ('"', '"'), ('\\', '\\'), ('\u0085', 'N'),
   ('\u00a0', '_'), ('\u2028', 'L'), ('\u2029', 'P')]

/-- Upper case hexadecimal digits of a set width. -/
def upperHex (width n : Nat) : List Char :=
  (Text.hexDigits width n).map Char.toUpper

/-- The escape of a character. -/
def escape (c : Char) : List Char :=
  match escapeLetters.lookup c with
  | some e => ['\\', e]
  | none =>
    if c.toNat ≤ 0xFF then '\\' :: 'x' :: upperHex 2 c.toNat
    else if c.toNat ≤ 0xFFFF then '\\' :: 'u' :: upperHex 4 c.toNat
    else '\\' :: 'U' :: upperHex 8 c.toNat

/-- A character that stands for itself in double quotes. -/
def isVerbatim (unicode : Bool) (c : Char) : Bool :=
  let n := c.toNat
  !"\"\\".toList.contains c && c != '\u0085' && c != '\u2028' && c != '\u2029' && c != '\uFEFF' &&
    ((0x20 ≤ n && n ≤ 0x7E) ||
      (unicode && ((0xA0 ≤ n && n ≤ 0xD7FF) || (0xE000 ≤ n && n ≤ 0xFFFD))))

/-- Go on with a double-quoted text on the next line; a space there needs a backslash before it. -/
def foldDouble (indent : Nat) (next : Option Char) (p : Page) : Page :=
  let p := { (p.put ['\\']).indentTo indent with whitespace := false, indention := false }
  if next == some ' ' then p.put ['\\'] else p

/-- Write the characters of a double-quoted text. `pending` holds, in reverse, the characters not yet
written; `first` says whether the next character is the first one. Beyond the width a line ends before a
space or next to an escape, but neither before the first nor before the last character. -/
def writeDoubleChars (unicode : Bool) (indent : Nat) (split : Bool) :
    Bool → List Char → List Char → Page → Page
  | _, pending, [], p => p.put pending.reverse
  | first, pending, c :: rest, p =>
    let mayFold := !first && !rest.isEmpty && split
    if isVerbatim unicode c then
      if mayFold && (c == ' ' || pending.isEmpty) && p.column + pending.length > bestWidth then
        writeDoubleChars unicode indent split false [c] rest
          (foldDouble indent (some c) (p.put pending.reverse))
      else writeDoubleChars unicode indent split false (c :: pending) rest p
    else
      let p := (p.put pending.reverse).put (escape c)
      let p := if mayFold && p.column > bestWidth + 1 then foldDouble indent rest.head? p else p
      writeDoubleChars unicode indent split false [] rest p

/-- Write a text in double quotes. -/
def writeDouble (unicode : Bool) (indent : Nat) (split : Bool) (s : List Char) (p : Page) : Page :=
  (writeDoubleChars unicode indent split true [] s (p.indicator ['"'] true)).indicator ['"'] false

/-! ### Nodes -/

/-- The indentation one level further in. -/
def deeper : Option Nat → Nat
  | none => 0
  | some n => n + 2

/-- Write a text as a node; folded lines are indented one level further than the block. -/
def writeText (unicode isKey : Bool) (indent : Option Nat) (s : List Char) (p : Page) : Page :=
  let inner := (indent.map (· + 2)).getD 2
  match styleOf unicode isKey s with
  | .plain => writePlain inner (!isKey) s p
  | .single => writeSingle inner (!isKey) s p
  | .double => writeDouble unicode inner (!isKey) s p

/-- The length of the short name of the kind of texts, which counts against the length of simple
keys. -/
def textTagLength : Nat := 5

/-- Whether a key can stand before its colon without an indicator. -/
def isSimpleKey (s : List Char) : Bool :=
  s.length + textTagLength < 128 && !s.isEmpty && !isMultiline s

/-- Write a key and the indicator of its value. -/
def writeKey (unicode : Bool) (indent : Nat) (s : List Char) (p : Page) : Page :=
  let p := p.indentTo indent
  if isSimpleKey s then (writeText unicode true (some indent) s p).indicator [':'] false
  else
    let p := writeText unicode false (some indent) s (p.indicator ['?'] true true)
    (p.indentTo indent).indicator [':'] true true

mutual

/-- Write a node inside a block of an indentation; `inMap` says whether it is a part of a mapping. -/
def writeNode (unicode : Bool) (indent : Option Nat) (inMap : Bool) : Tree → Page → Page
  | .text s, p => writeText unicode false indent s.toList p
  | .bool b, p => writePlain 0 false (if b then "true".toList else "false".toList) p
  | .seq [], p => p.indicator ['[', ']'] true
  | .seq (x :: xs), p =>
    let here := match indent with
      | some n => if inMap && !p.indention then n else n + 2
      | none => 0
    let p := (p.indentTo here).indicator ['-'] true true
    writeItems unicode here xs (writeNode unicode (some here) false x p)
  | .map [], p => p.indicator ['{', '}'] true
  | .map ((k, v) :: rest), p =>
    let here := deeper indent
    let p := writeKey unicode here k.toList p
    writePairs unicode here rest (writeNode unicode (some here) true v p)

/-- Write the items of a sequence after the first. -/
def writeItems (unicode : Bool) (here : Nat) : List Tree → Page → Page
  | [], p => p
  | x :: xs, p =>
    let p := (p.indentTo here).indicator ['-'] true true
    writeItems unicode here xs (writeNode unicode (some here) false x p)

/-- Write the pairs of a mapping after the first. -/
def writePairs (unicode : Bool) (here : Nat) : List (String × Tree) → Page → Page
  | [], p => p
  | (k, v) :: rest, p =>
    let p := writeKey unicode here k.toList p
    writePairs unicode here rest (writeNode unicode (some here) true v p)

end

/-- The text of a document; `unicode` says whether characters beyond the basic block are written as they
are. -/
def write (unicode : Bool) (t : Tree) : String :=
  let p := (writeNode unicode none false t {}).indentTo 0
  .ofList p.reversed.reverse

end Stencil.Yaml
