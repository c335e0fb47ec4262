import Stencil.Decimal.Reader
import Stencil.Json.Basic
import Stencil.Text.Letters

namespace Stencil.Json

/-!
# Reading JSON

A reader for documents with any white space between tokens. A number with a fraction or an exponent is
a floating point number, any other an integer.

* `parse?` — the document that a text holds.
-/

/-- The white space of JSON. -/
def isSpace (c : Char) : Bool :=
  c == ' ' || c == '\n' || c == '\r' || c == '\t'

/-- Drop leading white space. -/
def skipSpace (s : List Char) : List Char :=
  s.dropWhile isSpace

/-- The value of four hexadecimal digits. -/
def hex4? (a b c d : Char) : Option Nat := do
  return ((← Text.hexValue? a) * 16 + (← Text.hexValue? b)) * 256 + (← Text.hexValue? c) * 16 + (← Text.hexValue? d)

/-- The character of an escape that stands for one character. -/
def shortEscape? (c : Char) : Option Char :=
  if c = '"' ∨ c = '\\' ∨ c = '/' then some c
  else if c = 'n' then some '\n'
  else if c = 'r' then some '\r'
  else if c = 't' then some '\t'
  else if c = 'b' then some '\x08'
  else if c = 'f' then some '\x0c'
  else none

/-- The rest of a string after its opening quote: the text and what follows the closing quote. Two
escapes may stand for the halves of one character. -/
def stringBody? : List Char → Option (List Char × List Char)
  | [] => none
  | '"' :: rest => some ([], rest)
  | '\\' :: 'u' :: a :: b :: c :: d :: '\\' :: 'u' :: e :: f :: g :: h :: rest => do
    let hi ← hex4? a b c d
    let lo ← hex4? e f g h
    if 0xD800 ≤ hi && hi < 0xDC00 && 0xDC00 ≤ lo && lo < 0xE000 then
      let (s, rest) ← stringBody? rest
      return (Char.ofNat (0x10000 + (hi - 0xD800) * 0x400 + (lo - 0xDC00)) :: s, rest)
    else
      -- The second escape is read again: it may be the first half of another character.
      let (s, rest) ← stringBody? ('\\' :: 'u' :: e :: f :: g :: h :: rest)
      return (Char.ofNat hi :: s, rest)
  | '\\' :: 'u' :: a :: b :: c :: d :: rest => do
    let n ← hex4? a b c d
    let (s, rest) ← stringBody? rest
    return (Char.ofNat n :: s, rest)
  | '\\' :: c :: rest => do
    let c ← shortEscape? c
    let (s, rest) ← stringBody? rest
    return (c :: s, rest)
  | c :: rest => do
    if c.toNat < 32 then none
    else
      let (s, rest) ← stringBody? rest
      return (c :: s, rest)

/-- A character that can be part of a number. -/
def isNumberChar (c : Char) : Bool :=
  c.isDigit || c == '-' || c == '+' || c == '.' || c == 'e' || c == 'E'

/-- The number that a text stands for. -/
def number? (s : List Char) : Option Json :=
  if s.any fun c => c == '.' || c == 'e' || c == 'E' then (Decimal.readFloat? s).map .float
  else
    let (negative, ds) := match s with
      | '-' :: ds => (true, ds)
      | _ => (false, s)
    if ds.isEmpty || !ds.all Char.isDigit then none
    else
      let n : Nat := ds.foldl (fun n c => 10 * n + (c.toNat - 48)) 0
      some (.int (if negative then -(n : Int) else n))

/-- Read a given word. -/
def word? : List Char → List Char → Option (List Char)
  | [], s => some s
  | w :: ws, c :: cs => if w = c then word? ws cs else none
  | _ :: _, [] => none

mutual

/-- A value and the text after it; `fuel` bounds the nesting and the number of items. -/
def value? : Nat → List Char → Option (Json × List Char)
  | 0, _ => none
  | fuel + 1, s =>
    match skipSpace s with
    | 'n' :: rest => (word? "ull".toList rest).map fun r => (.null, r)
    | 't' :: rest => (word? "rue".toList rest).map fun r => (.bool true, r)
    | 'f' :: rest => (word? "alse".toList rest).map fun r => (.bool false, r)
    | '"' :: rest => (stringBody? rest).map fun (s, r) => (.str (.ofList s), r)
    | '[' :: rest =>
      match skipSpace rest with
      | ']' :: rest => some (.arr [], rest)
      | rest => do
        let (x, rest) ← value? fuel rest
        let (xs, rest) ← items? fuel rest
        return (.arr (x :: xs), rest)
    | '{' :: rest =>
      match skipSpace rest with
      | '}' :: rest => some (.obj [], rest)
      | rest => do
        let (field, rest) ← field? fuel rest
        let (fields, rest) ← fields? fuel rest
        return (.obj (field :: fields), rest)
    | s => do
      let n ← number? (s.takeWhile isNumberChar)
      return (n, s.dropWhile isNumberChar)

/-- The items of an array after the first, up to the closing bracket. -/
def items? : Nat → List Char → Option (List Json × List Char)
  | 0, _ => none
  | fuel + 1, s =>
    match skipSpace s with
    | ']' :: rest => some ([], rest)
    | ',' :: rest => do
      let (x, rest) ← value? fuel rest
      let (xs, rest) ← items? fuel rest
      return (x :: xs, rest)
    | _ => none

/-- A key and its value. -/
def field? : Nat → List Char → Option ((String × Json) × List Char)
  | 0, _ => none
  | fuel + 1, s =>
    match skipSpace s with
    | '"' :: rest => do
      let (k, rest) ← stringBody? rest
      match skipSpace rest with
      | ':' :: rest => do
        let (v, rest) ← value? fuel rest
        return ((.ofList k, v), rest)
      | _ => none
    | _ => none

/-- The fields of an object after the first, up to the closing brace. -/
def fields? : Nat → List Char → Option (List (String × Json) × List Char)
  | 0, _ => none
  | fuel + 1, s =>
    match skipSpace s with
    | '}' :: rest => some ([], rest)
    | ',' :: rest => do
      let (field, rest) ← field? fuel rest
      let (fields, rest) ← fields? fuel rest
      return (field :: fields, rest)
    | _ => none

end

/-- The document that a text holds, with nothing but white space around it. -/
def parse? (s : String) : Option Json := do
  let cs := s.toList
  let (j, rest) ← value? (cs.length + 1) cs
  if (skipSpace rest).isEmpty then some j else none

end Stencil.Json
