import Stencil.Decimal.Notation
import Stencil.Json.Basic
import Stencil.Text.Quoted

namespace Stencil.Json

/-!
# Writing JSON

Items are separated by a comma and a space, a key and its value by a colon and a space. With an
indentation every item stands on a line of its own, and lines end right after the comma. Characters
outside the basic Latin block are written as they are.

* `render` — the text of a document.
-/

open Text

/-- A character inside a JSON string. -/
def escapeChar (c : Char) : List Char :=
  if c = '"' then ['\\', '"']
  else if c = '\\' then ['\\', '\\']
  else if c = '\n' then ['\\', 'n']
  else if c = '\r' then ['\\', 'r']
  else if c = '\t' then ['\\', 't']
  else if c = '\x08' then ['\\', 'b']
  else if c = '\x0c' then ['\\', 'f']
  else if c.toNat < 32 then '\\' :: 'u' :: hexDigits 4 c.toNat
  else [c]

/-- A JSON string. -/
def renderString (s : String) : List Char :=
  '"' :: s.toList.flatMap escapeChar ++ ['"']

/-- An integer. -/
def renderInt (n : Int) : List Char :=
  if n < 0 then '-' :: Nat.toDigits 10 n.natAbs else Nat.toDigits 10 n.natAbs

/-- A floating point number; infinities and not-a-number have words of their own. -/
def renderFloat (x : Float) : List Char :=
  if x.isNaN then ['N', 'a', 'N']
  else if x.isInf then (if x < 0 then "-Infinity".toList else "Infinity".toList)
  else (Decimal.text x).toList

/-- The line break before an item at a nesting depth, if lines are broken. -/
def lineBreak (indent : Option (List Char)) (depth : Nat) : List Char :=
  match indent with
  | none => []
  | some unit => '\n' :: (List.replicate depth unit).flatten

/-- What separates two items at a nesting depth. -/
def separator (indent : Option (List Char)) (depth : Nat) : List Char :=
  match indent with
  | none => [',', ' ']
  | some _ => ',' :: lineBreak indent depth

mutual

/-- The text of a document at a nesting depth. -/
def render (indent : Option (List Char)) (depth : Nat) : Json → List Char
  | .null => ['n', 'u', 'l', 'l']
  | .bool true => ['t', 'r', 'u', 'e']
  | .bool false => ['f', 'a', 'l', 's', 'e']
  | .int n => renderInt n
  | .float x => renderFloat x
  | .str s => renderString s
  | .arr [] => ['[', ']']
  | .arr (x :: xs) =>
    '[' :: lineBreak indent (depth + 1) ++ render indent (depth + 1) x ++
      renderItems indent (depth + 1) xs ++ lineBreak indent depth ++ [']']
  | .obj [] => ['{', '}']
  | .obj ((k, v) :: fields) =>
    '{' :: lineBreak indent (depth + 1) ++ renderString k ++ ':' :: ' ' ::
      render indent (depth + 1) v ++ renderFields indent (depth + 1) fields ++
      lineBreak indent depth ++ ['}']

/-- The items of an array after the first. -/
def renderItems (indent : Option (List Char)) (depth : Nat) : List Json → List Char
  | [] => []
  | x :: xs => separator indent depth ++ render indent depth x ++ renderItems indent depth xs

/-- The fields of an object after the first. -/
def renderFields (indent : Option (List Char)) (depth : Nat) : List (String × Json) → List Char
  | [] => []
  | (k, v) :: fields =>
    separator indent depth ++ renderString k ++ ':' :: ' ' :: render indent depth v ++
      renderFields indent depth fields

end

/-- The text of a document. -/
def toText (indent : Option (List Char)) (j : Json) : String :=
  .ofList (render indent 0 j)

end Stencil.Json
