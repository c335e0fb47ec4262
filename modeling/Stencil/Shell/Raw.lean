import Stencil.Text.Pieces

namespace Stencil.Shell

/-!
# Bytes as text

A shell works on bytes. Here a byte is written as the character with its number, so that the signs of scripts and
programs can be written as they are.

* `Raw` — bytes as text;
* `Raw.ofString`, `Raw.toString` — the bytes of a text in UTF-8 and back;
* `Raw.letters`, `Raw.ofLetters` — the letters that bytes stand for, for programs that look at whole letters.
-/

/-- Bytes, each written as the character with its number. -/
abbrev Raw := List Char

namespace Raw

/-- Bytes as they are kept in a file. -/
def toBytes (r : Raw) : List UInt8 :=
  r.map fun c => c.toNat.toUInt8

/-- The content of a file. -/
def ofBytes (bytes : List UInt8) : Raw :=
  bytes.map fun b => Char.ofNat b.toNat

/-- The bytes of a text in UTF-8. -/
def ofString (s : String) : Raw :=
  ofBytes s.toUTF8.toList

/-- The letter that stands for a byte which is no part of a letter. -/
def stray (c : Char) : Char :=
  Char.ofNat (0x10FF00 + c.toNat)

/-- The number of bytes of a letter that starts with a byte, and the bits that the byte adds. -/
def lead? (c : Char) : Option (Nat × Nat) :=
  let n := c.toNat
  if n < 0x80 then some (1, n)
  else if 0xC2 ≤ n && n < 0xE0 then some (2, n - 0xC0)
  else if 0xE0 ≤ n && n < 0xF0 then some (3, n - 0xE0)
  else if 0xF0 ≤ n && n < 0xF5 then some (4, n - 0xF0)
  else none

/-- The number that a letter's further bytes lead to. -/
def continued? (n : Nat) : List Char → Option Nat
  | [] => some n
  | c :: rest =>
    if 0x80 ≤ c.toNat && c.toNat < 0xC0 then continued? (n * 64 + (c.toNat - 0x80)) rest else none

/-- The smallest number that a letter of some bytes stands for. -/
def leastOf (size : Nat) : Nat :=
  match size with
  | 2 => 0x80
  | 3 => 0x800
  | 4 => 0x10000
  | _ => 0

/-- The first letter of bytes and the number of its bytes, if they start with a letter. -/
def letter? (r : Raw) : Option (Char × Nat) := do
  let (size, n) ← lead? (← r.head?)
  let further := r.tail.take (size - 1)
  if further.length + 1 < size then none
  let n ← continued? n further
  if n < leastOf size || (0xD800 ≤ n && n < 0xE000) || 0x110000 ≤ n then none
  return (Char.ofNat n, size)

/-- The letters that at most `limit` bytes stand for. -/
def lettersUpTo : Nat → Raw → List Char
  | 0, _ => []
  | _, [] => []
  | limit + 1, c :: rest =>
    match letter? (c :: rest) with
    | some (d, size) => d :: lettersUpTo limit (rest.drop (size - 1))
    | none => stray c :: lettersUpTo limit rest

/-- The letters that bytes stand for; a byte that is no part of a letter becomes a letter of its own. -/
def letters (r : Raw) : List Char :=
  lettersUpTo r.length r

/-- The bytes of letters. -/
def ofLetters (s : List Char) : Raw :=
  s.flatMap fun c =>
    if c.toNat < 0x80 then [c]
    else if 0x10FF00 ≤ c.toNat then [Char.ofNat (c.toNat - 0x10FF00)]
    else ofString c.toString

/-- The text that bytes stand for; a byte that is no part of a letter becomes a replacement character. -/
def toString (r : Raw) : String :=
  .ofList (r.letters.map fun c => if 0x10FF00 ≤ c.toNat then '\uFFFD' else c)

/-- Bytes of digits as a number. -/
def ofNat (n : Nat) : Raw :=
  (Nat.repr n).toList

/-- A number as bytes. -/
def ofInt (n : Int) : Raw :=
  if n < 0 then '-' :: ofNat n.natAbs else ofNat n.natAbs

/-- Whether bytes are all digits, and there are some. -/
def isNumber (r : Raw) : Bool :=
  !r.isEmpty && r.all Char.isDigit

/-- The number that digits stand for. -/
def digitsValue (r : Raw) : Nat :=
  r.foldl (fun n c => n * 10 + (c.toNat - 48)) 0

/-- The number that bytes stand for, if they are all digits. -/
def nat? (r : Raw) : Option Nat :=
  if isNumber r then some (digitsValue r) else none

/-- The order of bytes. -/
def before (a b : Raw) : Bool :=
  compare a b != .gt

/-- Whether bytes are the name of a variable. -/
def isName : Raw → Bool
  | [] => false
  | c :: rest => (c.isAlpha || c = '_') && rest.all fun c => c.isAlphanum || c = '_'

/-- The lines of bytes, without their ends; a last line need not have one. -/
def lines (r : Raw) : List Raw :=
  let pieces := Text.splitAtChar '\n' r
  if pieces.getLast? = some [] then pieces.dropLast else pieces

/-- Lines, each with its end. -/
def ofLines (ls : List Raw) : Raw :=
  ls.flatMap (· ++ ['\n'])

end Raw

end Stencil.Shell
