namespace Stencil.Text

/-!
# Blanks, trimming and pieces

A blank is a character of Unicode white space or one of the four information separators. Trimming drops the blanks at
an end of a text and keeps those inside. Cutting a text at separators gives its pieces, which can be joined again.

* `isBlank` — the class of blanks;
* `trimLeft`, `trimRight`, `trim` — the text without the blanks at its ends;
* `IsTrimmed` — a text that no trimming changes;
* `splitAtChar` — the pieces between the occurrences of one character;
* `cut` — what stands before and after the first occurrence of a character;
* `stripPrefix?`, `splitAtText`, `replace`, `find?` — the same for a separator of several characters;
* `words`, `lines` — the pieces between runs of blanks and between line ends;
* `join` — the pieces with a separator between them.
-/

/-! ### Blanks -/

/-- White space of any script, line ends and the information separators included. -/
def isBlank (c : Char) : Bool :=
  let n := c.toNat
  (9 ≤ n && n ≤ 13) || (28 ≤ n && n ≤ 32) || n == 0x85 || n == 0xA0 || n == 0x1680 ||
    (0x2000 ≤ n && n ≤ 0x200A) || n == 0x2028 || n == 0x2029 || n == 0x202F || n == 0x205F ||
    n == 0x3000

/-- A text without the characters of a class at its start. -/
def trimLeftOf (p : Char → Bool) (s : List Char) : List Char :=
  s.dropWhile p

/-- A text without the characters of a class at its end. -/
def trimRightOf (p : Char → Bool) (s : List Char) : List Char :=
  (s.reverse.dropWhile p).reverse

/-- A text without its leading blanks. -/
def trimLeft (s : List Char) : List Char :=
  trimLeftOf isBlank s

/-- A text without its trailing blanks. -/
def trimRight (s : List Char) : List Char :=
  trimRightOf isBlank s

/-- A text without the blanks at both ends. -/
def trim (s : List Char) : List Char :=
  trimRight (trimLeft s)

/-- Neither the first nor the last character is a blank. -/
def IsTrimmed (s : List Char) : Prop :=
  (∀ c ∈ s.head?, isBlank c = false) ∧ (∀ c ∈ s.getLast?, isBlank c = false)

/-- Trimming on strings. -/
def trimmed (s : String) : String :=
  .ofList (trim s.toList)

/-! ### Pieces -/

/-- The pieces of a text between the occurrences of a separator; there is one more piece than there
are separators. -/
def splitAtChar (sep : Char) : List Char → List (List Char)
  | [] => [[]]
  | c :: rest =>
    if c = sep then [] :: splitAtChar sep rest
    else match splitAtChar sep rest with
      | [] => [[c]]
      | piece :: pieces => (c :: piece) :: pieces

/-- The pieces with a separator between each two. -/
def join (sep : List Char) : List (List Char) → List Char
  | [] => []
  | [piece] => piece
  | piece :: pieces => piece ++ sep ++ join sep pieces

/-- The text before the first occurrence of a character and, if it occurs, the text after it. -/
def cut (sep : Char) : List Char → List Char × Option (List Char)
  | [] => ([], none)
  | c :: rest =>
    if c = sep then ([], some rest)
    else let (before, after) := cut sep rest
      (c :: before, after)

/-- The text before and after the last occurrence of a character. -/
def cutAtLast? (sep : Char) (s : List Char) : Option (List Char × List Char) :=
  match cut sep s.reverse with
  | (after, some before) => some (before.reverse, after.reverse)
  | (_, none) => none

/-- What follows a given start of a text. -/
def stripPrefix? : List Char → List Char → Option (List Char)
  | [], s => some s
  | _ :: _, [] => none
  | p :: ps, c :: cs => if p = c then stripPrefix? ps cs else none

/-- Whether a text starts with another. -/
def startsWith (start s : List Char) : Bool :=
  (stripPrefix? start s).isSome

/-- Whether a text ends with another. -/
def endsWith (ending s : List Char) : Bool :=
  startsWith ending.reverse s.reverse

/-- The text before and after the leftmost occurrence of a separator. -/
def cutAtText (sep : List Char) : List Char → Option (List Char × List Char)
  | [] => if sep.isEmpty then some ([], []) else none
  | c :: rest =>
    match stripPrefix? sep (c :: rest) with
    | some after => some ([], after)
    | none => (cutAtText sep rest).map fun (before, after) => (c :: before, after)

/-- The position of the leftmost occurrence of a text. -/
def find? (part s : List Char) : Option Nat :=
  (cutAtText part s).map fun (before, _) => before.length

/-- The position of the rightmost occurrence of a text. -/
def findLast? (part s : List Char) : Option Nat :=
  (cutAtText part.reverse s.reverse).map fun (before, _) => s.length - before.length - part.length

/-- Whether a text occurs in another. -/
def occursIn (part s : List Char) : Bool :=
  (cutAtText part s).isSome

/-- Cut a text at the leftmost occurrences of a separator, at most `limit` times. -/
def splitAtTextUpTo (sep : List Char) : Nat → List Char → List (List Char)
  | 0, s => [s]
  | limit + 1, s =>
    match cutAtText sep s with
    | none => [s]
    | some (before, after) => before :: splitAtTextUpTo sep limit after

/-- The pieces of a text between the occurrences of a non-empty separator. -/
def splitAtText (sep s : List Char) : List (List Char) :=
  splitAtTextUpTo sep s.length s

/-- Cut a text at the rightmost occurrences of a separator, at most `limit` times. -/
def splitAtTextUpToFromEnd (sep : List Char) (limit : Nat) (s : List Char) : List (List Char) :=
  ((splitAtTextUpTo sep.reverse limit s.reverse).map List.reverse).reverse

/-- Put a text between all characters and at both ends, at most `limit` times. -/
def interleave (new : List Char) : Nat → List Char → List Char
  | 0, s => s
  | _ + 1, [] => new
  | limit + 1, c :: rest => new ++ c :: interleave new limit rest

/-- Replace the leftmost occurrences of a text, at most `limit` of them. -/
def replaceUpTo (old new : List Char) (limit : Nat) (s : List Char) : List Char :=
  if old.isEmpty then interleave new limit s
  else join new (splitAtTextUpTo old limit s)

/-- Replace all occurrences of a text. -/
def replace (old new s : List Char) : List Char :=
  replaceUpTo old new (s.length + 1) s

/-- Replacement on strings. -/
def replaced (old new s : String) : String :=
  .ofList (replace old.toList new.toList s.toList)

/-- The number of occurrences of a text that do not overlap. -/
def countText (part s : List Char) : Nat :=
  if part.isEmpty then s.length + 1 else (splitAtText part s).length - 1

/-- The pieces between runs of blanks, without empty pieces. -/
def words (s : List Char) : List (List Char) :=
  let (word, done) := s.foldr
    (fun c (word, done) =>
      if isBlank c then ([], if word.isEmpty then done else word :: done) else (c :: word, done))
    (([] : List Char), ([] : List (List Char)))
  if word.isEmpty then done else word :: done

/-- Up to `limit` leading words, and the rest of the text after them as one more piece. -/
def wordsUpTo : Nat → List Char → List (List Char)
  | limit, s =>
    match trimLeft s with
    | [] => []
    | c :: rest =>
      match limit with
      | 0 => [trimRight (c :: rest)]
      | n + 1 =>
        let tail := rest.dropWhile (!isBlank ·)
        (c :: rest.takeWhile (!isBlank ·)) :: wordsUpTo n tail

/-- A character that ends a line. -/
def isLineEnd (c : Char) : Bool :=
  let n := c.toNat
  (10 ≤ n && n ≤ 13) || (28 ≤ n && n ≤ 30) || n == 0x85 || n == 0x2028 || n == 0x2029

/-- The lines of a text, each with the characters that end it. -/
def linesWithEnds : List Char → List (List Char × List Char)
  | [] => []
  | '\r' :: '\n' :: rest => ([], ['\r', '\n']) :: linesWithEnds rest
  | c :: rest =>
    if isLineEnd c then ([], [c]) :: linesWithEnds rest
    else match linesWithEnds rest with
      | [] => [([c], [])]
      | (line, ending) :: more => (c :: line, ending) :: more

/-- The lines of a text; a line end at the end of the text opens no further line. -/
def lines (s : List Char) : List (List Char) :=
  (linesWithEnds s).map (·.1)

/-- A carriage return, alone or before a line feed, reads as a line feed. -/
def unifyLineEnds : List Char → List Char
  | [] => []
  | '\r' :: '\n' :: rest => '\n' :: unifyLineEnds rest
  | '\r' :: rest => '\n' :: unifyLineEnds rest
  | c :: rest => c :: unifyLineEnds rest

/-- The pieces of a string between the occurrences of a character. -/
def piecesAt (sep : Char) (s : String) : List String :=
  (splitAtChar sep s.toList).map String.ofList

/-- Strings with a separator between each two. -/
def joined (sep : String) (pieces : List String) : String :=
  .ofList (join sep.toList (pieces.map String.toList))

end Stencil.Text
