import Stencil.Text.CaseTable

namespace Stencil.Text

/-!
# Upper, lower and title case

* `upperChar`, `lowerChar`, `titleChar` — the case forms of one character, texts of one or more
  characters;
* `upper`, `lower` — the case forms of a text; a final sigma has a lower case form of its own;
* `capitalize`, `titleWords`, `swapCase` — the forms that mix the cases;
* `foldCase` — the form that texts share when they differ by case alone.
-/

/-- Move a character along the run it belongs to. -/
def shiftInRuns (runs : Array CaseRun) (n : Nat) : Option Char :=
  (runs.find? fun r => r.first ≤ n && n ≤ r.last && (n - r.first) % r.step == 0).map
    fun r => Char.ofNat ((n : Int) + r.shift).toNat

/-- The form of a character in a table of longer forms. -/
def formIn (forms : Array (Nat × List Nat)) (n : Nat) : Option (List Char) :=
  (forms.find? fun (code, _) => code == n).map fun (_, parts) => parts.map Char.ofNat

/-- The upper case form of a character. -/
def upperChar (c : Char) : List Char :=
  if c.toNat < 128 then [c.toUpper]
  else match formIn upperForms c.toNat with
    | some parts => parts
    | none => [(shiftInRuns upperRuns c.toNat).getD c]

/-- The lower case form of a character. -/
def lowerChar (c : Char) : List Char :=
  if c.toNat < 128 then [c.toLower]
  else match formIn lowerForms c.toNat with
    | some parts => parts
    | none => [(shiftInRuns lowerRuns c.toNat).getD c]

/-- The form of a character at the start of a word. -/
def titleChar (c : Char) : List Char :=
  if c.toNat < 128 then [c.toUpper]
  else match formIn titleForms c.toNat with
    | some parts => parts
    | none => upperChar c

/-- A character in upper case: it has a lower case form and is its own upper case form, or it is one of
those without another form. A letter in title case is not in upper case. -/
def isUpperChar (c : Char) : Bool :=
  (lowerChar c != [c] && upperChar c == [c]) || inRanges upperOnlyRanges c.toNat

/-- A character in lower case: it has an upper case form and is its own lower case form, or it is one of
those without another form. -/
def isLowerChar (c : Char) : Bool :=
  (upperChar c != [c] && lowerChar c == [c]) || inRanges lowerOnlyRanges c.toNat

/-- A character in title case: it has both other forms. -/
def isTitleChar (c : Char) : Bool :=
  upperChar c != [c] && lowerChar c != [c]

/-- A character that has a case. -/
def isCased (c : Char) : Bool :=
  isUpperChar c || isLowerChar c || isTitleChar c

/-- A text in upper case. -/
def upper (s : List Char) : List Char :=
  s.flatMap upperChar

/-- Whether a word goes on in a text: a cased character comes next, marks and apostrophes aside. -/
def continuesWord (s : List Char) : Bool :=
  (s.dropWhile isCaseIgnorable).head?.any isCased

/-- The lower case form of a character inside or outside of a word, before the rest of a text: a sigma that
ends a word has a form of its own. -/
def lowerAt (inWord : Bool) (c : Char) (rest : List Char) : List Char :=
  if c == 'Σ' && inWord && !continuesWord rest then ['ς'] else lowerChar c

/-- Whether the text up to a character ends inside a word, given whether the text before it does; marks and
apostrophes change nothing. -/
def inWordAfter (inWord : Bool) (c : Char) : Bool :=
  if isCaseIgnorable c then inWord else isCased c

/-- Lower case of a text before which there is or is not a part of a word. -/
def lowerAfter : Bool → List Char → List Char
  | _, [] => []
  | inWord, c :: rest => lowerAt inWord c rest ++ lowerAfter (inWordAfter inWord c) rest

/-- A text in lower case; a sigma that ends a word takes its final form. -/
def lower (s : List Char) : List Char :=
  lowerAfter false s

/-- The first character in title case and all others in lower case. -/
def capitalize : List Char → List Char
  | [] => []
  | c :: rest => titleChar c ++ lowerAfter (inWordAfter false c) rest

/-- Title case of a text; the flags say whether the character before the first is cased, and whether a part
of a word is before it. -/
def titleAfter : Bool → Bool → List Char → List Char
  | _, _, [] => []
  | afterCased, inWord, c :: rest =>
    (if afterCased then lowerAt inWord c rest else titleChar c) ++
      titleAfter (isCased c) (inWordAfter inWord c) rest

/-- Every run of cased characters with its first character in title case and the others in lower
case. -/
def titleWords (s : List Char) : List Char :=
  titleAfter false false s

/-- Upper case and lower case exchanged in a text before which there is or is not a part of a word. -/
def swapAfter : Bool → List Char → List Char
  | _, [] => []
  | inWord, c :: rest =>
    (if isUpperChar c then lowerAt inWord c rest else if isLowerChar c then upperChar c else [c]) ++
      swapAfter (inWordAfter inWord c) rest

/-- Upper case characters in lower case, and the other way round. -/
def swapCase (s : List Char) : List Char :=
  swapAfter false s

/-- The letters whose shared form is the one in upper case. -/
def foldsToUpper (c : Char) : Bool :=
  let n := c.toNat
  (0x13A0 ≤ n && n ≤ 0x13FD) || (0xAB70 ≤ n && n ≤ 0xABBF)

/-- The form of a character that all of its case forms share; a dotless i keeps its own. -/
def foldChar (c : Char) : List Char :=
  if c == 'ı' then [c]
  else if foldsToUpper c then upperChar c
  else ((lowerChar c).flatMap upperChar).flatMap lowerChar

/-- A text without distinctions of case. -/
def foldCase (s : List Char) : List Char :=
  s.flatMap foldChar

/-- Upper case on strings. -/
def uppercase (s : String) : String :=
  .ofList (upper s.toList)

/-- Lower case on strings. -/
def lowercase (s : String) : String :=
  .ofList (lower s.toList)

end Stencil.Text
