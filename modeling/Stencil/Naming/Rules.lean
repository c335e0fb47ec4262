import Stencil.Text.Case
import Stencil.Text.Pieces

namespace Stencil.Naming

/-!
# Rules of English plurals

A rule recognises an ending of a word and replaces it. The first rule of a list that applies anywhere
is applied everywhere it fits; the end of the word is also recognised before a final line feed.

* `Rule` — a rule; `Rule.match?` — the part of a text that it replaces;
* `pluralRules`, `singularRules`, `uncountables` — the rules of the two directions;
* `pluralize`, `singularize` — the words.
-/

open Text

/-- The part of a word before the replaced ending, which is kept. -/
inductive Stem where
  | letters (s : String)
  | oneOf (s : String)
  | noneOf (s : String)
  deriving Repr, BEq

/-- A rule: one of the stems followed by one of the endings, which gives way to the replacement. -/
structure Rule where
  stems : List Stem := [.letters ""]
  endings : List String
  replacement : String
  /-- the stem must stand at the start of the text -/
  atStart : Bool := false
  /-- the ending must stand at the end of the text -/
  atEnd : Bool := true
  /-- the first letter must have the case that the rule gives -/
  exactFirst : Bool := false
  deriving Repr, BEq

/-- A letter without its case; the long s and the dotted and dotless i count as their plain
letters. -/
def foldLetter (c : Char) : Char :=
  if c == 'ı' || c == 'İ' then 'i'
  else if c == 'ſ' then 's'
  else match lowerChar c with
    | [d] => d
    | _ => c

/-- The number of characters that a word takes at the start of a text, the case of letters aside. -/
def matchLetters? : List Char → List Char → Option Nat
  | [], _ => some 0
  | _ :: _, [] => none
  | w :: ws, c :: cs => if w = foldLetter c then (matchLetters? ws cs).map (· + 1) else none

/-- The number of characters that a stem takes at the start of a text. -/
def Stem.match? (s : List Char) : Stem → Option Nat
  | .letters w => matchLetters? w.toList s
  | .oneOf cs => (s.head?.filter fun c => cs.toList.contains (foldLetter c)).map fun _ => 1
  | .noneOf cs => (s.head?.filter fun c => !cs.toList.contains (foldLetter c)).map fun _ => 1

/-- Nothing follows but possibly a line feed. -/
def isEnd : List Char → Bool
  | [] => true
  | ['\n'] => true
  | _ => false

/-- The lengths of stem and ending of a rule at the start of a text; `first` says whether the text has
nothing before it. -/
def Rule.match? (r : Rule) (first : Bool) (s : List Char) : Option (Nat × Nat) :=
  if r.atStart && !first then none
  else if r.exactFirst && s.head? != r.endings.head?.bind (·.toList.head?) then none
  else
    r.stems.findSome? fun stem => do
      let n ← stem.match? s
      let rest := s.drop n
      r.endings.findSome? fun ending => do
        let m ← matchLetters? (ending.toList.map foldLetter) rest
        if r.atEnd && !isEnd (rest.drop m) then none else some (n, m)

/-- Apply a rule wherever it fits, from the left; `skip` characters are already dealt with. Whether it
fitted anywhere comes with the result. -/
def Rule.applyFrom (r : Rule) : Bool → Nat → List Char → Bool × List Char
  | first, _, [] =>
    match r.match? first [] with
    | some _ => (true, r.replacement.toList)
    | none => (false, [])
  | _, skip + 1, _ :: rest => r.applyFrom false skip rest
  | first, 0, c :: rest =>
    match r.match? first (c :: rest) with
    -- A match of no characters puts the replacement before the next one and goes on behind it.
    | some (0, 0) =>
      let (_, out) := r.applyFrom false 0 rest
      (true, r.replacement.toList ++ c :: out)
    | some (n, m) =>
      let (_, out) := r.applyFrom false (n + m - 1) rest
      (true, (c :: rest).take n ++ r.replacement.toList ++ out)
    | none =>
      let (hit, out) := r.applyFrom false 0 rest
      (hit, c :: out)

/-- The text after the first rule that fits; no rule, no change. -/
def applyRules (rules : List Rule) (s : List Char) : List Char :=
  match rules with
  | [] => s
  | r :: rest =>
    match r.applyFrom true 0 s with
    | (true, out) => out
    | (false, _) => applyRules rest s

/-- Words that are their own plural. -/
def uncountables : List String :=
  ["equipment", "fish", "information", "jeans", "money", "rice", "series", "sheep", "species"]

/-- From the singular to the plural. -/
def pluralRules : List Rule :=
  [{ stems := [.letters "z"], endings := ["ombies"], replacement := "ombies" },
   { stems := [.letters "z"], endings := ["ombie"], replacement := "ombies" },
   { endings := ["kine"], replacement := "kine", exactFirst := true },
   { endings := ["Kine"], replacement := "Kine", exactFirst := true },
   { endings := ["cow"], replacement := "kine", exactFirst := true },
   { endings := ["Cow"], replacement := "Kine", exactFirst := true },
   { stems := [.letters "m"], endings := ["oves"], replacement := "oves" },
   { stems := [.letters "m"], endings := ["ove"], replacement := "oves" },
   { stems := [.letters "s"], endings := ["exes"], replacement := "exes" },
   { stems := [.letters "s"], endings := ["ex"], replacement := "exes" },
   { stems := [.letters "c"], endings := ["hildren"], replacement := "hildren" },
   { stems := [.letters "c"], endings := ["hild"], replacement := "hildren" },
   { stems := [.letters "h"], endings := ["umans"], replacement := "umans" },
   { stems := [.letters "h"], endings := ["uman"], replacement := "umans" },
   { stems := [.letters "m"], endings := ["en"], replacement := "en" },
   { stems := [.letters "m"], endings := ["an"], replacement := "en" },
   { stems := [.letters "p"], endings := ["eople"], replacement := "eople" },
   { stems := [.letters "p"], endings := ["erson"], replacement := "eople" },
   { stems := [.letters "quiz"], endings := [""], replacement := "zes" },
   { stems := [.letters "oxen"], endings := [""], replacement := "", atStart := true },
   { stems := [.letters "ox"], endings := [""], replacement := "en", atStart := true },
   { stems := [.letters "m", .letters "l"], endings := ["ice"], replacement := "ice" },
   { stems := [.letters "m", .letters "l"], endings := ["ouse"], replacement := "ice" },
   { stems := [.letters "passer"], endings := ["sby", "by"], replacement := "sby" },
   { stems := [.letters "matr", .letters "vert", .letters "ind"], endings := ["ix", "ex"], replacement := "ices" },
   { stems := [.letters "x", .letters "ch", .letters "ss", .letters "sh"], endings := [""], replacement := "es" },
   { stems := [.noneOf "aeiouy", .letters "qu"], endings := ["y"], replacement := "ies" },
   { stems := [.letters "hive"], endings := [""], replacement := "s" },
   { stems := [.oneOf "lr"], endings := ["f"], replacement := "ves" },
   { stems := [.noneOf "f"], endings := ["fe"], replacement := "ves" },
   { endings := ["sis"], replacement := "ses" },
   { stems := [.oneOf "ti"], endings := ["a"], replacement := "a" },
   { stems := [.oneOf "ti"], endings := ["um"], replacement := "a" },
   { stems := [.letters "buffal", .letters "potat", .letters "tomat"], endings := ["o"], replacement := "oes" },
   { stems := [.letters "bu"], endings := ["s"], replacement := "ses" },
   { stems := [.letters "alias", .letters "status"], endings := [""], replacement := "es" },
   { stems := [.letters "octop", .letters "vir"], endings := ["i"], replacement := "i" },
   { stems := [.letters "octop", .letters "vir"], endings := ["us"], replacement := "i" },
   { stems := [.letters "ax", .letters "test"], endings := ["is"], replacement := "es", atStart := true },
   { endings := ["s"], replacement := "s" },
   { endings := [""], replacement := "s" }]

/-- From the plural to the singular. -/
def singularRules : List Rule :=
  [{ stems := [.letters "z"], endings := ["ombies"], replacement := "ombie" },
   { endings := ["kine"], replacement := "cow", exactFirst := true },
   { endings := ["Kine"], replacement := "Cow", exactFirst := true },
   { stems := [.letters "m"], endings := ["oves"], replacement := "ove" },
   { stems := [.letters "s"], endings := ["exes"], replacement := "ex" },
   { stems := [.letters "c"], endings := ["hildren"], replacement := "hild" },
   { stems := [.letters "h"], endings := ["umans"], replacement := "uman" },
   { stems := [.letters "m"], endings := ["en"], replacement := "an" },
   { stems := [.letters "p"], endings := ["eople"], replacement := "erson" },
   { stems := [.letters "database"], endings := ["s"], replacement := "" },
   { stems := [.letters "quiz"], endings := ["zes"], replacement := "" },
   { stems := [.letters "matr"], endings := ["ices"], replacement := "ix" },
   { stems := [.letters "vert", .letters "ind"], endings := ["ices"], replacement := "ex" },
   { stems := [.letters "passer"], endings := ["sby"], replacement := "by" },
   { stems := [.letters "ox"], endings := ["en"], replacement := "", atStart := true, atEnd := false },
   { stems := [.letters "alias", .letters "status"], endings := ["es", ""], replacement := "" },
   { stems := [.letters "octop", .letters "vir"], endings := ["us", "i"], replacement := "us" },
   { stems := [.letters "a"], endings := ["xis", "xes"], replacement := "xis", atStart := true },
   { stems := [.letters "cris", .letters "test"], endings := ["is", "es"], replacement := "is" },
   { stems := [.letters "shoe"], endings := ["s"], replacement := "" },
   { stems := [.letters "o"], endings := ["es"], replacement := "" },
   { stems := [.letters "bus"], endings := ["es", ""], replacement := "" },
   { stems := [.letters "m", .letters "l"], endings := ["ice"], replacement := "ouse" },
   { stems := [.letters "x", .letters "ch", .letters "ss", .letters "sh"], endings := ["es"], replacement := "" },
   { stems := [.letters "m"], endings := ["ovies"], replacement := "ovie" },
   { stems := [.letters "s"], endings := ["eries"], replacement := "eries" },
   { stems := [.noneOf "aeiouy", .letters "qu"], endings := ["ies"], replacement := "y" },
   { stems := [.oneOf "lr"], endings := ["ves"], replacement := "f" },
   { stems := [.letters "tive"], endings := ["s"], replacement := "" },
   { stems := [.letters "hive"], endings := ["s"], replacement := "" },
   { stems := [.noneOf "f"], endings := ["ves"], replacement := "fe" },
   { stems := [.letters "t"], endings := ["hesis", "heses"], replacement := "hesis" },
   { stems := [.letters "s"], endings := ["ynopsis", "ynopses"], replacement := "ynopsis" },
   { stems := [.letters "p"], endings := ["rognosis", "rognoses"], replacement := "rognosis" },
   { stems := [.letters "p"], endings := ["arenthesis", "arentheses"], replacement := "arenthesis" },
   { stems := [.letters "d"], endings := ["iagnosis", "iagnoses"], replacement := "iagnosis" },
   { stems := [.letters "b"], endings := ["asis", "ases"], replacement := "asis" },
   { stems := [.letters "a"], endings := ["nalysis", "nalyses"], replacement := "nalysis" },
   { stems := [.oneOf "ti"], endings := ["a"], replacement := "um" },
   { stems := [.letters "n"], endings := ["ews"], replacement := "ews" },
   { stems := [.letters "ss"], endings := [""], replacement := "" },
   { endings := ["s"], replacement := "" }]

/-- Whether a text ends in an uncountable word: no word character stands before it. -/
def endsUncountable (s : List Char) : Bool :=
  uncountables.any fun word =>
    let before := s.take (s.length - word.length)
    matchLetters? word.toList (s.drop before.length) == some word.length &&
      before.length + word.length == s.length && !(before.getLast?.any isWordChar)

/-- The plural of a word; the empty text and uncountable words stay as they are. -/
def pluralize (s : List Char) : List Char :=
  if s.isEmpty || uncountables.contains (String.ofList (lower s)) then s
  else applyRules pluralRules s

/-- The singular of a word; a text that ends in an uncountable word stays as it is. -/
def singularize (s : List Char) : List Char :=
  if endsUncountable s then s else applyRules singularRules s

end Stencil.Naming
