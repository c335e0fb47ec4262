import Stencil.Shell.Raw
import Stencil.Text.Case
import Stencil.Text.Letters
import Stencil.Text.Quoted

namespace Stencil.Shell

/-!
# Regular expressions

A regular expression describes texts. Of all places where it describes a part of a text the first one counts, and
there the longest part; inside, what stands further left takes as much as it can.

* `LetterKind` — named kinds of letters;
* `Regular` — regular expressions;
* `Regular.ends` — where parts end that start at a place;
* `Regular.find?` — the first and longest part.
-/

/-! ### Letters -/

/-- A named kind of letters. -/
inductive LetterKind where
  | alpha | digit | alnum | upper | lower | space | blank | punct | print | graph | cntrl | xdigit
  deriving Repr, BEq, DecidableEq, Inhabited

namespace LetterKind

/-- The kinds by their names. -/
def all : List (String × LetterKind) :=
  [("alpha", .alpha), ("digit", .digit), ("alnum", .alnum), ("upper", .upper), ("lower", .lower),
   ("space", .space), ("blank", .blank), ("punct", .punct), ("print", .print), ("graph", .graph),
   ("cntrl", .cntrl), ("xdigit", .xdigit)]

/-- Whether a letter stands for itself; bytes that are no part of a letter do not. -/
def isSound (c : Char) : Bool :=
  c.toNat < 0x10FF00

/-- Whether a letter is of a kind. -/
def accepts (k : LetterKind) (c : Char) : Bool :=
  let isAscii := c.toNat < 128
  let isGraph := if isAscii then 33 ≤ c.toNat && c.toNat < 127 else isSound c && Text.isPrintable c
  let isAlpha := if isAscii then c.isAlpha else Text.isLetter c
  let isAlnum := if isAscii then c.isAlphanum else Text.isAlphanumeric c
  match k with
  | .alpha => isAlpha
  | .digit => c.isDigit
  | .alnum => isAlnum
  | .upper => if isAscii then c.isUpper else Text.isUpperChar c
  | .lower => if isAscii then c.isLower else Text.isLowerChar c
  | .space => c = ' ' || (9 ≤ c.toNat && c.toNat ≤ 13)
  | .blank => c = ' ' || c = '\t'
  | .punct => isGraph && !isAlnum
  | .print => isGraph || c = ' '
  | .graph => isGraph
  | .cntrl => c.toNat < 32 || c.toNat = 127
  | .xdigit => c.isDigit || ('a' ≤ c.toLower && c.toLower ≤ 'f')

end LetterKind

/-- The small form of a letter. -/
def smallLetter (c : Char) : Char :=
  if c.toNat < 128 then c.toLower
  else match Text.lowerChar c with
    | [d] => d
    | _ => c

/-- The capital form of a letter. -/
def capitalLetter (c : Char) : Char :=
  if c.toNat < 128 then c.toUpper
  else match Text.upperChar c with
    | [d] => d
    | _ => c

/-- Whether a letter is part of a word. -/
def isWordLetter (c : Char) : Bool :=
  c = '_' || LetterKind.alnum.accepts c

/-! ### Expressions -/

/-- A place between letters. -/
inductive Place where
  | lineStart
  | lineEnd
  | wordStart
  | wordEnd
  | wordEdge
  | notWordEdge
  | textStart
  | textEnd
  deriving Repr, BEq, DecidableEq, Inhabited

/-- What a set of letters is made of. -/
inductive SetMember where
  | range (first last : Char)
  | kind (k : LetterKind)
  deriving Repr, BEq, DecidableEq, Inhabited

namespace SetMember

/-- Whether a letter is a member. -/
def accepts (c : Char) : SetMember → Bool
  | range first last => first ≤ c && c ≤ last
  | kind k => k.accepts c

end SetMember

/-- Regular expressions. -/
inductive Regular where
  /-- the empty text -/
  | nothing
  | letter (c : Char)
  | any
  | set (isInverted : Bool) (members : List SetMember)
  | at (p : Place)
  | group (number : Nat) (inside : Regular)
  /-- what a group has described before -/
  | again (number : Nat)
  | both (a b : Regular)
  | either (a b : Regular)
  | repeated (least : Nat) (most : Option Nat) (inside : Regular)
  deriving Repr, Inhabited

namespace Regular

/-! ### Descriptions of parts of a text -/

/-- A text in which parts are looked for. -/
structure Subject where
  letters : Array Char
  ignoresCase : Bool := false
  /-- whether line ends inside the text count as such -/
  hasLines : Bool := false

/-- The parts that groups describe. -/
abbrev Groups := List (Nat × Nat × Nat)

/-- A described part. -/
structure Part where
  start : Nat
  stop : Nat
  groups : Groups := []
  deriving Repr, BEq, DecidableEq, Inhabited

namespace Subject

/-- The letter at a position. -/
def letter? (s : Subject) (i : Nat) : Option Char :=
  s.letters[i]?

/-- Whether there is a word letter at a position. -/
def isWordAt (s : Subject) (i : Nat) : Bool :=
  (s.letter? i).any isWordLetter

/-- Whether there is a word letter before a position. -/
def isWordBefore (s : Subject) (i : Nat) : Bool :=
  0 < i && s.isWordAt (i - 1)

/-- Whether a position is a place of some sort. -/
def isAt (s : Subject) (i : Nat) : Place → Bool
  | .lineStart => i = 0 || (s.hasLines && s.letter? (i - 1) = some '\n')
  | .lineEnd => i = s.letters.size || (s.hasLines && s.letter? i = some '\n')
  | .wordStart => !s.isWordBefore i && s.isWordAt i
  | .wordEnd => s.isWordBefore i && !s.isWordAt i
  | .wordEdge => s.isWordBefore i != s.isWordAt i
  | .notWordEdge => s.isWordBefore i == s.isWordAt i
  | .textStart => i = 0
  | .textEnd => i = s.letters.size

/-- Whether two letters are the same. -/
def areSame (s : Subject) (c d : Char) : Bool :=
  c = d || (s.ignoresCase && smallLetter c = smallLetter d)

/-- Whether a set has a letter. -/
def isIn (s : Subject) (isInverted : Bool) (members : List SetMember) (c : Char) : Bool :=
  let isMember (c : Char) : Bool := members.any (SetMember.accepts c)
  let found := isMember c || (s.ignoresCase && (isMember (smallLetter c) || isMember (capitalLetter c)))
  LetterKind.isSound c && found != isInverted

/-- Whether the letters from a position on are the same as those of a part. -/
def repeats (s : Subject) (i start : Nat) : Nat → Bool
  | 0 => true
  | n + 1 =>
    match s.letter? (i + n), s.letter? (start + n) with
    | some c, some d => s.areSame c d && s.repeats i start n
    | _, _ => false

end Subject

/-- Ends in the order in which they are preferred; of equal ones the first one stays. -/
def distinct (size : Nat) (ends : List (Nat × Groups)) : List (Nat × Groups) :=
  match ends with
  | [] => []
  | [e] => [e]
  | ends =>
    let (kept, _) := ends.foldl (fun (kept, seen) (e : Nat × Groups) =>
      if seen.getD e.1 true then (kept, seen) else (e :: kept, seen.setIfInBounds e.1 true))
      (([] : List (Nat × Groups)), Array.replicate (size + 1) false)
    kept.reverse

/-- Ends, the farthest first. -/
def farthestFirst (ends : List (Nat × Groups)) : List (Nat × Groups) :=
  ends.mergeSort fun a b => b.1 ≤ a.1

/-- All ends that can be reached by steps, those after no step included; `limit` bounds how many there are. -/
def reachable (step : Nat → Groups → List (Nat × Groups)) :
    Nat → Array Bool → List (Nat × Groups) → List (Nat × Groups) → List (Nat × Groups)
  | 0, _, found, _ => found
  | _, _, found, [] => found
  | limit + 1, seen, found, (i, g) :: waiting =>
    if seen.getD i true then reachable step limit seen found waiting
    else reachable step limit (seen.setIfInBounds i true) ((i, g) :: found) (step i g ++ waiting)

/-- The ends after an exact number of steps. -/
def afterSteps (size : Nat) (step : Nat → Groups → List (Nat × Groups)) :
    Nat → List (Nat × Groups) → List (Nat × Groups)
  | 0, ends => ends
  | _, [] => []
  | n + 1, ends => afterSteps size step n (distinct size (ends.flatMap fun (i, g) => step i g))

/-- The ends after at most a number of steps, those with more steps first. -/
def afterUpTo (size : Nat) (step : Nat → Groups → List (Nat × Groups)) :
    Nat → List (Nat × Groups) → List (Nat × Groups)
  | 0, ends => ends
  | _, [] => []
  | n + 1, ends =>
    let next := distinct size (ends.flatMap fun (i, g) => step i g)
    distinct size (afterUpTo size step n next ++ ends)

/-- Where the parts of a text end that start at a position and are described by an expression. -/
def ends (s : Subject) : Regular → Nat → Groups → List (Nat × Groups)
  | nothing, i, g => [(i, g)]
  | letter c, i, g => if (s.letter? i).any (s.areSame c) then [(i + 1, g)] else []
  | any, i, g => if (s.letter? i).any LetterKind.isSound then [(i + 1, g)] else []
  | set isInverted members, i, g => if (s.letter? i).any (s.isIn isInverted members) then [(i + 1, g)] else []
  | .at p, i, g => if s.isAt i p then [(i, g)] else []
  | group n inside, i, g =>
    (farthestFirst (ends s inside i g)).map fun (j, g) => (j, (n, i, j) :: g.filter (·.1 != n))
  | again n, i, g =>
    match g.lookup n with
    | some (start, stop) => if s.repeats i start (stop - start) then [(i + (stop - start), g)] else []
    | none => []
  | both a b, i, g => distinct s.letters.size ((ends s a i g).flatMap fun (j, g) => ends s b j g)
  | either a b, i, g => distinct s.letters.size (ends s a i g ++ ends s b i g)
  | repeated least most inside, i, g =>
    let size := s.letters.size
    let started := afterSteps size (fun i g => ends s inside i g) least [(i, g)]
    farthestFirst (match most with
      | none =>
        reachable (fun i g => ends s inside i g) ((size + 2) * (size + 2)) (Array.replicate (size + 1) false)
          [] started
      | some most => afterUpTo size (fun i g => ends s inside i g) (most - least) started)

/-- The parts that start at a position, the longest first. -/
def partsAt (r : Regular) (s : Subject) (i : Nat) : List Part :=
  (farthestFirst (r.ends s i [])).map fun (j, groups) => { start := i, stop := j, groups }

/-- The first part that starts at one of some positions. -/
def findFrom (r : Regular) (s : Subject) : Nat → Nat → Option Part
  | 0, _ => none
  | count + 1, i =>
    match r.partsAt s i with
    | part :: _ => some part
    | [] => r.findFrom s count (i + 1)

/-- The first and longest part that starts at a position or behind it. -/
def find? (r : Regular) (s : Subject) (i : Nat) : Option Part :=
  r.findFrom s (s.letters.size + 1 - i) i

/-- How many groups an expression has. -/
def groupCount : Regular → Nat
  | group _ inside => inside.groupCount + 1
  | both a b => a.groupCount + b.groupCount
  | either a b => a.groupCount + b.groupCount
  | repeated _ _ inside => inside.groupCount
  | _ => 0

/-- An expression for a text. -/
def ofText : List Char → Regular
  | [] => nothing
  | [c] => letter c
  | c :: rest => both (letter c) (ofText rest)

end Regular

end Stencil.Shell
