import Stencil.Decimal.Reader
import Stencil.Text.Letters
import Stencil.Text.Pieces

namespace Stencil.Dialog

/-!
# Constants in console markup

What follows the name of a handler in a tag is a constant: numbers, quoted texts, and tuples, lists, sets and
mappings of constants.

* `Constant.isConstant` — whether a text is a constant.

Each reader gives what follows the part that it reads.
-/

namespace Constant

/-- Skip blanks. -/
def skipBlanks (s : List Char) : List Char :=
  s.dropWhile fun c => c = ' ' || c = '\t' || c = '\n' || c = '\x0c'

/-- Digits with single underscores between them. -/
def digits? (isDigit : Char → Bool) (s : List Char) : Option (List Char) :=
  let run := s.takeWhile fun c => isDigit c || c = '_'
  let isWell := run.head?.any isDigit && run.getLast?.any isDigit &&
    (run.zip (run.drop 1)).all fun (a, b) => !(a = '_' && b = '_')
  if isWell then some (s.drop run.length) else none

/-- An exponent, if there is one. -/
def exponent? (s : List Char) : Option (List Char) :=
  match s with
  | e :: rest =>
    if e = 'e' || e = 'E' then
      match rest with
      | '+' :: rest => digits? Char.isDigit rest
      | '-' :: rest => digits? Char.isDigit rest
      | rest => digits? Char.isDigit rest
    else some s
  | [] => some s

/-- A number: whole in some base, or with a fraction or an exponent, and perhaps imaginary. -/
def number? (s : List Char) : Option (List Char) := do
  let based (isDigit : Char → Bool) (rest : List Char) : Option (List Char) :=
    digits? isDigit (match rest with | '_' :: rest => rest | rest => rest)
  let after ← match s with
    | '0' :: 'x' :: rest | '0' :: 'X' :: rest => based (fun c => (Decimal.digitValue? 16 c).isSome) rest
    | '0' :: 'o' :: rest | '0' :: 'O' :: rest => based (fun c => '0' ≤ c && c ≤ '7') rest
    | '0' :: 'b' :: rest | '0' :: 'B' :: rest => based (fun c => c = '0' || c = '1') rest
    | '.' :: rest => (digits? Char.isDigit rest).bind exponent?
    | s => do
      let whole ← digits? Char.isDigit s
      let written := s.take (s.length - whole.length)
      let fraction := match whole with
        | '.' :: rest => if rest.head?.any Char.isDigit then digits? Char.isDigit rest else some rest
        | rest => some rest
      let after ← fraction.bind exponent?
      let isWhole := after.length = whole.length && !(after.head?.any fun c => c = 'j' || c = 'J')
      if isWhole && written.head? = some '0' && !(written.all fun c => c = '0' || c = '_') then none
      else some after
  match after with
  | 'j' :: rest | 'J' :: rest => return rest
  | rest => return rest

/-- The rest of a quoted text; `isRaw` says that a backslash has no meaning but before a quote. -/
def quotedRest? (quote : Char) (isRaw : Bool) : Nat → List Char → Option (List Char)
  | 0, _ => none
  | _, [] => none
  | _, ['\\'] => none
  | fuel + 1, '\\' :: c :: rest =>
    let hex (width : Nat) : Option (List Char) :=
      if rest.length ≥ width && (rest.take width).all fun d => (Decimal.digitValue? 16 d).isSome then
        quotedRest? quote isRaw fuel (rest.drop width)
      else none
    if isRaw then quotedRest? quote isRaw fuel rest
    else if c = 'x' then hex 2
    else if c = 'u' then hex 4
    else if c = 'U' then hex 8
    else quotedRest? quote isRaw fuel rest
  | fuel + 1, c :: rest =>
    if c = quote then some rest else if c = '\n' then none else quotedRest? quote isRaw fuel rest

/-- A quoted text, perhaps with letters in front. -/
def quoted? (s : List Char) : Option (List Char) :=
  let start := s.takeWhile fun c => c.isAlpha
  let kind := String.ofList (start.map Char.toLower)
  match s.drop start.length with
  | c :: rest =>
    if (c = '\x27' || c = '"') && ["", "r", "u", "b", "br", "rb"].contains kind then
      quotedRest? c (kind.contains 'r') (rest.length + 1) rest
    else none
  | [] => none

/-- A word with a constant of its own. -/
def word? (s : List Char) : Option (List Char) :=
  let word := s.takeWhile Text.isWordChar
  if ["None", "True", "False"].contains (String.ofList word) then some (s.drop word.length)
  else if s.take 3 = ['.', '.', '.'] then some (s.drop 3)
  else none

/-- Quoted texts side by side. -/
def moreQuoted : Nat → List Char → List Char
  | 0, s => s
  | fuel + 1, s =>
    match quoted? (skipBlanks s) with
    | some rest => moreQuoted fuel rest
    | none => s

/-- A number with what may be added to it: an imaginary one. -/
def sum? (s : List Char) : Option (List Char) := do
  let after ← number? s
  match skipBlanks after with
  | c :: rest =>
    if c = '+' || c = '-' then
      let rest := skipBlanks rest
      let last ← number? rest
      let written := rest.take (rest.length - last.length)
      if written.getLast?.any fun c => c = 'j' || c = 'J' then some last else none
    else return after
  | [] => return after

/-- Items up to a closing bracket, with commas between them. -/
def items? (one : List Char → Option (List Char)) (close : Char) : Nat → List Char → Option (List Char)
  | 0, _ => none
  | fuel + 1, s => do
    match skipBlanks s with
    | [] => none
    | c :: rest =>
      if c = close then some rest
      else
        match skipBlanks (← one (c :: rest)) with
        | ',' :: rest => items? one close fuel rest
        | d :: rest => if d = close then some rest else none
        | [] => none

/-- A pair of a mapping, or an item of a set. -/
def pairOrItem? (one : List Char → Option (List Char)) (s : List Char) : Option (List Char) := do
  let after ← one s
  match skipBlanks after with
  | ':' :: rest => one (skipBlanks rest)
  | _ => return after

/-- A constant; `fuel` bounds the nesting. -/
def constant? : Nat → List Char → Option (List Char)
  | 0, _ => none
  | fuel + 1, s =>
    let one := constant? fuel
    let size := s.length + 1
    match skipBlanks s with
    | '(' :: rest =>
      -- A comma alone stands for nothing.
      if (skipBlanks rest).head? = some ',' then none else items? one ')' size rest
    | '[' :: rest => if (skipBlanks rest).head? = some ',' then none else items? one ']' size rest
    | '\x7b' :: rest => items? (pairOrItem? one) '\x7d' size rest
    | '-' :: rest => sum? (skipBlanks rest)
    | '+' :: rest => sum? (skipBlanks rest)
    | s =>
      match quoted? s with
      | some rest => some (moreQuoted size rest)
      | none => (sum? s).or (word? s)

/-- Whether a text is a constant, or several with commas between them. -/
def isConstant (s : List Char) : Bool :=
  let body := s ++ [')']
  !(skipBlanks s).isEmpty && (skipBlanks s).head? != some ',' &&
    (items? (constant? (s.length + 1)) ')' (s.length + 2) body).any fun rest => rest.isEmpty

end Constant

end Stencil.Dialog
