import Stencil.Decimal.Reader
import Stencil.Fault
import Stencil.Text.CharacterName
import Stencil.Text.Identifier
import Stencil.Text.Letters
import Stencil.Text.Pieces
import Stencil.Text.Quoted

namespace Stencil.Template

/-!
# Tokens of templates

A template is text with tags in it. Tags are statements, outputs and comments; what stands between two
`raw` tags is text.

* `Token` — the parts that templates are made of;
* `Token.scan` — the tokens of a source;
* `textBefore` — what remains of the text before a tag.

A hyphen inside a tag takes away the blanks next to it. Without a sign, a statement or comment takes away
the blanks before it on its line and the line end right after it.
-/

/-- Why a source is no template. -/
inductive Defect where
  /-- the source breaks a rule of the template language -/
  | malformed
  /-- the source cannot be compiled for another reason -/
  | foreign (f : Foreign)
  deriving Repr, BEq, DecidableEq, Inhabited

/-- The parts that templates are made of. -/
inductive Token where
  | data (text : String)
  | statementStart
  | statementEnd
  | outputStart
  | outputEnd
  | name (text : String)
  | text (value : String)
  | integer (n : Nat)
  /-- a whole number with more digits than can be read -/
  | longInteger
  | float (x : Float)
  | sign (text : String)
  deriving BEq, Inhabited

/-! ### Tags -/

/-- What a tag contains. -/
inductive TagKind where
  | statement
  | output
  | comment
  | raw
  deriving Repr, BEq, DecidableEq, Inhabited

/-- What a sign at the edge of a tag does to the blanks there. -/
inductive Trim where
  /-- no sign: the rules for lines apply -/
  | byLine
  /-- all blanks go -/
  | all
  /-- all blanks stay -/
  | nothing
  deriving Repr, BEq, DecidableEq, Inhabited

/-- The sign at the start of a text. -/
def trimSign : List Char → Trim × List Char
  | '-' :: rest => (.all, rest)
  | '+' :: rest => (.nothing, rest)
  | s => (.byLine, s)

/-- What follows a word that may have blanks around it. -/
def wordBetweenBlanks? (word : String) (s : List Char) : Option (List Char) :=
  (Text.stripPrefix? word.toList (Text.trimLeft s)).map Text.trimLeft

/-- The tag that opens at the start of a text. -/
def openTag? : List Char → Option (TagKind × Trim × List Char)
  | '{' :: '%' :: rest =>
    let (trim, inside) := trimSign rest
    let rawEnd := (wordBetweenBlanks? "raw" inside).bind fun s =>
      match s with
      | '-' :: '%' :: '}' :: after => some (Text.trimLeft after)
      | '%' :: '}' :: after => some after
      | _ => none
    match rawEnd with
    | some after => some (.raw, trim, after)
    | none => some (.statement, trim, inside)
  | '{' :: '{' :: rest =>
    let (trim, inside) := trimSign rest
    some (.output, trim, inside)
  | '{' :: '#' :: rest =>
    let (trim, inside) := trimSign rest
    some (.comment, trim, inside)
  | _ => none

/-- The text before the first tag, and that tag. -/
def firstTag : List Char → List Char × Option (TagKind × Trim × List Char)
  | [] => ([], none)
  | c :: rest =>
    match openTag? (c :: rest) with
    | some tag => ([], some tag)
    | none => let (before, tag) := firstTag rest
      (c :: before, tag)

/-- What remains of the text before a tag. `atLineStart` says whether the text starts a line. -/
def textBefore (trim : Trim) (byLine atLineStart : Bool) (s : List Char) : List Char :=
  match trim with
  | .all => Text.trimRight s
  | .nothing => s
  | .byLine =>
    if byLine then
      let last := (s.reverse.takeWhile (· != '\n')).reverse
      let head := s.take (s.length - last.length)
      if (!head.isEmpty || atLineStart) && last.all Text.isBlank then head else s
    else s

/-- A text without a line end at its start. -/
def dropLineEnd : List Char → List Char
  | '\n' :: rest => rest
  | s => s

/-- What follows the end of a statement or comment, if the text starts with it. -/
def closeTag? (mark : Char) : List Char → Option (List Char)
  | '+' :: m :: '}' :: rest => if m = mark then some rest else none
  | '-' :: m :: '}' :: rest => if m = mark then some (Text.trimLeft rest) else none
  | m :: '}' :: rest => if m = mark then some (dropLineEnd rest) else none
  | _ => none

/-- What follows the end of an output, if the text starts with it. -/
def closeOutput? : List Char → Option (List Char)
  | '-' :: '}' :: '}' :: rest => some (Text.trimLeft rest)
  | '}' :: '}' :: rest => some rest
  | _ => none

/-- What follows the end of a comment. -/
def skipComment? : List Char → Option (List Char)
  | [] => none
  | c :: rest =>
    match closeTag? '#' (c :: rest) with
    | some after => some after
    | none => skipComment? rest

/-- The end of a raw part, if the text starts with it. -/
def closeRaw? : List Char → Option (Trim × List Char)
  | '{' :: '%' :: rest => do
    let (trim, inside) := trimSign rest
    let after ← (wordBetweenBlanks? "endraw" inside).bind (closeTag? '%')
    return (trim, after)
  | _ => none

/-- The text of a raw part, the sign at its end, and what follows. -/
def rawText? : List Char → Option (List Char × Trim × List Char)
  | [] => none
  | c :: rest =>
    match closeRaw? (c :: rest) with
    | some (trim, after) => some ([], trim, after)
    | none => (rawText? rest).map fun (before, trim, after) => (c :: before, trim, after)

/-! ### Inside tags -/

/-- Digits in groups with single underscores between them, and what follows. -/
def digitGroups (isDigit : Char → Bool) : List Char → List Char × List Char
  | [] => ([], [])
  | '_' :: c :: rest =>
    if isDigit c then let (ds, after) := digitGroups isDigit rest
      (c :: ds, after)
    else ([], '_' :: c :: rest)
  | c :: rest =>
    if isDigit c then let (ds, after) := digitGroups isDigit rest
      (c :: ds, after)
    else ([], c :: rest)

/-- Digits of a number: the first stands without an underscore before it. -/
def digits? (s : List Char) : Option (List Char × List Char) :=
  match s with
  | c :: _ => if Text.isDigit c then some (digitGroups Text.isDigit s) else none
  | [] => none

/-- The digits after a decimal point. -/
def fraction? : List Char → Option (List Char × List Char)
  | '.' :: rest => digits? rest
  | _ => none

/-- The exponent of a number. -/
def exponent? : List Char → Option (List Char × List Char)
  | c :: rest =>
    if c = 'e' || c = 'E' then
      match rest with
      | '+' :: ds => digits? ds
      | '-' :: ds => (digits? ds).map fun (e, after) => ('-' :: e, after)
      | ds => digits? ds
    else none
  | [] => none

/-- A number with a fraction or an exponent. Only basic digits have a value in it. -/
def floatToken? (s : List Char) : Except Defect (Option (Token × List Char)) :=
  let value (whole fraction exponent rest : List Char) : Except Defect (Option (Token × List Char)) :=
    let isBasic (c : Char) : Bool := c.isDigit || c = '-'
    if !(whole ++ fraction ++ exponent).all isBasic then .error (.foreign .badProgram)
    else
      let text := whole ++ '.' :: (if fraction.isEmpty then ['0'] else fraction) ++
        (if exponent.isEmpty then [] else 'e' :: exponent)
      .ok (some (.float ((Decimal.readFloat? text).getD 0), rest))
  match digits? s with
  | none => .ok none
  | some (whole, rest) =>
    match fraction? rest with
    | some (f, rest) =>
      match exponent? rest with
      | some (e, rest) => value whole f e rest
      | none => value whole f [] rest
    | none =>
      match exponent? rest with
      | some (e, rest) => value whole [] e rest
      | none => .ok none

/-- A number with a prefix that names its base. -/
def basedToken? (letter : Char) (base : Nat) : List Char → Option (Token × List Char)
  | '0' :: l :: rest =>
    if l.toLower = letter then
      let isDigit (c : Char) : Bool :=
        (Decimal.digitValue? base c).isSome && (base = 16 || c.toNat < 128)
      match digitGroups isDigit rest with
      | ([], _) => none
      | (ds, after) => some (.integer (Decimal.ofDigits base (ds.filterMap (Decimal.digitValue? base))), after)
    else none
  | _ => none

/-- A whole number; a decimal number starts with a basic digit, and with zero only if it is zero. -/
def integerToken? (s : List Char) : Option (Token × List Char) :=
  (basedToken? 'b' 2 s).or <| (basedToken? 'o' 8 s).or <| (basedToken? 'x' 16 s).or <|
    match s with
    | [] => none
    | c :: _ =>
      if c = '0' then some (.integer 0, (digitGroups (· == '0') s).2)
      else if c.isDigit then
        let (ds, after) := digitGroups Text.isDigit s
        if ds.length > Decimal.maxDigits then some (.longInteger, after)
        else some (.integer (Decimal.ofDigits 10 (ds.filterMap (Decimal.digitValue? 10))), after)
      else none

/-- Put characters beyond the basic ones in escaped form. -/
def escapeWide (s : List Char) : List Char :=
  s.flatMap fun c =>
    let n := c.toNat
    if n < 0x80 then [c]
    else if n < 0x100 then '\\' :: 'x' :: Text.hexDigits 2 n
    else if n < 0x10000 then '\\' :: 'u' :: Text.hexDigits 4 n
    else '\\' :: 'U' :: Text.hexDigits 8 n

/-- A character from hexadecimal digits, all of which must be there. -/
def hexCode? (width : Nat) (s : List Char) : Option (Char × List Char) := do
  let ds := s.take width
  guard (ds.length = width)
  let values ← ds.mapM Text.hexValue?
  let n := Decimal.ofDigits 16 values
  guard (n < 0x110000)
  return (Char.ofNat n, s.drop width)

/-- The characters that a letter after a backslash stands for. -/
def shortEscapes : List (Char × Char) :=
  [('\\', '\\'), ('\x27', '\x27'), ('"', '"'), ('a', '\x07'), ('b', '\x08'), ('f', '\x0c'), ('n', '\n'),
   ('r', '\r'), ('t', '\t'), ('v', '\x0b')]

/-- The text that an escaped text stands for; an unknown escape stands for itself. `fuel` bounds the
length. -/
def unescape? : Nat → List Char → Option (List Char)
  | 0, _ => some []
  | _, [] => some []
  | _, ['\\'] => none
  | fuel + 1, '\\' :: c :: rest =>
    let octal := (c :: rest).takeWhile fun d => '0' ≤ d && d ≤ '7'
    if c = '\n' then unescape? fuel rest
    else if c = 'x' then do
      let (d, rest) ← hexCode? 2 rest
      return d :: (← unescape? fuel rest)
    else if c = 'u' then do
      let (d, rest) ← hexCode? 4 rest
      return d :: (← unescape? fuel rest)
    else if c = 'U' then do
      let (d, rest) ← hexCode? 8 rest
      return d :: (← unescape? fuel rest)
    else if c = 'N' then
      match rest with
      | '\x7b' :: rest => do
        let name := rest.takeWhile (· != '\x7d')
        let d ← Text.characterNamed? name
        return d :: (← unescape? fuel ((rest.drop name.length).drop 1))
      | _ => none
    else if !octal.isEmpty then do
      let ds := octal.take 3
      let d := Char.ofNat (Decimal.ofDigits 8 (ds.filterMap (Decimal.digitValue? 8)))
      return d :: (← unescape? fuel ((c :: rest).drop ds.length))
    else match shortEscapes.lookup c with
      | some d => do return d :: (← unescape? fuel rest)
      | none => do return '\\' :: c :: (← unescape? fuel rest)
  | fuel + 1, c :: rest => do return c :: (← unescape? fuel rest)

/-- The text up to a closing quote, backslashes hiding the character after them. -/
def untilQuote? (quote : Char) : List Char → Option (List Char × List Char)
  | [] => none
  | ['\\'] => none
  | '\\' :: c :: rest => (untilQuote? quote rest).map fun (s, after) => ('\\' :: c :: s, after)
  | c :: rest =>
    if c = quote then some ([], rest)
    else (untilQuote? quote rest).map fun (s, after) => (c :: s, after)

/-- The signs of expressions, longer ones first. -/
def signs : List String :=
  ["**", "//", "==", "!=", ">=", "<=", "+", "-", "/", "*", "%", "~", "[", "]", "(", ")", "\x7b", "\x7d",
   ">", "<", "=", ".", ":", "|", ",", ";"]

/-- The sign at the start of a text. -/
def sign? (s : List Char) : Option (String × List Char) :=
  signs.findSome? fun sign => (Text.stripPrefix? sign.toList s).map fun rest => (sign, rest)

/-- The bracket that closes another. -/
def closing? (sign : String) : Option String :=
  if sign = "(" then some ")" else if sign = "[" then some "]"
  else if sign = "\x7b" then some "\x7d" else none

/-- Whether a sign closes a bracket. -/
def isClosing (sign : String) : Bool :=
  sign = ")" || sign = "]" || sign = "\x7d"

/-- A name, a quoted text, a number or a sign. `previous` is the character before. -/
def simpleToken? (previous : Option Char) (s : List Char) : Except Defect (Option (Token × List Char)) :=
  match s with
  | [] => .ok none
  | c :: rest => do
    -- Directly after a point there are no fractions, only the positions of items.
    let float ← if previous == some '.' then pure none else floatToken? s
    match float.or (integerToken? s) with
    | some found => return some found
    | none =>
      if Text.isWordChar c then
        let name := s.takeWhile Text.isWordChar
        if Text.isName name then return some (.name (.ofList name), s.drop name.length)
        else throw .malformed
      else if c = '\x27' || c = '"' then
        match untilQuote? c rest with
        | none => return none
        | some (inside, after) =>
          let wide := escapeWide (Text.unifyLineEnds inside)
          match unescape? (wide.length + 1) wide with
          | some value => return some (.text (.ofList value), after)
          | none => throw .malformed
      else return (sign? s).map fun (sign, after) => (.sign sign, after)

/-! ### Scanning -/

/-- What a scanner is inside of: text, or a tag with brackets still open in it. -/
inductive Mode where
  | text (atLineStart : Bool)
  | tag (isOutput : Bool) (brackets : List String) (previous : Option Char)

/-- Whether a text, of which another is the rest, ends a line right before the rest. -/
def endsLineBefore (s rest : List Char) : Bool :=
  (s.drop (s.length - rest.length - 1)).head? == some '\n'

namespace Token

/-- A text as a token, if there is any. -/
def ofText (s : List Char) : List Token :=
  if s.isEmpty then [] else [.data (.ofList s)]

/-- The tokens of a text from a mode on; `fuel` bounds their number. -/
def scanFrom : Nat → Mode → List Char → Except Defect (List Token)
  | 0, _, _ => .error .malformed
  | fuel + 1, .text atLineStart, s =>
    match firstTag s with
    | (plain, none) => .ok (ofText plain)
    | (plain, some (kind, trim, inside)) => do
      let before := ofText (textBefore trim (kind != .output) atLineStart plain)
      match kind with
      | .statement =>
        return before ++ .statementStart :: (← scanFrom fuel (.tag false [] none) inside)
      | .output => return before ++ .outputStart :: (← scanFrom fuel (.tag true [] none) inside)
      | .comment =>
        match skipComment? inside, inside with
        | some after, _ =>
          return before ++ (← scanFrom fuel (.text (endsLineBefore inside after)) after)
        | none, [] => return before
        | none, _ => throw .malformed
      | .raw =>
        match rawText? inside, inside with
        | some (raw, trim, after), _ =>
          let content := ofText (textBefore trim true (endsLineBefore s inside) raw)
          return before ++ content ++ (← scanFrom fuel (.text (endsLineBefore inside after)) after)
        | none, [] => return before
        | none, _ => throw .malformed
  | fuel + 1, .tag isOutput brackets previous, s =>
    -- Inside brackets no tag ends.
    let close := if !brackets.isEmpty then none
      else if isOutput then closeOutput? s else closeTag? '%' s
    match close, s with
    | some after, _ => do
      let closing := if isOutput then Token.outputEnd else .statementEnd
      return closing :: (← scanFrom fuel (.text (endsLineBefore s after)) after)
    | none, [] => .ok []
    | none, c :: rest =>
      if Text.isBlank c then scanFrom fuel (.tag isOutput brackets (some c)) rest
      else do
        match ← simpleToken? previous s with
        | none => throw .malformed
        | some (token, after) =>
          let last := (s.drop (s.length - after.length - 1)).head?
          let brackets ← match token with
            | .sign symbol =>
              match closing? symbol with
              | some expected => pure (expected :: brackets)
              | none =>
                if isClosing symbol then
                  match brackets with
                  | expected :: outer => if expected = symbol then pure outer else throw .malformed
                  | [] => throw .malformed
                else pure brackets
            | _ => pure brackets
          return token :: (← scanFrom fuel (.tag isOutput brackets last) after)

/-- The tokens of a source. -/
def scan (source : List Char) : Except Defect (List Token) :=
  let s := Text.unifyLineEnds source
  scanFrom (2 * s.length + 2) (.text true) s

end Token

end Stencil.Template
