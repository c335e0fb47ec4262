import Stencil.Dialog.Constant
import Stencil.Dialog.Emoji
import Stencil.Fault
import Stencil.Text.Pieces

namespace Stencil.Dialog

/-!
# Console markup

Console texts may hold tags in brackets. A tag with a slash closes the last open one, or the last one of the
same style; a backslash takes the meaning from a bracket.

* `Markup.pieces` — the texts and tags of a markup;
* `Markup.plain` — the text that the console shows, without the tags.
-/

namespace Markup

/-! ### Pieces -/

/-- A part of a markup. -/
inductive Piece where
  | text (s : List Char)
  | tag (s : List Char)
  deriving Repr, BEq, DecidableEq, Inhabited

/-- Whether a tag may start with a character. -/
def startsTag (c : Char) : Bool :=
  ('a' ≤ c && c ≤ 'z') || c = '#' || c = '/' || c = '@'

/-- The tag at the start of a text, with what follows it. -/
def tagAt? : List Char → Option (List Char × List Char)
  | '[' :: c :: rest =>
    let isInside (c : Char) : Bool := c != '[' && c != ']'
    match startsTag c, rest.dropWhile isInside with
    | true, ']' :: after => some (c :: rest.takeWhile isInside, after)
    | _, _ => none
  | _ => none

/-- The text before the first tag, the number of backslashes in front of the tag, the tag and what follows
it. -/
def firstTag : List Char → List Char × Option (Nat × List Char × List Char)
  | [] => ([], none)
  | c :: rest =>
    let slashes := ((c :: rest).takeWhile (· = '\\')).length
    match tagAt? ((c :: rest).drop slashes) with
    | some (tag, after) => ([], some (slashes, tag, after))
    | none =>
      let (before, found) := firstTag rest
      (c :: before, found)

/-- Two backslashes before a tag stand for one; an odd one makes the tag a text. -/
def tagPieces (slashes : Nat) (tag : List Char) : List Piece :=
  let kept := if slashes / 2 = 0 then [] else [Piece.text (List.replicate (slashes / 2) '\\')]
  kept ++ [if slashes % 2 = 1 then .text ('[' :: tag ++ [']']) else .tag tag]

/-- The texts and tags of a markup; the number bounds how many tags there are. -/
def piecesUpTo : Nat → List Char → List Piece
  | 0, s => [.text s]
  | n + 1, s =>
    match firstTag s with
    | (before, none) => [.text before]
    | (before, some (slashes, tag, after)) =>
      .text before :: tagPieces slashes tag ++ piecesUpTo n after

/-- The texts and tags of a markup. -/
def pieces (s : List Char) : List Piece :=
  piecesUpTo s.length s

/-! ### Styles -/

/-- The names of colors. -/
def colorNames : String :=
  "black red green yellow blue magenta cyan white bright_black bright_red bright_green bright_yellow
bright_blue bright_magenta bright_cyan bright_white grey0 gray0 navy_blue dark_blue blue3 blue1
dark_green deep_sky_blue4 dodger_blue3 dodger_blue2 green4 spring_green4 turquoise4 deep_sky_blue3
dodger_blue1 green3 spring_green3 dark_cyan light_sea_green deep_sky_blue2 deep_sky_blue1
spring_green2 cyan3 dark_turquoise turquoise2 green1 spring_green1 medium_spring_green cyan2 cyan1
dark_red deep_pink4 purple4 purple3 blue_violet orange4 grey37 gray37 medium_purple4 slate_blue3
royal_blue1 chartreuse4 dark_sea_green4 pale_turquoise4 steel_blue steel_blue3 cornflower_blue
chartreuse3 cadet_blue sky_blue3 steel_blue1 pale_green3 sea_green3 aquamarine3 medium_turquoise
chartreuse2 sea_green2 sea_green1 aquamarine1 dark_slate_gray2 dark_magenta dark_violet purple
light_pink4 plum4 medium_purple3 slate_blue1 yellow4 wheat4 grey53 gray53 light_slate_grey
light_slate_gray medium_purple light_slate_blue dark_olive_green3 dark_sea_green light_sky_blue3
sky_blue2 dark_sea_green3 dark_slate_gray3 sky_blue1 chartreuse1 light_green pale_green1
dark_slate_gray1 red3 medium_violet_red magenta3 dark_orange3 indian_red hot_pink3 medium_orchid3
medium_orchid medium_purple2 dark_goldenrod light_salmon3 rosy_brown grey63 gray63 medium_purple1
gold3 dark_khaki navajo_white3 grey69 gray69 light_steel_blue3 light_steel_blue yellow3
dark_sea_green2 light_cyan3 light_sky_blue1 green_yellow dark_olive_green2 dark_sea_green1
pale_turquoise1 deep_pink3 magenta2 hot_pink2 orchid medium_orchid1 orange3 light_pink3 pink3 plum3
violet light_goldenrod3 tan misty_rose3 thistle3 plum2 khaki3 light_goldenrod2 light_yellow3 grey84
gray84 light_steel_blue1 yellow2 dark_olive_green1 honeydew2 light_cyan1 red1 deep_pink2 deep_pink1
magenta1 orange_red1 indian_red1 hot_pink dark_orange salmon1 light_coral pale_violet_red1 orchid2
orchid1 orange1 sandy_brown light_salmon1 light_pink1 pink1 plum1 gold1 navajo_white1 misty_rose1
thistle1 yellow1 light_goldenrod1 khaki1 wheat1 cornsilk1 grey100 gray100 grey3 gray3 grey7 gray7
grey11 gray11 grey15 gray15 grey19 gray19 grey23 gray23 grey27 gray27 grey30 gray30 grey35 gray35
grey39 gray39 grey42 gray42 grey46 gray46 grey50 gray50 grey54 gray54 grey58 gray58 grey62 gray62
grey66 gray66 grey70 gray70 grey74 gray74 grey78 gray78 grey82 gray82 grey85 gray85 grey89 gray89
grey93 gray93"

/-- Whether a text is a number up to a bound, written in digits alone. -/
def isNumberUpTo (bound : Nat) (s : List Char) : Bool :=
  !s.isEmpty && (Decimal.readBounded? s).any fun n => n ≤ (bound : Int)

/-- What stands between a word with an opening bracket and the closing bracket at the end. -/
def between? (word : String) (s : List Char) : Option (List Char) := do
  let rest ← Text.stripPrefix? word.toList s
  if rest.getLast? = some ')' then some rest.dropLast else none

/-- Whether a word is a color: a name, six hexadecimal digits, a number, or three parts. A part without a number
fails. -/
def isColor (word : String) : Except Fault Bool :=
  let s := (Text.lowercase word).toList
  let isHex (c : Char) : Bool := c.isDigit || ('a' ≤ c && c ≤ 'f')
  match between? "color(" s, between? "rgb(" s, s with
  | some n, _, _ => .ok (n.all Char.isDigit && n.length ≤ 3 && isNumberUpTo 255 n)
  | _, some parts, _ =>
    if parts.isEmpty || !(parts.all fun c => Text.isDecimal c || Text.isBlank c || c = ',') then .ok false
    else
      let parts := Text.splitAtChar ',' parts
      if parts.length != 3 then .ok false
      else if parts.any fun p => (Decimal.readBounded? p).isNone then .error (.foreign .wrongValue)
      else .ok (parts.all (isNumberUpTo 255))
  | _, _, '#' :: digits => .ok (digits.length = 6 && digits.all isHex)
  | _, _, s => .ok (s = "default".toList || (Text.words colorNames.toList).contains s)

/-- The attributes of styles with the words for them, in the order in which styles name them. -/
def attributeWords : List (String × List String) :=
  [("bold", ["bold", "b"]), ("dim", ["dim", "d"]), ("italic", ["italic", "i"]),
   ("underline", ["underline", "u"]), ("blink", ["blink"]), ("blink2", ["blink2"]),
   ("reverse", ["reverse", "r"]), ("conceal", ["conceal", "c"]), ("strike", ["strike", "s"]),
   ("underline2", ["underline2", "uu"]), ("frame", ["frame"]), ("encircle", ["encircle"]),
   ("overline", ["overline", "o"])]

/-- The attribute that a word names. -/
def attributeOf? (word : String) : Option String :=
  (attributeWords.find? fun (_, words) => words.contains word).map (·.1)

/-- What a style sets. -/
structure Style where
  attributes : List (String × Bool) := []
  color : Option String := none
  background : Option String := none
  link : Option String := none
  deriving Repr, BEq, DecidableEq, Inhabited

/-- Add what words say to a style; nothing if they are no style. -/
def Style.addWords (s : Style) : List String → Except Fault (Option Style)
  | [] => .ok (some s)
  | original :: rest =>
    let word := Text.lowercase original
    if word = "on" then
      match rest with
      | color :: rest => do
        if !(← isColor color) then return none
        addWords { s with background := some (Text.lowercase color) } rest
      | [] => .ok none
    else if word = "not" then
      match rest with
      | negated :: rest =>
        match attributeOf? negated with
        | some a => addWords { s with attributes := (a, false) :: s.attributes } rest
        | none => .ok none
      | [] => .ok none
    else if word = "link" then
      match rest with
      | target :: rest => addWords { s with link := some target } rest
      | [] => .ok none
    else match attributeOf? word with
      | some a => addWords { s with attributes := (a, true) :: s.attributes } rest
      | none => do
        if !(← isColor word) then return none
        addWords { s with color := some word } rest

/-- The words of a style in their order. -/
def Style.text (s : Style) : String :=
  let attributes := attributeWords.filterMap fun (a, _) =>
    (s.attributes.lookup a).map fun on => if on then a else "not " ++ a
  let color := s.color.toList
  let background := (s.background.map ("on " ++ ·)).toList
  let link := (s.link.map ("link " ++ ·)).toList
  match attributes ++ color ++ background ++ link with
  | [] => "none"
  | words => Text.joined " " words

/-- The name by which a closing tag finds its opening tag. -/
def styleName (tag : List Char) : Except Fault String := do
  if tag.isEmpty || Text.trim tag = "none".toList then return "none"
  match ← ({} : Style).addWords ((Text.words tag).map String.ofList) with
  | some s => return s.text
  | none => return Text.lowercase (.ofList (Text.trim tag))

/-! ### Plain text -/

/-- An open tag: the name that closes it, and what follows an equals sign in it. -/
structure OpenTag where
  name : String
  parameters : Option (List Char)
  deriving Repr, BEq, DecidableEq, Inhabited

/-- The arguments of a handler: what stands in parentheses after its name, or else the whole text. -/
def handlerArguments (parameters : List Char) : List Char :=
  let s := Text.trim parameters
  match s.dropWhile fun c => Text.isWordChar c || c = '.' with
  | [] => ['(', ')']
  | '(' :: inside =>
    if inside.getLast? = some ')' && !inside.contains '\n' then '(' :: inside else s
  | _ => s

/-- Close an open tag; the arguments of a handler must be constants. -/
def close (t : OpenTag) : Except Fault Unit :=
  match t.name.toList, t.parameters with
  | '@' :: _, some parameters =>
    if parameters.isEmpty || Constant.isConstant (handlerArguments parameters) then .ok ()
    else .error (.foreign .badMarkup)
  | _, _ => .ok ()

/-- The open tags after a tag, innermost first. A tag that is closed must be open. -/
def afterTag (open_ : List OpenTag) (tag : List Char) : Except Fault (List OpenTag) := do
  let name := tag.takeWhile (· != '=')
  let parameters := if name.length = tag.length then none else some (tag.drop (name.length + 1))
  match name with
  | '/' :: closed =>
    let style ← if (Text.trim closed).isEmpty then pure none else some <$> styleName (Text.trim closed)
    let isMeant (t : OpenTag) : Bool := style.all (· = t.name)
    match open_.find? isMeant with
    | none => throw (.foreign .badMarkup)
    | some t =>
      close t
      return open_.eraseP isMeant
  | name => return { name := ← styleName name, parameters } :: open_

/-- Characters that the console leaves out. -/
def isControl (c : Char) : Bool :=
  [7, 8, 11, 12, 13].contains c.toNat

/-- A text without the characters that the console leaves out. -/
def withoutControls (s : List Char) : List Char :=
  s.filter (!isControl ·)

/-- A text as the console shows it. -/
def shownText (s : List Char) : List Char :=
  withoutControls (Emoji.replaced s)

/-- The text of pieces while some tags are open. -/
def textOf (open_ : List OpenTag) : List Piece → Except Fault (List Char)
  | [] => .ok []
  | .text s :: rest => do
    return shownText (Text.replace ['\\', '['] ['['] s) ++ (← textOf open_ rest)
  | .tag t :: rest => do textOf (← afterTag open_ t) rest

/-- The text that the console shows for a markup. -/
def plain (markup : String) : Except Fault String :=
  let s := markup.toList
  if s.contains '[' then (textOf [] (pieces s)).map .ofList else .ok (.ofList (shownText s))

end Markup

end Stencil.Dialog
