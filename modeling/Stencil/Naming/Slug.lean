import Stencil.Decimal.Reader
import Stencil.Text.Decomposition
import Stencil.Text.Letters
import Stencil.Text.Pieces

namespace Stencil.Naming

/-!
# Slugs

The words of a text, made of basic Latin letters and digits and joined by underscores. Letters keep
their case. Accents are dropped, other scripts transliterated, character references resolved, and
apostrophes and digit-grouping commas do not separate words.

* `transliterate` — a text in the basic Latin alphabet for a text in any script;
* `namedCharacters` — the names that may stand between an ampersand and a semicolon;
* `slug` — the slug of a text;
* `asciiWords` — the maximal runs of letters and digits of a text.
-/

/-! ### Transliteration -/

/-- Spellings of single characters. -/
def spellings : List (Nat × String) := [
  (0xA3, "PS"), (0xA9, "(c)"), (0xC6, "AE"), (0xDE, "Th"), (0xDF, "ss"), (0xF8, "o"),
  (0x111, "d"), (0x131, "i"), (0x141, "L"), (0x153, "oe"), (0x300, ""), (0x301, ""), (0x302, ""),
  (0x303, ""), (0x306, ""), (0x307, ""), (0x308, ""), (0x30A, ""), (0x30C, ""), (0x395, "E"),
  (0x3B1, "a"), (0x3B2, "b"), (0x3B3, "g"), (0x3B7, "e"), (0x3B9, "i"), (0x3BA, "k"),
  (0x3BB, "l"), (0x3BD, "n"), (0x41B, "L"), (0x41F, "P"), (0x42E, "Iu"), (0x42F, "Ia"),
  (0x432, "v"), (0x435, "e"), (0x438, "i"), (0x43C, "m"), (0x440, "r"), (0x442, "t"),
  (0x1100, "g"), (0x1112, "h"), (0x1161, "a"), (0x116E, "u"), (0x11A8, "g"), (0x11AB, "n"),
  (0x200B, " "), (0x2013, "-"), (0x2014, "--"), (0x2018, "'"), (0x2019, "'"), (0x201C, "\""),
  (0x201D, "\""), (0x2044, "/"), (0x20AC, "EUR"), (0x304B, "ka"), (0x306A, "na"), (0x3072, "hi"),
  (0x3089, "ra"), (0x3099, ""), (0x4E2D, "Zhong "), (0x4EAC, "Jing "), (0x5317, "Bei "),
  (0x6587, "Wen "), (0x65E5, "Ri "), (0x672C, "Ben "), (0x8868, "Biao "), (0x1F600, "")]

/-- The spelling of a character. -/
def spell (c : Char) : List Char :=
  if c.toNat < 128 then [c]
  else match spellings.lookup c.toNat with
    | some s => s.toList
    | none => [c]

/-- A text with every character decomposed and spelt in basic Latin: a mark has the empty spelling, and a character
without an entry stays as it is. -/
def transliterate (s : List Char) : List Char :=
  (Text.decompose s).flatMap spell

/-! ### Named character references -/

/-- The character references by name; names distinguish upper and lower case. -/
def namedCharacters : List (String × Nat) := [
  ("AElig", 198), ("Aacute", 193), ("Acirc", 194), ("Agrave", 192), ("Alpha", 913),
  ("Aring", 197), ("Atilde", 195), ("Auml", 196), ("Beta", 914), ("Ccedil", 199), ("Chi", 935),
  ("Dagger", 8225), ("Delta", 916), ("ETH", 208), ("Eacute", 201), ("Ecirc", 202),
  ("Egrave", 200), ("Epsilon", 917), ("Eta", 919), ("Euml", 203), ("Gamma", 915),
  ("Iacute", 205), ("Icirc", 206), ("Igrave", 204), ("Iota", 921), ("Iuml", 207), ("Kappa", 922),
  ("Lambda", 923), ("Mu", 924), ("Ntilde", 209), ("Nu", 925), ("OElig", 338), ("Oacute", 211),
  ("Ocirc", 212), ("Ograve", 210), ("Omega", 937), ("Omicron", 927), ("Oslash", 216),
  ("Otilde", 213), ("Ouml", 214), ("Phi", 934), ("Pi", 928), ("Prime", 8243), ("Psi", 936),
  ("Rho", 929), ("Scaron", 352), ("Sigma", 931), ("THORN", 222), ("Tau", 932), ("Theta", 920),
  ("Uacute", 218), ("Ucirc", 219), ("Ugrave", 217), ("Upsilon", 933), ("Uuml", 220), ("Xi", 926),
  ("Yacute", 221), ("Yuml", 376), ("Zeta", 918), ("aacute", 225), ("acirc", 226), ("acute", 180),
  ("aelig", 230), ("agrave", 224), ("alefsym", 8501), ("alpha", 945), ("amp", 38), ("and", 8743),
  ("ang", 8736), ("aring", 229), ("asymp", 8776), ("atilde", 227), ("auml", 228),
  ("bdquo", 8222), ("beta", 946), ("brvbar", 166), ("bull", 8226), ("cap", 8745),
  ("ccedil", 231), ("cedil", 184), ("cent", 162), ("chi", 967), ("circ", 710), ("clubs", 9827),
  ("cong", 8773), ("copy", 169), ("crarr", 8629), ("cup", 8746), ("curren", 164), ("dArr", 8659),
  ("dagger", 8224), ("darr", 8595), ("deg", 176), ("delta", 948), ("diams", 9830),
  ("divide", 247), ("eacute", 233), ("ecirc", 234), ("egrave", 232), ("empty", 8709),
  ("emsp", 8195), ("ensp", 8194), ("epsilon", 949), ("equiv", 8801), ("eta", 951), ("eth", 240),
  ("euml", 235), ("euro", 8364), ("exist", 8707), ("fnof", 402), ("forall", 8704),
  ("frac12", 189), ("frac14", 188), ("frac34", 190), ("frasl", 8260), ("gamma", 947),
  ("ge", 8805), ("gt", 62), ("hArr", 8660), ("harr", 8596), ("hearts", 9829), ("hellip", 8230),
  ("iacute", 237), ("icirc", 238), ("iexcl", 161), ("igrave", 236), ("image", 8465),
  ("infin", 8734), ("int", 8747), ("iota", 953), ("iquest", 191), ("isin", 8712), ("iuml", 239),
  ("kappa", 954), ("lArr", 8656), ("lambda", 955), ("lang", 9001), ("laquo", 171),
  ("larr", 8592), ("lceil", 8968), ("ldquo", 8220), ("le", 8804), ("lfloor", 8970),
  ("lowast", 8727), ("loz", 9674), ("lrm", 8206), ("lsaquo", 8249), ("lsquo", 8216), ("lt", 60),
  ("macr", 175), ("mdash", 8212), ("micro", 181), ("middot", 183), ("minus", 8722), ("mu", 956),
  ("nabla", 8711), ("nbsp", 160), ("ndash", 8211), ("ne", 8800), ("ni", 8715), ("not", 172),
  ("notin", 8713), ("nsub", 8836), ("ntilde", 241), ("nu", 957), ("oacute", 243), ("ocirc", 244),
  ("oelig", 339), ("ograve", 242), ("oline", 8254), ("omega", 969), ("omicron", 959),
  ("oplus", 8853), ("or", 8744), ("ordf", 170), ("ordm", 186), ("oslash", 248), ("otilde", 245),
  ("otimes", 8855), ("ouml", 246), ("para", 182), ("part", 8706), ("permil", 8240),
  ("perp", 8869), ("phi", 966), ("pi", 960), ("piv", 982), ("plusmn", 177), ("pound", 163),
  ("prime", 8242), ("prod", 8719), ("prop", 8733), ("psi", 968), ("quot", 34), ("rArr", 8658),
  ("radic", 8730), ("rang", 9002), ("raquo", 187), ("rarr", 8594), ("rceil", 8969),
  ("rdquo", 8221), ("real", 8476), ("reg", 174), ("rfloor", 8971), ("rho", 961), ("rlm", 8207),
  ("rsaquo", 8250), ("rsquo", 8217), ("sbquo", 8218), ("scaron", 353), ("sdot", 8901),
  ("sect", 167), ("shy", 173), ("sigma", 963), ("sigmaf", 962), ("sim", 8764), ("spades", 9824),
  ("sub", 8834), ("sube", 8838), ("sum", 8721), ("sup", 8835), ("sup1", 185), ("sup2", 178),
  ("sup3", 179), ("supe", 8839), ("szlig", 223), ("tau", 964), ("there4", 8756), ("theta", 952),
  ("thetasym", 977), ("thinsp", 8201), ("thorn", 254), ("tilde", 732), ("times", 215),
  ("trade", 8482), ("uArr", 8657), ("uacute", 250), ("uarr", 8593), ("ucirc", 251),
  ("ugrave", 249), ("uml", 168), ("upsih", 978), ("upsilon", 965), ("uuml", 252),
  ("weierp", 8472), ("xi", 958), ("yacute", 253), ("yen", 165), ("yuml", 255), ("zeta", 950),
  ("zwj", 8205), ("zwnj", 8204)]

/-! ### Words -/

open Text

/-- A basic Latin letter or digit. -/
def isSlugChar (c : Char) : Bool :=
  c.isAlphanum

/-- Every run of apostrophes becomes one hyphen. -/
def hyphenateQuotes : List Char → List Char
  | [] => []
  | '\x27' :: '\x27' :: rest => hyphenateQuotes ('\x27' :: rest)
  | '\x27' :: rest => '-' :: hyphenateQuotes rest
  | c :: rest => c :: hyphenateQuotes rest

/-- The characters up to a semicolon, and the text after it. -/
def upToSemicolon? (s : List Char) : Option (List Char × List Char) :=
  match cut ';' s with
  | (before, some after) => some (before, after)
  | _ => none

/-- A reference at the start of a text: the code point and the text after it. -/
abbrev ReferenceReader := List Char → Option (Nat × List Char)

/-- A reference by name. -/
def namedReference : ReferenceReader
  | '&' :: rest => do
    let (name, after) ← upToSemicolon? (rest.take 12)
    let code ← namedCharacters.lookup (.ofList name)
    return (code, after ++ rest.drop 12)
  | _ => none

/-- A reference by decimal number. -/
def decimalReference : ReferenceReader
  | '&' :: '#' :: rest =>
    let ds := rest.takeWhile isDecimal
    match ds, rest.drop ds.length with
    | _ :: _, ';' :: after => some (Decimal.ofDigits 10 (ds.map decimalValue), after)
    | _, _ => none
  | _ => none

/-- A reference by hexadecimal number. -/
def hexReference : ReferenceReader
  | '&' :: '#' :: 'x' :: rest =>
    let ds := rest.takeWhile fun c => (Text.hexValue? c).isSome
    match ds, rest.drop ds.length with
    | _ :: _, ';' :: after => some (Decimal.ofDigits 16 (ds.filterMap Text.hexValue?), after)
    | _, _ => none
  | _ => none

/-- The code points of the references in a text. -/
def references (read : ReferenceReader) : List Char → List Nat
  | [] => []
  | c :: rest =>
    match read (c :: rest) with
    | some (code, _) => code :: references read rest
    | none => references read rest

/-- Replace the references in a text; `skip` characters belong to a reference already replaced. -/
def resolve (read : ReferenceReader) : Nat → List Char → List Char
  | _, [] => []
  | skip + 1, _ :: rest => resolve read skip rest
  | 0, c :: rest =>
    match read (c :: rest) with
    | some (code, after) => Char.ofNat code :: resolve read (rest.length - after.length) rest
    | none => c :: resolve read 0 rest

/-- Replace references by number, unless one of them is beyond the last code point. -/
def resolveNumbers (read : ReferenceReader) (s : List Char) : List Char :=
  if (references read s).all (· < 0x110000) then resolve read 0 s else s

/-- Drop the commas that stand between two digits. -/
def dropGrouping : Option Char → List Char → List Char
  | _, [] => []
  | before, c :: rest =>
    if c == ',' && before.any Char.isDigit && rest.head?.any Char.isDigit then
      dropGrouping (some c) rest
    else c :: dropGrouping (some c) rest

/-- The maximal runs of basic Latin letters and digits. -/
def asciiWords (s : List Char) : List (List Char) :=
  let (word, done) := s.foldr
    (fun c (word, done) =>
      if isSlugChar c then (c :: word, done)
      else ([], if word.isEmpty then done else word :: done))
    (([] : List Char), ([] : List (List Char)))
  if word.isEmpty then done else word :: done

/-- A text in basic Latin, with references resolved and without apostrophes and grouping commas. -/
def plainLatin (s : List Char) : List Char :=
  let latin := transliterate (hyphenateQuotes s)
  let named := resolve namedReference 0 latin
  let resolved := resolveNumbers hexReference (resolveNumbers decimalReference named)
  dropGrouping none ((decompose resolved).filter (· != '\x27'))

/-- The words of a text, joined by underscores. -/
def slug (s : List Char) : List Char :=
  join ['_'] (asciiWords (plainLatin s))

end Stencil.Naming
