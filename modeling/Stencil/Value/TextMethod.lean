import Stencil.Text.Case
import Stencil.Text.Encoding
import Stencil.Text.Identifier
import Stencil.Value.Basic
import Stencil.Value.Field

namespace Stencil.Value

/-!
# Methods of texts

* `callText` — the result of a method of a text;
* `callMarkup` — the same for a text that counts as escaped: results that are texts count as escaped, too, and
  texts that are put into them are escaped first.
-/

open Arguments

/-- A count that may be absent or negative, which means no limit. -/
def limitOf (v : Option Value) : Except Fault (Option Nat) :=
  match v with
  | .none => .ok .none
  | some v =>
    match v.int? with
    | some n => .ok (if n < 0 then .none else some n.toNat)
    | .none => wrongType

/-- A text that must be one. -/
def theText (v : Value) : Except Fault (List Char) :=
  match v.asText? with
  | some s => .ok s.toList
  | .none => wrongType

/-- A whole number that must be one. -/
def theInt (v : Value) : Except Fault Int :=
  match v.int? with
  | some n => .ok n
  | .none => wrongType

/-- Texts as values. -/
def charLists (xs : List (List Char)) : List Value :=
  xs.map fun s => .str (.ofList s)

/-- The pieces of a text at a separator, or at blanks. -/
def splitText (fromEnd : Bool) (s : List Char) (args : List Value) (named : List (String × Value)) :
    Except Fault Value := do
  match ← bind ["sep", "maxsplit"] args named with
  | [sep, most] =>
    let limit ← limitOf most
    match sep.getD .none with
    | .none =>
      match limit with
      | .none => return .list (charLists (Text.words s))
      | some n =>
        if fromEnd then
          let pieces := Text.wordsUpTo n s.reverse
          return .list (charLists (pieces.map List.reverse).reverse)
        return .list (charLists (Text.wordsUpTo n s))
    | sep =>
      let sep ← theText sep
      if sep.isEmpty then throw (.foreign .wrongValue)
      let n := limit.getD (s.length + 1)
      if fromEnd then return .list (charLists (Text.splitAtTextUpToFromEnd sep n s))
      return .list (charLists (Text.splitAtTextUpTo sep n s))
  | _ => wrongType

/-- A text without some characters at its ends. -/
def stripText (left right : Bool) (s : List Char) (args : List Value) : Except Fault Value := do
  let isCut ← match args with
    | [] => pure Text.isBlank
    | .none :: _ => pure Text.isBlank
    | v :: _ => do
      let chars ← theText v
      pure fun c => chars.contains c
  let s := if left then Text.trimLeftOf isCut s else s
  let s := if right then Text.trimRightOf isCut s else s
  return .str (.ofList s)

/-- The part of a text between two positions, and where it starts; positions in the wrong order bound
no part, not even an empty one. -/
def window? (s : List Char) (args : List Value) : Except Fault (Option (Nat × List Char)) := do
  let n : Int := s.length
  let position (v : Option Value) (default : Int) : Except Fault Int :=
    match v with
    | .none => .ok default
    | some .none => .ok default
    | some v => do
      let i ← theInt v
      return max 0 (if i < 0 then i + n else i)
  let start ← position args[0]? 0
  let stop := min n (← position args[1]? n)
  return if start > stop then .none
    else some (start.toNat, (s.take stop.toNat).drop start.toNat)

/-- Whether a text starts or ends with one of several texts. -/
def hasEdge (test : List Char → List Char → Bool) (s : List Char) (args : List Value) :
    Except Fault Value := do
  match args with
  | [] => wrongType
  | edge :: bounds =>
    let part ← window? s bounds
    let isAt (e : List Char) : Bool := part.any fun (_, inside) => test e inside
    match edge with
    | .tuple xs => return .bool ((← xs.mapM theText).any isAt)
    | v => return .bool (isAt (← theText v))

/-- The position of a part of a text, or -1. -/
def findText (find : List Char → List Char → Option Nat) (s : List Char) (args : List Value) :
    Except Fault Int := do
  match args with
  | [] => wrongType
  | part :: bounds =>
    let part ← theText part
    return match ← window? s bounds with
      | .none => -1
      | some (start, inside) =>
        match find part inside with
        | some i => ((start + i : Nat) : Int)
        | .none => -1

/-- Whether a text is not empty and all of its characters are of a class. -/
def allOf (p : Char → Bool) (s : List Char) : Value :=
  .bool (!s.isEmpty && s.all p)

/-- Whether a text has characters in upper case and none in another case. -/
def isUpperText (s : List Char) : Bool :=
  s.any Text.isUpperChar && !s.any fun c => Text.isLowerChar c || Text.isTitleChar c

/-- Whether a text has characters in lower case and none in another case. -/
def isLowerText (s : List Char) : Bool :=
  s.any Text.isLowerChar && !s.any fun c => Text.isUpperChar c || Text.isTitleChar c

/-- Whether characters start words in upper or title case and go on in lower case; the flag says whether a cased
character is before them. -/
def isTitleAfter : Bool → List Char → Bool
  | _, [] => true
  | afterCased, c :: rest =>
    if Text.isUpperChar c || Text.isTitleChar c then !afterCased && isTitleAfter true rest
    else if Text.isLowerChar c then afterCased && isTitleAfter true rest
    else isTitleAfter false rest

/-- Whether every word of a text starts with an upper case character and goes on in lower case. -/
def isTitle (s : List Char) : Bool :=
  s.any Text.isCased && isTitleAfter false s

/-- A number as a text, filled with zeros after its sign. -/
def zeroFilled (width : Nat) : List Char → List Char
  | '-' :: rest => '-' :: padded false '0' (width - 1) rest
  | '+' :: rest => '+' :: padded false '0' (width - 1) rest
  | s => padded false '0' width s

/-- A text in the middle of a field; an odd blank goes to the left of an odd field. -/
def centered (width : Nat) (fill : Char) (s : List Char) : List Char :=
  let room := width - s.length
  let left := room / 2 + (if room % 2 = 1 && width % 2 = 1 then 1 else 0)
  List.replicate left fill ++ s ++ List.replicate (room - left) fill

/-- A text aligned in a field. -/
def alignText (align : Nat → Char → List Char → List Char) (s : List Char) (args : List Value) :
    Except Fault Value := do
  match args with
  | width :: rest =>
    let n ← checkedWidth (← theInt width).toNat
    match rest with
    | [] => return .str (.ofList (align n ' ' s))
    | fill :: _ =>
      match ← theText fill with
      | [c] => return .str (.ofList (align n c s))
      | _ => wrongType
  | [] => wrongType

/-- The text before a separator, the separator and the text after it. -/
def partitionText (fromEnd : Bool) (s : List Char) (args : List Value) : Except Fault Value := do
  match args with
  | [sep] =>
    let sep ← theText sep
    if sep.isEmpty then throw (.foreign .wrongValue)
    let found := if fromEnd then Text.findLast? sep s else Text.find? sep s
    let parts := match found with
      | some i => [s.take i, sep, s.drop (i + sep.length)]
      | .none => if fromEnd then [[], [], s] else [s, [], []]
    return .tuple (charLists parts)
  | _ => wrongType

/-- The texts among the items of a value, all of which must be texts. -/
def textItems (v : Value) : Except Fault (List String) :=
  match v.items? with
  | some items => items.mapM fun item =>
    match item.asText? with
    | some s => .ok s
    | .none => wrongType
  | .none => wrongType

/-- Tabs replaced by blanks up to the next multiple of a width. -/
def expandTabs (width : Nat) : Nat → List Char → List Char
  | _, [] => []
  | here, '\t' :: rest =>
    let n := if width = 0 then 0 else width - here % width
    List.replicate n ' ' ++ expandTabs width (here + n) rest
  | here, c :: rest =>
    c :: expandTabs width (if c = '\n' || c = '\r' then 0 else here + 1) rest

/-- The entries of a mapping whose keys are texts. -/
def textEntries : Value → List (String × Value)
  | .dict entries => entries.filterMap fun (k, v) => k.asText?.map fun k => (k, v)
  | _ => []

/-- A text in which a mapping from the numbers of characters says what stands for them: another character by its
number, a text, or nothing at all. -/
def translateText (mapping : Value) (s : List Char) : Except Fault (List Char) := do
  let parts ← s.mapM fun c =>
    match item? mapping (.int c.toNat) with
    | .none => .ok [c]
    | some .none => .ok []
    | some v =>
      match v.asText?, v.int? with
      | some t, _ => .ok t.toList
      | .none, some n =>
        if 0 ≤ n && n < 0x110000 then .ok [Char.ofNat n.toNat] else .error (.foreign .wrongValue)
      | .none, .none => wrongType
  return parts.flatten

/-- A mapping from the numbers of characters, from a mapping of characters or from two texts of one length and a
text of characters that disappear. -/
def makeTable (args : List Value) : Except Fault Value := do
  match args with
  | [.dict entries] =>
    let entries ← entries.mapM fun (k, v) =>
      match k.asText?.map String.toList, k.int? with
      | some [c], _ => .ok (Value.int c.toNat, v)
      | some _, _ => .error (.foreign .wrongValue)
      | .none, some n => .ok (Value.int n, v)
      | .none, .none => wrongType
    return dictOf entries
  | [_] => wrongType
  | from_ :: to_ :: gone =>
    let (a, b) := (← theText from_, ← theText to_)
    if a.length != b.length then throw (.foreign .wrongValue)
    let dropped ← match gone with
      | [v] => theText v
      | _ => pure []
    return dictOf ((a.zip b).map (fun (c, d) => (.int c.toNat, .int d.toNat)) ++
      dropped.map fun c => (.int c.toNat, .none))
  | [] => wrongType

/-- The result of a method of a text. -/
def callText (self : String) (name : String) (args : List Value) (named : List (String × Value)) :
    Except Fault Value :=
  let s := self.toList
  let plain (f : List Char → List Char) : Except Fault Value := do
    let _ ← positional 0 0 args named
    return .str (.ofList (f s))
  let test (b : Value) : Except Fault Value := do
    let _ ← positional 0 0 args named
    return b
  let found (i : Int) : Except Fault Value :=
    if i < 0 then .error (.foreign .wrongValue) else .ok (.int i)
  match name with
  | "upper" => plain Text.upper
  | "lower" => plain Text.lower
  | "casefold" => plain Text.foldCase
  | "capitalize" => plain Text.capitalize
  | "title" => plain Text.titleWords
  | "swapcase" => plain Text.swapCase
  | "strip" => do stripText true true s (← positional 0 1 args named)
  | "lstrip" => do stripText true false s (← positional 0 1 args named)
  | "rstrip" => do stripText false true s (← positional 0 1 args named)
  | "split" => splitText false s args named
  | "rsplit" => splitText true s args named
  | "splitlines" => do
    match ← bind ["keepends"] args named with
    | [keep] =>
      let lines := Text.linesWithEnds s
      if (keep.getD (.bool false)).isTrue then return .list (charLists (lines.map fun (l, e) => l ++ e))
      return .list (charLists (lines.map (·.1)))
    | _ => wrongType
  | "replace" => do
    match ← positional 2 3 args named with
    | old :: new :: count =>
      let limit := (← limitOf count.head?).getD (s.length + 1)
      let (old, new) := (← theText old, ← theText new)
      let _ ← checkedWidth (s.length + (min limit (Text.countText old s)) * new.length)
      return .str (.ofList (Text.replaceUpTo old new limit s))
    | _ => wrongType
  | "startswith" => do hasEdge Text.startsWith s (← positional 1 3 args named)
  | "endswith" => do hasEdge Text.endsWith s (← positional 1 3 args named)
  | "find" => do return .int (← findText Text.find? s (← positional 1 3 args named))
  | "rfind" => do return .int (← findText Text.findLast? s (← positional 1 3 args named))
  | "index" => do found (← findText Text.find? s (← positional 1 3 args named))
  | "rindex" => do found (← findText Text.findLast? s (← positional 1 3 args named))
  | "count" => do
    match ← positional 1 3 args named with
    | part :: bounds =>
      let part ← theText part
      return .int ((← window? s bounds).elim 0 fun (_, inside) => Text.countText part inside)
    | [] => wrongType
  | "join" => do
    match ← positional 1 1 args named with
    | [v] => return .str (Text.joined self (← textItems v))
    | _ => wrongType
  | "center" => do alignText centered s (← positional 1 2 args named)
  | "ljust" => do alignText (fun n c s => padded true c n s) s (← positional 1 2 args named)
  | "rjust" => do alignText (fun n c s => padded false c n s) s (← positional 1 2 args named)
  | "zfill" => do
    match ← positional 1 1 args named with
    | [v] => return .str (.ofList (zeroFilled (← checkedWidth (← theInt v).toNat) s))
    | _ => wrongType
  | "isdigit" => test (allOf Text.isDigit s)
  | "isdecimal" => test (allOf Text.isDecimal s)
  | "isnumeric" => test (allOf Text.isNumeric s)
  | "isalpha" => test (allOf Text.isLetter s)
  | "isalnum" => test (allOf Text.isAlphanumeric s)
  | "isspace" => test (allOf Text.isBlank s)
  | "isupper" => test (.bool (isUpperText s))
  | "islower" => test (.bool (isLowerText s))
  | "istitle" => test (.bool (isTitle s))
  | "isascii" => test (.bool (s.all fun c => c.toNat < 128))
  | "isprintable" => test (.bool (s.all Text.isPrintable))
  | "isidentifier" => test (.bool (Text.isName s))
  | "partition" => do partitionText false s (← positional 1 1 args named)
  | "rpartition" => do partitionText true s (← positional 1 1 args named)
  | "removeprefix" => do
    match ← positional 1 1 args named with
    | [v] => return .str (.ofList ((Text.stripPrefix? (← theText v) s).getD s))
    | _ => wrongType
  | "removesuffix" => do
    match ← positional 1 1 args named with
    | [v] =>
      let ending ← theText v
      return .str (.ofList (if Text.endsWith ending s then s.take (s.length - ending.length) else s))
    | _ => wrongType
  | "format" => return .str (← formatBraces self { args, named })
  | "format_map" => do
    match ← positional 1 1 args named with
    | [v] => return .str (← formatBraces self { args := [], named := textEntries v, hasPositions := false })
    | _ => wrongType
  | "expandtabs" => do
    match ← bind ["tabsize"] args named with
    | [n] =>
      let width := (← theInt (n.getD (.int 8))).toNat
      let _ ← checkedWidth (width * s.count '\t')
      return .str (.ofList (expandTabs width 0 s))
    | _ => wrongType
  | "encode" => do
    match ← bind ["encoding", "errors"] args named with
    | [encoding, errors] =>
      let encoding ← theText (encoding.getD (.str "utf-8"))
      let errors ← theText (errors.getD (.str "strict"))
      match Text.encode? (.ofList encoding) (.ofList errors) s with
      | some b => return .bytes b
      | .none => throw (.foreign .wrongValue)
    | _ => wrongType
  | "translate" => do
    match ← positional 1 1 args named with
    | [mapping] => return .str (.ofList (← translateText mapping s))
    | _ => wrongType
  | "maketrans" => do makeTable (← positional 1 3 args named)
  | _ => wrongType

/-! ### Texts that count as escaped -/

/-- Escape a text among arguments. -/
def escapedArgument : Value → Value
  | .str s => .markup (escapeMarkup s)
  | v => v

/-- A text, or the texts of a list or tuple, as escaped ones. -/
def asMarkup : Value → Value
  | .str s => .markup s
  | .list xs => .list (xs.map markupItem)
  | .tuple xs => .tuple (xs.map markupItem)
  | v => v
where
  /-- A text as an escaped one. -/
  markupItem : Value → Value
    | .str s => .markup s
    | v => v

/-- The methods of escaped texts whose results are plain values. -/
def plainMethods : List String :=
  ["startswith", "endswith", "find", "rfind", "index", "rindex", "count", "isdigit", "isdecimal", "isnumeric",
   "isalpha", "isalnum", "isupper", "islower", "isspace", "istitle", "isidentifier", "isascii",
   "isprintable", "encode", "maketrans"]

/-- The result of a method of a text that counts as escaped. -/
def callMarkup (self : String) (name : String) (args : List Value) (named : List (String × Value)) :
    Except Fault Value := do
  if plainMethods.contains name then callText self name args named
  else match name, args with
    | "join", [v] =>
      let items ← match v.items? with
        | some items => pure items
        | .none => wrongType
      let texts ← items.mapM fun
        | .markup s => .ok s
        | v => v.shown.map escapeMarkup
      if named.isEmpty then return .markup (Text.joined self texts) else wrongType
    | "format", args => return .markup (← formatBraces self { args, named, inMarkup := true })
    | "format_map", [v] =>
      return .markup (← formatBraces self
        { args := [], named := textEntries v, hasPositions := false, inMarkup := true })
    | "replace", old :: new :: count =>
      return asMarkup (← callText self name (old :: escapedArgument new :: count) named)
    | "center", w :: fill => return asMarkup (← callText self name (w :: fill.map escapedArgument) named)
    | "ljust", w :: fill => return asMarkup (← callText self name (w :: fill.map escapedArgument) named)
    | "rjust", w :: fill => return asMarkup (← callText self name (w :: fill.map escapedArgument) named)
    | "partition", [v] => return asMarkup (← callText self name [escapedArgument v] named)
    | "rpartition", [v] => return asMarkup (← callText self name [escapedArgument v] named)
    | name, args => return asMarkup (← callText self name args named)

end Stencil.Value
