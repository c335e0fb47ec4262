import Stencil.Decimal.Reader
import Stencil.Value.Basic
import Stencil.Yaml.Cursor

namespace Stencil.Yaml

/-!
# Scalars

What a plain scalar means: the forms of truth values, numbers, dates and nothing.

* `Tag` — the kinds of nodes;
* `Tag.ofPlain` — the kind of a plain scalar;
* `scalarValue` — the value of a scalar of a kind.
-/

/-- The kind of a node. -/
inductive Tag where
  | null
  | bool
  | int
  | float
  | binary
  | timestamp
  | omap
  | pairs
  | set
  | str
  | seq
  | map
  | merge
  | value
  | other
  deriving Repr, BEq, DecidableEq

namespace Tag

/-- The start of the names of the standard kinds. -/
def standard : String := "tag:yaml.org,2002:"

/-- The kinds that have names. -/
def named : List (String × Tag) :=
  [("null", .null), ("bool", .bool), ("int", .int), ("float", .float), ("binary", .binary),
   ("timestamp", .timestamp), ("omap", .omap), ("pairs", .pairs), ("set", .set), ("str", .str),
   ("seq", .seq), ("map", .map), ("merge", .merge), ("value", .value)]

/-- The kind with a full name. -/
def ofUri (uri : String) : Tag :=
  ((named.find? fun (name, _) => standard ++ name == uri).map (·.2)).getD .other

/-- Digits and underscores, of which the first is a digit. -/
def isDigits (s : List Char) : Bool :=
  s.head?.any Char.isDigit && s.all fun c => c.isDigit || c == '_'

/-- Two digits after each of one or more colons, the first at most 5; a single digit will do. -/
def isSexagesimalTail (s : List Char) : Bool :=
  match Text.splitAtChar ':' s with
  | [] :: parts =>
    !parts.isEmpty && parts.all fun p =>
      match p with
      | [d] => d.isDigit
      | [t, d] => t ≤ '5' && t.isDigit && d.isDigit
      | _ => false
  | _ => false

/-- A number without its sign. -/
def unsigned (s : List Char) : List Char :=
  match s with
  | '+' :: rest => rest
  | '-' :: rest => rest
  | _ => s

/-- The form of an integer: binary, octal, decimal, hexadecimal or sexagesimal. -/
def isInt (s : List Char) : Bool :=
  match unsigned s with
  | [] => false
  | '0' :: 'b' :: ds => !ds.isEmpty && ds.all fun c => c == '0' || c == '1' || c == '_'
  | '0' :: 'x' :: ds => !ds.isEmpty && ds.all fun c => (Decimal.digitValue? 16 c).isSome && c.toNat < 128 || c == '_'
  | '0' :: ds => ds.all fun c => ('0' ≤ c && c ≤ '7') || c == '_'
  | ds =>
    let head := ds.takeWhile (· != ':')
    let tail := ds.drop head.length
    isDigits head && (tail.isEmpty || isSexagesimalTail tail)

/-- An exponent with its mark and sign, or nothing. -/
def isExponent (s : List Char) : Bool :=
  match s with
  | [] => true
  | e :: sign :: ds =>
    (e == 'e' || e == 'E') && (sign == '+' || sign == '-') && !ds.isEmpty && ds.all Char.isDigit
  | _ => false

/-- Digits and underscores followed by an exponent. -/
def isFraction (s : List Char) : Bool :=
  isExponent (s.dropWhile fun c => c.isDigit || c == '_')

/-- The form of a floating point number: with a point, a word, or sexagesimal with a point. -/
def isFloat (s : List Char) : Bool :=
  let body := unsigned s
  let words (ws : List String) (t : List Char) := ws.contains (String.ofList t)
  match body with
  | '.' :: rest =>
    (body.length == s.length && rest.head?.any Char.isDigit && isFraction rest) ||
      words ["inf", "Inf", "INF"] rest ||
      (body.length == s.length && words ["nan", "NaN", "NAN"] rest)
  | _ =>
    let head := body.takeWhile fun c => c.isDigit || c == '_' || c == ':'
    match body.drop head.length with
    | '.' :: fraction =>
      let whole := head.takeWhile (· != ':')
      let tail := head.drop whole.length
      isDigits whole &&
        (if tail.isEmpty then isFraction fraction
         else isSexagesimalTail tail && fraction.all fun c => c.isDigit || c == '_')
    | _ => false

/-- A run of digits of one of two lengths, and the text after it. -/
def digitsOf? (least most : Nat) (s : List Char) : Option (Nat × List Char) :=
  let ds := (s.take most).takeWhile Char.isDigit
  if ds.length < least then none
  else some (Decimal.ofDigits 10 (ds.map fun d => d.toNat - 48), s.drop ds.length)

/-- The parts of a time zone: nothing, universal time, or a sign, hours and minutes. -/
def zone? (s : List Char) : Option (Option Int) := do
  match s.dropWhile fun c => c == ' ' || c == '\t' with
  | [] => if s.isEmpty then some none else none
  | ['Z'] => some (some 0)
  | sign :: rest =>
    let negative ← if sign == '-' then some true else if sign == '+' then some false else none
    let (hours, rest) ← digitsOf? 1 2 rest
    let minutes ← match rest with
      | [] => some 0
      | ':' :: rest => do
        let (m, rest) ← digitsOf? 2 2 rest
        if rest.isEmpty then some m else none
      | _ => none
    let n : Int := (hours * 3600 + minutes * 60 : Nat)
    return some (if negative then -n else n)

/-- The parts of a date or a point in time, not checked against the calendar. A date alone has all its
digits if `strict` is set. -/
def timestamp? (strict : Bool) (s : List Char) : Option (Date × Option DateTime) := do
  let (year, s₁) ← digitsOf? 4 4 s
  let s₂ ← DateTime.expect? '-' s₁
  let (month, s₃) ← digitsOf? 1 2 s₂
  let s₄ ← DateTime.expect? '-' s₃
  let (day, s₅) ← digitsOf? 1 2 s₄
  let date : Date := ⟨year, month, day⟩
  match s₅ with
  | [] => if strict && s.length != 10 then none else some (date, none)
  | c :: _ =>
    let isBlank (c : Char) := c == ' ' || c == '\t'
    let s₆ ← if c == 'T' || c == 't' then some (s₅.drop 1)
      else if isBlank c then some (s₅.dropWhile isBlank) else none
    let (hour, s₇) ← digitsOf? 1 2 s₆
    let s₈ ← DateTime.expect? ':' s₇
    let (minute, s₉) ← digitsOf? 2 2 s₈
    let s₁₀ ← DateTime.expect? ':' s₉
    let (second, s₁₁) ← digitsOf? 2 2 s₁₀
    let (fraction, s₁₂) := match s₁₁ with
      | '.' :: rest => (rest.takeWhile Char.isDigit, rest.dropWhile Char.isDigit)
      | _ => ([], s₁₁)
    let offset ← zone? s₁₂
    -- Digits beyond microseconds are dropped.
    let micro := Decimal.ofDigits 10
      (((fraction ++ List.replicate 6 '0').take 6).map fun d => d.toNat - 48)
    return (date, some { date, hour, minute, second, microsecond := micro, offset })

/-- The words for truth values. -/
def trueWords : List String :=
  ["yes", "Yes", "YES", "true", "True", "TRUE", "on", "On", "ON"]

/-- The words for falsity. -/
def falseWords : List String :=
  ["no", "No", "NO", "false", "False", "FALSE", "off", "Off", "OFF"]

/-- The kind of a plain scalar. -/
def ofPlain (s : List Char) : Tag :=
  let text := String.ofList s
  if (trueWords ++ falseWords).contains text then .bool
  else if isFloat s then .float
  else if isInt s then .int
  else if text == "<<" then .merge
  else if ["~", "null", "Null", "NULL", ""].contains text then .null
  else if (timestamp? true s).isSome then .timestamp
  else if text == "=" then .value
  else if ["!", "&", "*"].contains text then .other
  else .str

end Tag

/-! ### Values of scalars -/

/-- The integer that a text denotes. -/
def intValue (text : List Char) : Except Problem Int := do
  let s := text.filter (· != '_')
  let bad : Except Problem Int := .error (.value .wrongValue)
  let ofOption (o : Option Int) : Except Problem Int := o.elim bad .ok
  if s.isEmpty then .error (.value .outOfRange)
  let body := Tag.unsigned s
  let sign : Int := if s.head? == some '-' then -1 else 1
  let n ← match body with
    | [] => .error (.value .outOfRange)
    | ['0'] => pure 0
    | '0' :: 'b' :: ds => ofOption (Decimal.readWhole? 2 ds)
    | '0' :: 'x' :: ds => ofOption (Decimal.readWhole? 16 ds)
    -- A zero in front and nothing else to say the base: octal digits.
    | '0' :: ds => ofOption (Decimal.readWhole? 8 ('0' :: ds))
    | _ =>
      -- Colons stand between the digits of a number in base sixty.
      if body.contains ':' then
        (Text.splitAtChar ':' body).foldlM (fun (n : Int) part => do
          let d ← ofOption (Decimal.readBounded? part)
          return n * 60 + d) 0
      else ofOption (Decimal.readBounded? body)
  return sign * n

/-- The floating point number that a text denotes. -/
def floatValue (text : List Char) : Except Problem Float := do
  let s := Text.lower (text.filter (· != '_'))
  if s.isEmpty then .error (.value .outOfRange)
  let body := Tag.unsigned s
  let negative := s.head? == some '-'
  let signed (x : Float) : Float := if negative then -x else x
  let read (t : List Char) : Except Problem Float :=
    (Decimal.readFloat? t).elim (.error (.value .wrongValue)) .ok
  if body == ".inf".toList then return Decimal.infinity negative
  else if body == ".nan".toList then return Decimal.notANumber
  else if body.contains ':' then
    let parts ← (Text.splitAtChar ':' body).mapM read
    -- The last part counts once, each before it sixty times the one after it.
    let (sum, _) := parts.reverse.foldl (fun (sum, base) d => (sum + d * Decimal.ofInt base, base * 60))
      ((0.0 : Float), (1 : Int))
    return signed sum
  else
    let x ← read body
    return signed x

/-- The value of a digit of the text form of bytes. -/
def sextet? (c : Char) : Option Nat :=
  if 'A' ≤ c && c ≤ 'Z' then some (c.toNat - 65)
  else if 'a' ≤ c && c ≤ 'z' then some (c.toNat - 71)
  else if c.isDigit then some (c.toNat + 4)
  else if c == '+' then some 62
  else if c == '/' then some 63
  else none

/-- Groups of four digits as three bytes each; a short group at the end must be padded. -/
def bytesOfSextets : List Nat → Option (List UInt8)
  | a :: b :: c :: d :: rest => do
    let n := ((a * 64 + b) * 64 + c) * 64 + d
    let more ← bytesOfSextets rest
    return UInt8.ofNat (n / 65536) :: UInt8.ofNat (n / 256) :: UInt8.ofNat n :: more
  | [a, b, c] =>
    let n := (a * 64 + b) * 64 + c
    some [UInt8.ofNat (n / 1024), UInt8.ofNat (n / 4)]
  | [a, b] => some [UInt8.ofNat ((a * 64 + b) / 16)]
  | [_] => none
  | [] => some []

/-- The bytes that a text denotes; characters that are no digits are passed over. -/
def bytesValue (text : List Char) : Except Problem (List UInt8) := do
  if text.any (·.toNat > 127) then .error .malformed
  let digits := (text.takeWhile (· != '=')).filterMap sextet?
  let padding := (text.dropWhile (· != '=')).countP (· == '=')
  if digits.length % 4 != 0 && (digits.length + padding) % 4 != 0 then .error .malformed
  else (bytesOfSextets digits).elim (.error .malformed) .ok

/-- The date or point in time that a text denotes. -/
def timestampValue (text : List Char) : Except Problem Value := do
  match Tag.timestamp? false text with
  | none => .error (.value .missingAttribute)
  | some (date, none) => if date.isValid then return .date date else .error (.value .wrongValue)
  | some (_, some t) =>
    if t.isValid && (t.offset.all fun o => o.natAbs < 86400) then return .datetime t
    else .error (.value .wrongValue)

/-- The value of a scalar of a kind. -/
def scalarValue (tag : Tag) (text : String) : Except Problem Value := do
  let s := text.toList
  match tag with
  | .null => return .none
  | .bool =>
    let word := String.ofList (Text.lower s)
    if Tag.trueWords.contains word then return .bool true
    else if Tag.falseWords.contains word then return .bool false
    else .error (.value .missingKey)
  | .int => (intValue s).map .int
  | .float => (floatValue s).map .float
  | .binary => (bytesValue s).map .bytes
  | .timestamp => timestampValue s
  | .str => return .str text
  | _ => .error .malformed

end Stencil.Yaml
