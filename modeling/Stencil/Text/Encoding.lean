import Stencil.Text.Case
import Stencil.Text.Letters
import Stencil.Text.Pieces

namespace Stencil.Text

/-!
# Encodings of texts

* `decodeUtf8` — the text of any bytes; each longest start of a character that is cut off, and each byte that
  starts no character, reads as one replacement character;
* `percentEncode`, `percentDecode` — a percent sign and two hexadecimal digits for a byte of a text in UTF-8;
* `Encoding.ofName?` — the encoding with a name;
* `encode?`, `decode?` — the bytes of a text and the text of bytes, where what cannot be encoded is dropped,
  replaced or a failure.
-/

/-! ### UTF-8 -/

/-- What stands for bytes that are no text. -/
def replacementChar : Char := '\ufffd'

/-- A character of which some bytes have been read: the ranges in which the other bytes lie, and the value
so far. -/
structure OpenChar where
  ranges : List (UInt8 × UInt8)
  value : Nat
  deriving Repr, BEq, DecidableEq, Inhabited

/-- The range of the bytes inside a character. -/
def continuation : UInt8 × UInt8 := (0x80, 0xbf)

/-- What a byte at the start of a character means: a character, or the start of a longer one. -/
def decodeFirst (b : UInt8) : List Char × Option OpenChar :=
  if b < 0x80 then ([Char.ofNat b.toNat], none)
  else if b < 0xc2 then ([replacementChar], none)
  else if b < 0xe0 then ([], some ⟨[continuation], b.toNat - 0xc0⟩)
  else if b < 0xf0 then
    let second := if b = 0xe0 then (0xa0, 0xbf) else if b = 0xed then (0x80, 0x9f) else continuation
    ([], some ⟨[second, continuation], b.toNat - 0xe0⟩)
  else if b < 0xf5 then
    let second := if b = 0xf0 then (0x90, 0xbf) else if b = 0xf4 then (0x80, 0x8f) else continuation
    ([], some ⟨[second, continuation, continuation], b.toNat - 0xf0⟩)
  else ([replacementChar], none)

/-- The text of bytes after the start of a character. -/
def decodeUtf8From : Option OpenChar → List UInt8 → List Char
  | none, [] => []
  | some _, [] => [replacementChar]
  | none, b :: rest =>
    let (chars, next) := decodeFirst b
    chars ++ decodeUtf8From next rest
  | some ⟨[], v⟩, b :: rest =>
    let (chars, next) := decodeFirst b
    Char.ofNat v :: chars ++ decodeUtf8From next rest
  | some ⟨(low, high) :: ranges, v⟩, b :: rest =>
    if low ≤ b && b ≤ high then
      let value := v * 64 + (b.toNat - 0x80)
      if ranges.isEmpty then Char.ofNat value :: decodeUtf8From none rest
      else decodeUtf8From (some ⟨ranges, value⟩) rest
    else
      let (chars, next) := decodeFirst b
      -- The character that breaks off ends before this byte, which starts a new one.
      replacementChar :: chars ++ decodeUtf8From next rest

/-- The text of bytes. -/
def decodeUtf8 (bytes : List UInt8) : List Char :=
  decodeUtf8From none bytes

/-- The bytes of a text. -/
def encodeUtf8 (s : List Char) : List UInt8 :=
  s.flatMap String.utf8EncodeChar

/-! ### Percent encoding -/

/-- Characters that are never encoded. -/
def isUnreserved (c : Char) : Bool :=
  c.isAlphanum || c = '_' || c = '.' || c = '-' || c = '~'

/-- The encoded form of a byte. -/
def percentByte (b : UInt8) : List Char :=
  '%' :: (hexDigits 2 b.toNat).map Char.toUpper

/-- A text with all characters encoded but the unreserved ones and those of a set. -/
def percentEncode (safe : List Char) (s : List Char) : List Char :=
  s.flatMap fun c =>
    if isUnreserved c || safe.contains c then [c] else (String.utf8EncodeChar c).flatMap percentByte

/-- The bytes of what follows a percent sign. -/
def bytesAfterPercent (s : List Char) : List UInt8 :=
  match s with
  | a :: b :: rest =>
    match hexValue? a, hexValue? b with
    | some x, some y => (x * 16 + y).toUInt8 :: encodeUtf8 rest
    | _, _ => encodeUtf8 ('%' :: s)
  | _ => encodeUtf8 ('%' :: s)

/-- The bytes that an encoded text stands for. -/
def percentBytes (s : List Char) : List UInt8 :=
  match splitAtChar '%' s with
  | [] => []
  | first :: pieces => encodeUtf8 first ++ pieces.flatMap bytesAfterPercent

/-- Whether a character is one of ASCII. -/
def isAscii (c : Char) : Bool :=
  c.toNat < 0x80

/-- The text that an encoded one stands for. Bytes that are no text within a run of ASCII characters are
replaced. -/
def percentDecode (s : List Char) : List Char :=
  (s.splitBy fun a b => isAscii a == isAscii b).flatMap fun run =>
    if run.all isAscii then decodeUtf8 (percentBytes run) else run

/-! ### Encodings by name -/

/-- The encodings that are known. -/
inductive Encoding where
  | utf8
  | ascii
  | latin1
  /-- two bytes for each half of a character; the flags say whether the high byte comes first, and whether a
  mark says so -/
  | utf16 (bigEndian marked : Bool)
  /-- four bytes for each character -/
  | utf32 (bigEndian marked : Bool)
  deriving Repr, BEq, DecidableEq, Inhabited

/-- The encoding with a name; case does not matter, and hyphens count as underscores. -/
def Encoding.ofName? (name : String) : Option Encoding :=
  let key := String.ofList ((lower name.toList).map fun c => if c = '-' || c = ' ' then '_' else c)
  if ["utf_8", "utf8", "u8", "utf", "utf8_ucs2", "cp65001"].contains key then some .utf8
  else if ["ascii", "us_ascii", "646", "ansi_x3.4_1968", "iso646_us", "us"].contains key then some .ascii
  else if ["latin_1", "latin1", "iso_8859_1", "iso8859_1", "iso8859", "8859", "l1", "latin", "cp819"].contains key then
    some .latin1
  else if ["utf_16", "utf16", "u16"].contains key then some (.utf16 false true)
  else if ["utf_16_le", "utf_16le"].contains key then some (.utf16 false false)
  else if ["utf_16_be", "utf_16be"].contains key then some (.utf16 true false)
  else if ["utf_32", "utf32", "u32"].contains key then some (.utf32 false true)
  else if ["utf_32_le", "utf_32le"].contains key then some (.utf32 false false)
  else if ["utf_32_be", "utf_32be"].contains key then some (.utf32 true false)
  else none

/-- The bytes of a number, with a number of them. -/
def bytesOf (bigEndian : Bool) (width n : Nat) : List UInt8 :=
  let low := (List.range width).map fun i => (n / Nat.pow 256 i % 256).toUInt8
  if bigEndian then low.reverse else low

/-- The bytes of a character in an encoding, if it has some. -/
def Encoding.bytes? (e : Encoding) (c : Char) : Option (List UInt8) :=
  let n := c.toNat
  match e with
  | .utf8 => some (encodeUtf8 [c])
  | .ascii => if n < 128 then some [n.toUInt8] else none
  | .latin1 => if n < 256 then some [n.toUInt8] else none
  | .utf16 big _ =>
    if n < 0x10000 then some (bytesOf big 2 n)
    else
      let m := n - 0x10000
      some (bytesOf big 2 (0xD800 + m / 1024) ++ bytesOf big 2 (0xDC00 + m % 1024))
  | .utf32 big _ => some (bytesOf big 4 n)

/-- The mark at the start of an encoded text. -/
def Encoding.mark : Encoding → List UInt8
  | .utf16 big true => bytesOf big 2 0xFEFF
  | .utf32 big true => bytesOf big 4 0xFEFF
  | _ => []

/-- What stands for a character that cannot be encoded, as the way of handling it says. -/
def substitute? (errors : String) (c : Char) : Option (List Char) :=
  let n := c.toNat
  if errors = "ignore" then some []
  else if errors = "replace" then some ['?']
  else if errors = "xmlcharrefreplace" then some ('&' :: '#' :: Nat.toDigits 10 n ++ [';'])
  else if errors = "backslashreplace" then
    some (if n < 0x100 then '\\' :: 'x' :: hexDigits 2 n
      else if n < 0x10000 then '\\' :: 'u' :: hexDigits 4 n
      else '\\' :: 'U' :: hexDigits 8 n)
  else none

/-- The bytes of a text. -/
def encode? (encoding errors : String) (s : List Char) : Option (List UInt8) := do
  let e ← Encoding.ofName? encoding
  let parts ← s.mapM fun c =>
    match e.bytes? c with
    | some b => some b
    | none => (substitute? errors c).map encodeUtf8
  return e.mark ++ parts.flatten

/-- The text of bytes. -/
def decode? (encoding errors : String) (bytes : List UInt8) : Option (List Char) := do
  match ← Encoding.ofName? encoding with
  | .latin1 => return bytes.map fun b => Char.ofNat b.toNat
  | e =>
    let isBad (c : Char) : Bool := c == replacementChar
    let s := match e with
      | .ascii => bytes.map fun b => if b < 128 then Char.ofNat b.toNat else replacementChar
      | _ => decodeUtf8 bytes
    if !s.any isBad || errors = "replace" then return s
    else if errors = "ignore" then return s.filter (!isBad ·)
    else none

end Stencil.Text
