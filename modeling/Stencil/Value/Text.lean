import Stencil.Decimal.Notation
import Stencil.Fault
import Stencil.Text.Quoted
import Stencil.Value.Basic

namespace Stencil.Value

/-!
# Values as text

* `Value.text` — the text that a value contributes where it is printed; a text stands for itself;
* `Value.quoted` — the form in which it appears inside other values, with texts between quotes;
* `Value.shown`, `Value.shownQuoted` — the same, failing for numbers that are too long to be written.
-/

open Text

/-- The text of an integer. -/
def intText (n : Int) : String :=
  toString n

/-- The word for a truth value. -/
def boolText (b : Bool) : String :=
  if b then "True" else "False"

/-- A quoted text, or the word for its absence. -/
def quotedText? : Option String → String
  | some s => Text.quoted s
  | .none => "None"

/-- Items between parentheses; a single item is followed by a comma. -/
def inParentheses : List String → String
  | [item] => "(" ++ item ++ ",)"
  | items => "(" ++ joined ", " items ++ ")"

/-- Named fields after the name of their type. -/
def withFields (type : String) (fields : List (String × String)) : String :=
  type ++ "(" ++ joined ", " (fields.map fun (k, v) => k ++ "=" ++ v) ++ ")"

/-- The quoted form of a column. -/
def quotedColumn (c : Column) : String :=
  withFields "Column"
    [("name", Text.quoted c.name), ("table", Text.quoted c.table),
     ("data_type", Text.quoted c.dataType), ("nullable", boolText c.nullable),
     ("default", quotedText? c.default), ("primary_key", boolText c.primaryKey),
     ("autoincrement", boolText c.autoincrement), ("comment", quotedText? c.comment)]

/-- The quoted form of what a table lists as a column. -/
def quotedColumnEntry : ColumnEntry → String
  | .column c => quotedColumn c
  | .bare s => Text.quoted s

/-- The quoted form of a tuple of texts. -/
def quotedNames (names : List String) : String :=
  inParentheses (names.map Text.quoted)

/-- The quoted form of an index. -/
def quotedIndex (i : Index) : String :=
  withFields "Index"
    [("name", quotedText? i.name), ("columns", quotedNames i.columns), ("unique", boolText i.unique)]

/-- The quoted form of a foreign key. -/
def quotedConstraint (c : Constraint) : String :=
  withFields "Constraint"
    [("name", Text.quoted c.name), ("local_table", Text.quoted c.localTable),
     ("local_columns", quotedNames c.localColumns), ("foreign_table", Text.quoted c.foreignTable),
     ("foreign_columns", quotedNames c.foreignColumns), ("on_update", quotedText? c.onUpdate),
     ("on_delete", quotedText? c.onDelete)]

/-- The quoted form of a table. -/
def quotedTable (t : Table) : String :=
  withFields "Table"
    [("name", Text.quoted t.name), ("columns", inParentheses (t.columns.map quotedColumnEntry)),
     ("primary_key", quotedNames t.primaryKey),
     ("indexes", inParentheses (t.indexes.map quotedIndex)), ("comment", quotedText? t.comment)]

/-- Items between braces. -/
def inBraces (items : List String) : String :=
  "\x7b" ++ joined ", " items ++ "\x7d"

/-- The quoted form of a database. -/
def quotedDatabase (d : Database) : String :=
  withFields "Database"
    [("name", Text.quoted d.name),
     ("tables", inBraces (d.tables.map fun (k, t) => Text.quoted k ++ ": " ++ quotedTable t)),
     ("constraints", inParentheses (d.constraints.map quotedConstraint))]

/-- The name of a side after the name of its type. -/
def sideText : Side → String
  | .localSide => "ConstraintSide.LOCAL"
  | .foreignSide => "ConstraintSide.FOREIGN"

/-- The name of a kind after the name of its type. -/
def kindText : PromptKind → String
  | .database => "PromptKind.DATABASE"
  | .table => "PromptKind.TABLE"
  | .generic => "PromptKind.GENERIC"

/-- The quoted form of an offset from universal time. -/
def quotedOffset (seconds : Int) : String :=
  if seconds = 0 then "datetime.timezone.utc"
  else
    let days := Int.fdiv seconds 86400
    let rest := Int.fmod seconds 86400
    let parts := (if days = 0 then [] else [("days", intText days)]) ++
      (if rest = 0 then [] else [("seconds", intText rest)])
    "datetime.timezone(" ++ withFields "datetime.timedelta" parts ++ ")"

/-- A length of time as days, seconds of a day and microseconds of a second. -/
def durationParts (microseconds : Int) : Int × Int × Int :=
  let seconds := Int.fdiv microseconds 1000000
  (Int.fdiv seconds 86400, Int.fmod seconds 86400, Int.fmod microseconds 1000000)

/-- The quoted form of a point in time: seconds and microseconds appear only if they matter. -/
def quotedDateTime (t : DateTime) : String :=
  let numbers := [t.date.year, t.date.month, t.date.day, t.hour, t.minute] ++
    (if t.second = 0 && t.microsecond = 0 then []
     else if t.microsecond = 0 then [t.second] else [t.second, t.microsecond])
  "datetime.datetime(" ++ joined ", " (numbers.map toString) ++
    (match t.offset with
     | some o => ", tzinfo=" ++ quotedOffset o
     | .none => "") ++ ")"

/-- The quoted form of a length of time: days, seconds and microseconds appear only if they matter. -/
def quotedDuration (microseconds : Int) : String :=
  let (days, seconds, rest) := durationParts microseconds
  let parts := [("days", days), ("seconds", seconds), ("microseconds", rest)].filter (·.2 != 0)
  "datetime.timedelta(" ++
    (if parts.isEmpty then "0" else joined ", " (parts.map fun (k, n) => k ++ "=" ++ intText n)) ++ ")"

/-- The text of a length of time: days if there are any, and a time of day. -/
def durationText (microseconds : Int) : String :=
  let (days, seconds, rest) := durationParts microseconds
  let s := seconds.toNat
  (if days = 0 then ""
   else intText days ++ (if days = 1 || days = -1 then " day, " else " days, ")) ++
    toString (s / 3600) ++ ":" ++ zeroPadded 2 (s / 60 % 60) ++ ":" ++ zeroPadded 2 (s % 60) ++
    (if rest = 0 then "" else "." ++ zeroPadded 6 rest.toNat)

/-- A part of a complex number, without a fraction if it is whole. -/
def complexPart (x : Float) : String :=
  let s := Decimal.text x
  if s.endsWith ".0" then (s.dropEnd 2).toString else s

/-- The text of a complex number; a real part that is the positive zero is left out. -/
def complexText (re im : Float) : String :=
  if re == 0 && !Decimal.isNegative re then complexPart im ++ "j"
  else
    let sign := if (complexPart im).startsWith "-" then "" else "+"
    "(" ++ complexPart re ++ sign ++ complexPart im ++ "j)"

/-- The quoted form of a byte string. -/
def quotedBytes (bytes : List UInt8) : String :=
  let mark := if bytes.contains 0x27 && !bytes.contains 0x22 then '"' else '\x27'
  let byte (b : UInt8) : List Char :=
    let c := Char.ofNat b.toNat
    if c = mark || c = '\\' then ['\\', c]
    else if c = '\n' then ['\\', 'n']
    else if c = '\r' then ['\\', 'r']
    else if c = '\t' then ['\\', 't']
    else if 32 ≤ b && b < 127 then [c]
    else '\\' :: 'x' :: hexDigits 2 b.toNat
  .ofList ('b' :: mark :: bytes.flatMap byte ++ [mark])

/-- The quoted form of a range of numbers. -/
def quotedRange (start stop step : Int) : String :=
  "range(" ++ joined ", " ([start, stop].map intText ++ (if step = 1 then [] else [intText step])) ++
    ")"

/-- The types that templates can name, and the words for functions. -/
def objectText : Object → String
  | .type name => "<class '" ++ name ++ "'>"
  | _ => "<object>"

mutual

/-- The form of a value inside another value. -/
def quoted : Value → String
  | .none => "None"
  | .bool b => boolText b
  | .int n => intText n
  | .float x => Decimal.text x
  | .complex re im => complexText re im
  | .str s => Text.quoted s
  | .list xs => "[" ++ joined ", " (quotedAll xs) ++ "]"
  | .tuple xs => inParentheses (quotedAll xs)
  | .set [] => "set()"
  | .set (x :: xs) => inBraces (quoted x :: quotedAll xs)
  | .dict entries => inBraces (quotedEntries entries)
  | .date d =>
    "datetime.date(" ++ joined ", " ([d.year, d.month, d.day].map toString) ++ ")"
  | .datetime t => quotedDateTime t
  | .duration n => quotedDuration n
  | .side s => "<" ++ sideText s ++ ": " ++ Text.quoted s.name ++ ">"
  | .kind k => "<" ++ kindText k ++ ": " ++ Text.quoted k.name ++ ">"
  | .path p => "PosixPath(" ++ Text.quoted p.toString ++ ")"
  | .column c => quotedColumn c
  | .index i => quotedIndex i
  | .constraint c => quotedConstraint c
  | .table t => quotedTable t
  | .database d => quotedDatabase d
  | .bytes b => quotedBytes b
  | .range start stop step => quotedRange start stop step
  | .view .keys (.dict entries) => "dict_keys([" ++ joined ", " (quotedKeys entries) ++ "])"
  | .view .values (.dict entries) => "dict_values([" ++ joined ", " (quotedValues entries) ++ "])"
  | .view .items (.dict entries) => "dict_items([" ++ joined ", " (quotedPairs entries) ++ "])"
  | .view _ _ => "..."
  | .ref _ .list => "[...]"
  | .ref _ .dict => inBraces ["..."]
  | .ref _ .set => "set(...)"
  | .undefined => "Undefined"
  | .markup s => "Markup(" ++ Text.quoted s ++ ")"
  | .object o => objectText o
  | .method self name => "<method " ++ name ++ " of " ++ quoted self ++ ">"

/-- The quoted forms of a list of values. -/
def quotedAll : List Value → List String
  | [] => []
  | x :: xs => quoted x :: quotedAll xs

/-- The quoted forms of the entries of a mapping. -/
def quotedEntries : List (Value × Value) → List String
  | [] => []
  | (k, v) :: rest => (quoted k ++ ": " ++ quoted v) :: quotedEntries rest

/-- The quoted forms of the keys of a mapping. -/
def quotedKeys : List (Value × Value) → List String
  | [] => []
  | (k, _) :: rest => quoted k :: quotedKeys rest

/-- The quoted forms of the values of a mapping. -/
def quotedValues : List (Value × Value) → List String
  | [] => []
  | (_, v) :: rest => quoted v :: quotedValues rest

/-- The quoted forms of the entries of a mapping as pairs. -/
def quotedPairs : List (Value × Value) → List String
  | [] => []
  | (k, v) :: rest => ("(" ++ quoted k ++ ", " ++ quoted v ++ ")") :: quotedPairs rest

end

/-- The text that a value contributes where it is printed. -/
def text : Value → String
  | .str s => s
  | .markup s => s
  | .undefined => ""
  | .date d => d.toString
  | .datetime t => t.text " "
  | .duration n => durationText n
  | .side s => sideText s
  | .kind k => kindText k
  | .path p => p.toString
  | v => quoted v

/-! ### Numbers that are too long -/

/-- Numbers from here on have more digits than are written. -/
def longNumber : Nat :=
  Nat.pow 10 4300

mutual

/-- Whether a value or some part of it has a property. -/
def anyPart (p : Value → Bool) : Value → Bool
  | .list xs => p (.list xs) || anyPartOf p xs
  | .tuple xs => p (.tuple xs) || anyPartOf p xs
  | .set xs => p (.set xs) || anyPartOf p xs
  | .dict entries => p (.dict entries) || anyPartOfEntries p entries
  | .view part mapping => p (.view part mapping) || anyPart p mapping
  | v => p v

/-- Whether some value of a list or some part of one has a property. -/
def anyPartOf (p : Value → Bool) : List Value → Bool
  | [] => false
  | x :: xs => anyPart p x || anyPartOf p xs

/-- Whether some entry of a mapping or some part of one has a property. -/
def anyPartOfEntries (p : Value → Bool) : List (Value × Value) → Bool
  | [] => false
  | (k, v) :: rest => anyPart p k || anyPart p v || anyPartOfEntries p rest

end

theorem anyPartOf_eq_any (p : Value → Bool) (xs : List Value) : anyPartOf p xs = xs.any (anyPart p) := by
  induction xs with
  | nil => rfl
  | cons x xs ih => rw [anyPartOf, ih, List.any_cons]

theorem anyPartOfEntries_eq_any (p : Value → Bool) (entries : List (Value × Value)) :
    anyPartOfEntries p entries = entries.any fun e => anyPart p e.1 || anyPart p e.2 := by
  induction entries with
  | nil => rfl
  | cons e entries ih =>
    obtain ⟨k, v⟩ := e
    rw [anyPartOfEntries, ih, List.any_cons]

/-- Whether a value is a number that is too long to be written. -/
def isLongNumber : Value → Bool
  | .int n => n.natAbs ≥ longNumber
  | .range start stop step => [start, stop, step].any fun n => n.natAbs ≥ longNumber
  | _ => false

/-- Whether a value has a number in it that is too long to be written. -/
def hasLongNumber : Value → Bool :=
  anyPart isLongNumber

/-- The text of a value, if its numbers can be written. -/
def shown (v : Value) : Except Fault String :=
  if v.hasLongNumber then .error (.foreign .wrongValue) else .ok v.text

/-- The quoted form of a value, if its numbers can be written. -/
def shownQuoted (v : Value) : Except Fault String :=
  if v.hasLongNumber then .error (.foreign .wrongValue) else .ok v.quoted

end Stencil.Value
