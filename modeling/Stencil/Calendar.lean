import Stencil.Text.Pieces

namespace Stencil

/-!
# Dates and points in time

The proleptic Gregorian calendar from year 1 to year 9999, times of day to the microsecond, and
optional offsets from universal time.

* `Date`, `DateTime` — the values;
* `Date.isValid` — whether the day exists;
* `DateTime.toUniversal` — the same point in time at offset zero;
* `Date.toString`, `DateTime.text` — the standard text forms;
* `DateTime.ofString?` — reading the standard form.
-/

/-- A day of the calendar. -/
structure Date where
  year : Nat
  month : Nat
  day : Nat
  deriving Repr, BEq, DecidableEq, Inhabited

/-- A day, a time of that day and possibly an offset from universal time in seconds. -/
structure DateTime where
  date : Date
  hour : Nat := 0
  minute : Nat := 0
  second : Nat := 0
  microsecond : Nat := 0
  offset : Option Int := none
  deriving Repr, BEq, DecidableEq, Inhabited

/-- A number with leading zeros up to a width. -/
def zeroPadded (width n : Nat) : String :=
  let ds := Nat.toDigits 10 n
  .ofList (List.replicate (width - ds.length) '0' ++ ds)

namespace Date

/-- Whether a year has a leap day. -/
def isLeapYear (year : Nat) : Bool :=
  year % 4 == 0 && (year % 100 != 0 || year % 400 == 0)

/-- The number of days of a month. -/
def daysInMonth (year month : Nat) : Nat :=
  if month == 2 then (if isLeapYear year then 29 else 28)
  else if month == 4 || month == 6 || month == 9 || month == 11 then 30 else 31

/-- Whether the day exists in the supported years. -/
def isValid (d : Date) : Bool :=
  1 ≤ d.year && d.year ≤ 9999 && 1 ≤ d.month && d.month ≤ 12 && 1 ≤ d.day &&
    d.day ≤ daysInMonth d.year d.month

/-- The number of days before the first of a month within its year. -/
def daysBeforeMonth (year month : Nat) : Nat :=
  ((List.range (month - 1)).map fun i => daysInMonth year (i + 1)).foldl (· + ·) 0

/-- The number of days before the first day of a year, counted from year 1. -/
def daysBeforeYear (year : Nat) : Nat :=
  let y := year - 1
  y * 365 + y / 4 - y / 100 + y / 400

/-- The number of the day, the first day of year 1 being day 1. -/
def ordinal (d : Date) : Nat :=
  daysBeforeYear d.year + daysBeforeMonth d.year d.month + d.day

/-- The day with a number. -/
def ofOrdinal (n : Nat) : Date :=
  -- The estimate is at most one year too late.
  let guess := n / 365 + 1
  let year := ((List.range 30).map (guess + 1 - ·)).find? (fun y => 0 < y && daysBeforeYear y < n)
  let year := year.getD 1
  let inYear := n - daysBeforeYear year
  let month := ((List.range 12).map (12 - ·)).find? fun m => daysBeforeMonth year m < inYear
  let month := month.getD 1
  ⟨year, month, inYear - daysBeforeMonth year month⟩

/-- Year, month and day with hyphens between them. -/
def toString (d : Date) : String :=
  zeroPadded 4 d.year ++ "-" ++ zeroPadded 2 d.month ++ "-" ++ zeroPadded 2 d.day

instance : ToString Date := ⟨Date.toString⟩

end Date

namespace DateTime

/-- The text of an offset: sign, hours and minutes, and seconds if there are any. -/
def offsetText (seconds : Int) : String :=
  let n := seconds.natAbs
  (if seconds < 0 then "-" else "+") ++ zeroPadded 2 (n / 3600) ++ ":" ++
    zeroPadded 2 (n / 60 % 60) ++ (if n % 60 = 0 then "" else ":" ++ zeroPadded 2 (n % 60))

/-- The time of day, with six digits of a second unless the fraction is zero. -/
def timeText (t : DateTime) : String :=
  zeroPadded 2 t.hour ++ ":" ++ zeroPadded 2 t.minute ++ ":" ++ zeroPadded 2 t.second ++
    (if t.microsecond = 0 then "" else "." ++ zeroPadded 6 t.microsecond)

/-- Date and time with a separator between them, and the offset if there is one. -/
def text (t : DateTime) (separator : String := "T") : String :=
  t.date.toString ++ separator ++ t.timeText ++ (t.offset.map offsetText).getD ""

/-- Whether day and time of day exist. -/
def isValid (t : DateTime) : Bool :=
  t.date.isValid && t.hour < 24 && t.minute < 60 && t.second < 60 && t.microsecond < 1000000

/-- Seconds since the start of day 0. -/
def seconds (t : DateTime) : Int :=
  t.date.ordinal * 86400 + t.hour * 3600 + t.minute * 60 + t.second

/-- The point in time a number of seconds after the start of day 0. -/
def ofSeconds (n : Int) (microsecond : Nat) (offset : Option Int) : DateTime :=
  let n := n.toNat
  { date := Date.ofOrdinal (n / 86400), hour := n / 3600 % 24, minute := n / 60 % 60
    second := n % 60, microsecond, offset }

/-- The same point in time at offset zero. -/
def toUniversal (t : DateTime) : DateTime :=
  ofSeconds (t.seconds - t.offset.getD 0) t.microsecond (some 0)

/-- A natural number written with exactly `width` decimal digits, and the text after it. -/
def number? (width : Nat) (s : List Char) : Option (Nat × List Char) :=
  let ds := s.take width
  if ds.length = width && ds.all Char.isDigit then
    some (ds.foldl (fun n c => 10 * n + (c.toNat - 48)) 0, s.drop width)
  else none

/-- Read a given character. -/
def expect? (c : Char) : List Char → Option (List Char)
  | d :: rest => if c = d then some rest else none
  | [] => none

/-- Read an offset: `Z`, or a sign, hours, minutes and possibly seconds. -/
def offset? (s : List Char) : Option (Option Int) :=
  match s with
  | [] => some none
  | ['Z'] => some (some 0)
  | sign :: rest => do
    let negative ← if sign == '-' then some true else if sign == '+' then some false else none
    let (h, rest) ← number? 2 rest
    let rest ← expect? ':' rest
    let (m, rest) ← number? 2 rest
    let s ← match rest with
      | [] => some 0
      | ':' :: rest => do
        let (s, rest) ← number? 2 rest
        if rest.isEmpty then some s else none
      | _ => none
    let n : Int := (h * 3600 + m * 60 + s : Nat)
    return some (if negative then -n else n)

/-- Read the standard text form: a date, a separator, a time and possibly an offset. -/
def ofString? (text : String) : Option DateTime := do
  let (year, s) ← number? 4 text.toList
  let s ← expect? '-' s
  let (month, s) ← number? 2 s
  let s ← expect? '-' s
  let (day, s) ← number? 2 s
  let date : Date := ⟨year, month, day⟩
  let t ← match s with
    | [] => some ({ date } : DateTime)
    | _ :: s => do
      let (hour, s) ← number? 2 s
      let s ← expect? ':' s
      let (minute, s) ← number? 2 s
      let (second, s) ← match s with
        | ':' :: rest => number? 2 rest
        | _ => some (0, s)
      let (microsecond, s) := match s with
        | '.' :: rest =>
          let ds := rest.takeWhile Char.isDigit
          let six := (ds ++ List.replicate 6 '0').take 6
          (six.foldl (fun n c => 10 * n + (c.toNat - 48)) 0, rest.dropWhile Char.isDigit)
        | _ => (0, s)
      let offset ← offset? s
      some { date, hour, minute, second, microsecond, offset }
  if t.isValid then some t else none

end DateTime

end Stencil
