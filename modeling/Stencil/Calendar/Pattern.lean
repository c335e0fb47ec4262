import Stencil.Calendar

namespace Stencil.DatePattern

/-!
# Patterns of dates and times

A pattern is a text in which directives such as `%Y-%m-%d` stand for the parts of a point in time.

* `DatePattern.fill` — a pattern filled in;
* `weekday`, `weekDate` — days of weeks.
-/

/-- The day of the week, Monday being zero. -/
def weekday (d : Date) : Nat :=
  (d.ordinal + 6) % 7

/-- The number of a day in its year, from one on. -/
def dayOfYear (d : Date) : Nat :=
  Date.daysBeforeMonth d.year d.month + d.day

/-- The first day of the first week of a year, where weeks start with Monday and the first one holds the first
Thursday. -/
def firstMonday (year : Nat) : Int :=
  let firstDay := Date.daysBeforeYear year + 1
  let day := (firstDay + 6) % 7
  (firstDay : Int) - day + (if day > 3 then 7 else 0)

/-- Year, week and day of the week, where weeks start with Monday and belong to the year of their Thursday. -/
def weekDate (d : Date) : Nat × Nat × Nat :=
  let today : Int := d.ordinal
  let start := firstMonday d.year
  let next := firstMonday (d.year + 1)
  let (year, start) :=
    if today < start then (d.year - 1, firstMonday (d.year - 1))
    else if today ≥ next then (d.year + 1, next)
    else (d.year, start)
  (year, ((today - start) / 7).toNat + 1, weekday d + 1)

/-- The names of the days. -/
def dayNames : List String :=
  ["Monday", "Tuesday", "Wednesday", "Thursday", "Friday", "Saturday", "Sunday"]

/-- The names of the months. -/
def monthNames : List String :=
  ["January", "February", "March", "April", "May", "June", "July", "August", "September", "October",
   "November", "December"]

/-- The name of the day of the week. -/
def dayName (d : Date) : String :=
  dayNames[weekday d]?.getD ""

/-- The name of the month. -/
def monthName (d : Date) : String :=
  monthNames[d.month - 1]?.getD ""

/-- The start of a name. -/
def shortName (s : String) : String :=
  (s.take 3).toString

/-- A number with blanks before it. -/
def blankPadded (width n : Nat) : String :=
  let ds := Nat.toDigits 10 n
  .ofList (List.replicate (width - ds.length) ' ' ++ ds)

/-- The hour of a clock with twelve hours. -/
def clockHour (hour : Nat) : Nat :=
  if hour % 12 = 0 then 12 else hour % 12

/-- An offset without colons. -/
def plainOffset (t : DateTime) : String :=
  match t.offset with
  | none => ""
  | some o => .ofList ((DateTime.offsetText o).toList.filter (· != ':'))

/-- The name of the time zone. -/
def zoneName (t : DateTime) : String :=
  match t.offset with
  | none => ""
  | some o => if o = 0 then "UTC" else "UTC" ++ DateTime.offsetText o

/-- What a directive stands for, if there is one with this letter. -/
def directive? (t : DateTime) (letter : Char) : Option String :=
  let d := t.date
  let date := zeroPadded 2 d.month ++ "/" ++ zeroPadded 2 d.day ++ "/" ++ zeroPadded 2 (d.year % 100)
  let time := zeroPadded 2 t.hour ++ ":" ++ zeroPadded 2 t.minute ++ ":" ++ zeroPadded 2 t.second
  match letter with
  | 'Y' => some (toString d.year)
  | 'y' => some (zeroPadded 2 (d.year % 100))
  | 'C' => some (zeroPadded 2 (d.year / 100))
  | 'm' => some (zeroPadded 2 d.month)
  | 'd' => some (zeroPadded 2 d.day)
  | 'e' => some (blankPadded 2 d.day)
  | 'H' => some (zeroPadded 2 t.hour)
  | 'k' => some (blankPadded 2 t.hour)
  | 'I' => some (zeroPadded 2 (clockHour t.hour))
  | 'l' => some (blankPadded 2 (clockHour t.hour))
  | 'M' => some (zeroPadded 2 t.minute)
  | 'S' => some (zeroPadded 2 t.second)
  | 'f' => some (zeroPadded 6 t.microsecond)
  | 'p' => some (if t.hour < 12 then "AM" else "PM")
  | 'P' => some (if t.hour < 12 then "am" else "pm")
  | 'j' => some (zeroPadded 3 (dayOfYear d))
  | 'A' => some (dayName d)
  | 'a' => some (shortName (dayName d))
  | 'B' => some (monthName d)
  | 'b' | 'h' => some (shortName (monthName d))
  | 'w' => some (toString ((weekday d + 1) % 7))
  | 'u' => some (toString (weekday d + 1))
  | 'U' => some (zeroPadded 2 ((dayOfYear d + 6 - (weekday d + 1) % 7) / 7))
  | 'W' => some (zeroPadded 2 ((dayOfYear d + 6 - weekday d) / 7))
  | 'G' => some (toString (weekDate d).1)
  | 'g' => some (zeroPadded 2 ((weekDate d).1 % 100))
  | 'V' => some (zeroPadded 2 (weekDate d).2.1)
  | 'D' | 'x' => some date
  | 'F' => some (toString d.year ++ "-" ++ zeroPadded 2 d.month ++ "-" ++ zeroPadded 2 d.day)
  | 'T' | 'X' => some time
  | 'R' => some (zeroPadded 2 t.hour ++ ":" ++ zeroPadded 2 t.minute)
  | 'r' =>
    some (zeroPadded 2 (clockHour t.hour) ++ ":" ++ zeroPadded 2 t.minute ++ ":" ++ zeroPadded 2 t.second ++
      (if t.hour < 12 then " AM" else " PM"))
  | 'c' =>
    some (shortName (dayName d) ++ " " ++ shortName (monthName d) ++ " " ++ blankPadded 2 d.day ++ " " ++
      time ++ " " ++ toString d.year)
  | 'z' => some (plainOffset t)
  | 'Z' => some (zoneName t)
  | 'n' => some "\n"
  | 't' => some "\t"
  | '%' => some "%"
  | _ => none

/-- A pattern filled in: other characters and unknown directives stand for themselves. -/
def fill (t : DateTime) : List Char → List Char
  | [] => []
  | ['%'] => ['%']
  | '%' :: c :: rest =>
    match directive? t c with
    | some s => s.toList ++ fill t rest
    | none => '%' :: c :: fill t rest
  | c :: rest => c :: fill t rest

end Stencil.DatePattern
