import Stencil.Value.TextMethod

namespace Stencil.Value

/-!
# Methods of values

* `callMethod` — the result of a method that changes nothing, for a value without cells.
-/

open Arguments

/-! ### Sequences, sets and views -/

/-- The position of the first item of a list that equals a value, between two positions. -/
def positionOf (xs : List Value) (v : Value) (bounds : List Value) : Except Fault Value := do
  let n : Int := xs.length
  let place (v : Option Value) (default : Int) : Except Fault Int :=
    match v with
    | .none => .ok default
    | some v => do
      let i ← theInt v
      return if i < 0 then max 0 (i + n) else i
  let start := (← place bounds[0]? 0).toNat
  let stop := (← place bounds[1]? n).toNat
  match ((xs.take stop).drop start).findIdx? (same v) with
  | some i => return .int (start + i : Nat)
  | .none => throw (.foreign .wrongValue)

/-- The result of a method that lists and tuples share. -/
def callSequence (xs : List Value) (name : String) (args : List Value) (named : List (String × Value)) :
    Except Fault Value := do
  match name, ← positional 1 3 args named with
  | "index", v :: bounds => positionOf xs v bounds
  | "count", [v] => return .int (xs.countP (same v))
  | _, _ => wrongType

/-- The result of a method of a range of numbers. -/
def callRange (start stop step : Int) (name : String) (args : List Value)
    (named : List (String × Value)) : Except Fault Value := do
  match name, ← positional 1 1 args named with
  | "index", [v] =>
    match v.number?, v.int? with
    | some _, some n =>
      match rangePosition? start stop step n with
      | some i => return .int i
      | .none => throw (.foreign .wrongValue)
    | _, _ =>
      match (rangeItems start stop step).findIdx? (same v) with
      | some i => return .int i
      | .none => throw (.foreign .wrongValue)
  | "count", [v] => return .int (if ← contains (.range start stop step) v then 1 else 0)
  | _, _ => wrongType

/-- Whether no item of a value is among others. -/
def isDisjoint (xs : List Value) (args : List Value) (named : List (String × Value)) :
    Except Fault Value := do
  match ← positional 1 1 args named with
  | [other] =>
    match other.items? with
    | some ys => return .bool !(xs.any fun x => ys.any (same x))
    | .none => wrongType
  | _ => wrongType

/-- The items of several collections, each of which can be in a set. -/
def itemsOfSets (args : List Value) : Except Fault (List (List Value)) :=
  args.mapM fun v =>
    match v.items? with
    | some xs => if xs.all isHashable then .ok xs else wrongType
    | .none => wrongType

/-- A list without repetitions. -/
def distinct (xs : List Value) : List Value :=
  xs.foldl (fun seen x => if seen.any (same x) then seen else seen ++ [x]) []

/-- The result of a method of a set that changes nothing. -/
def callSet (xs : List Value) (name : String) (args : List Value) (named : List (String × Value)) :
    Except Fault Value := do
  if !named.isEmpty then wrongType
  let isIn (ys : List Value) (x : Value) : Bool := ys.any (same x)
  match name, args with
  | "copy", [] => return .set xs
  | "union", args => return .set (distinct (xs ++ (← itemsOfSets args).flatten))
  | "intersection", args =>
    return .set ((← itemsOfSets args).foldl (fun xs ys => xs.filter (isIn ys)) xs)
  | "difference", args =>
    return .set ((← itemsOfSets args).foldl (fun xs ys => xs.filter fun x => !isIn ys x) xs)
  | "symmetric_difference", [other] =>
    let ys := distinct (← itemsOfSets [other]).flatten
    return .set (xs.filter (fun x => !isIn ys x) ++ ys.filter fun y => !isIn xs y)
  | "issubset", [other] =>
    let ys := (← itemsOfSets [other]).flatten
    return .bool (xs.all (isIn ys))
  | "issuperset", [other] => return .bool ((← itemsOfSets [other]).flatten.all (isIn xs))
  | "isdisjoint", args => isDisjoint xs args named
  | _, _ => wrongType

/-! ### Schema values -/

/-- The result of a method of a table. The names of the columns can be had only if every column is known. -/
def callTable (t : Table) (name : String) (args : List Value) (named : List (String × Value)) :
    Except Fault Value := do
  let isBare : ColumnEntry → Bool
    | .column _ => false
    | .bare _ => true
  match name with
  | "column_names" =>
    let _ ← positional 0 0 args named
    if t.columns.any isBare then throw (.foreign .missingAttribute)
    return .list (texts (t.columns.map (·.name)))
  | "column" =>
    let v ← match args, named with
      | [v], [] => pure v
      | [], [("name", v)] => pure v
      | _, _ => wrongType
    let before := t.columns.takeWhile fun c => isBare c || !same (.str c.name) v
    if before.any isBare then throw (.foreign .missingAttribute)
    match t.columns.find? fun c => same (.str c.name) v with
    | some c => return ofColumnEntry c
    | .none => return .none
  | _ => wrongType

/-- The result of a method of a database. -/
def callDatabase (d : Database) (name : String) (args : List Value) (named : List (String × Value)) :
    Except Fault Value := do
  match name with
  | "table_names" =>
    let _ ← positional 0 0 args named
    return .list (texts d.tableNames)
  | "table" =>
    let v ← match args, named with
      | [v], [] => pure v
      | [], [("name", v)] => pure v
      | _, _ => wrongType
    if !v.isHashable then wrongType
    match v.asText?.bind d.table? with
    | some t => return .table t
    | .none => return .none
  | "constraints_by_table" =>
    match ← bind ["table_name", "side"] args named with
    | [some v, wanted] =>
      let isAt (table : String) : Bool := same (.str table) v
      let chosen := d.constraints.filter fun c =>
        match wanted.getD .none with
        | .none => isAt c.localTable || isAt c.foreignTable
        | .side .localSide => isAt c.localTable
        | .side .foreignSide => isAt c.foreignTable
        | _ => false
      return .list (chosen.map .constraint)
    | _ => wrongType
  | _ => wrongType

/-! ### Numbers -/

/-- A fraction as a quotient of whole numbers without a common divisor. -/
def integerRatio (x : Float) : Except Fault Value :=
  match Decimal.Binary.ofFloat? x with
  | .none => .error (.foreign (if x.isNaN then .wrongValue else .overflow))
  | some b =>
    let (num, den) : Int × Nat :=
      if b.exponent ≥ 0 then (b.mantissa * Int.pow 2 b.exponent.toNat, 1) else (b.mantissa, Nat.pow 2 (-b.exponent).toNat)
    let common := Nat.gcd num.natAbs den
    .ok (.tuple [.int (num / (common : Int)), .int ((den / common : Nat) : Int)])

/-- A fraction in hexadecimal notation. -/
def hexFloat (x : Float) : String :=
  match Decimal.specialText? x with
  | some word => .ofList word
  | .none =>
    let bits := x.toBits
    let scale := ((bits >>> 52) &&& 0x7FF).toNat
    let fraction := (bits &&& 0xFFFFFFFFFFFFF).toNat
    let sign := if Decimal.isNegative x then "-" else ""
    if scale = 0 && fraction = 0 then sign ++ "0x0.0p+0"
    else
      let lead := if scale = 0 then "0" else "1"
      let exponent : Int := if scale = 0 then -1022 else (scale : Int) - 1023
      sign ++ "0x" ++ lead ++ "." ++ String.ofList (Text.hexDigits 13 fraction) ++ "p" ++
        (if exponent < 0 then "-" else "+") ++ toString exponent.natAbs

/-- The result of a method of a number. -/
def callNumber (n : Num) (name : String) (args : List Value) (named : List (String × Value)) :
    Except Fault Value := do
  let _ ← positional 0 0 args named
  match n, name with
  | .int n, "bit_length" => return .int (Decimal.bitLength n.natAbs)
  | .int n, "bit_count" => return .int ((Nat.toDigits 2 n.natAbs).count '1')
  | .int n, "conjugate" => return .int n
  | .int n, "as_integer_ratio" => return .tuple [.int n, .int 1]
  | .float x, "conjugate" => return .float x
  | .float x, "is_integer" => return .bool (x.isFinite && x == x.floor)
  | .float x, "as_integer_ratio" => integerRatio x
  | .float x, "hex" => return .str (hexFloat x)
  | _, _ => wrongType

/-! ### Days and points in time -/

/-- A number of a calendar, if it is one. -/
def calendarNumber (v : Option Value) (default : Nat) : Except Fault Nat :=
  match v with
  | .none => .ok default
  | some v => do
    let n ← theInt v
    if n < 0 then throw (.foreign .wrongValue)
    return n.toNat

/-- A point in time with parts replaced. -/
def replaceParts (t : DateTime) (names : List String) (args : List Value) (named : List (String × Value)) :
    Except Fault DateTime := do
  let parts ← bind names args named
  let part (i : Nat) : Option Value := parts[i]?.join
  let r : DateTime := {
    date := ⟨← calendarNumber (part 0) t.date.year, ← calendarNumber (part 1) t.date.month,
      ← calendarNumber (part 2) t.date.day⟩
    hour := ← calendarNumber (part 3) t.hour
    minute := ← calendarNumber (part 4) t.minute
    second := ← calendarNumber (part 5) t.second
    microsecond := ← calendarNumber (part 6) t.microsecond
    offset := match part 7 with
      | some .none => Option.none
      | _ => t.offset }
  if r.isValid then return r else throw (.foreign .wrongValue)

/-- The result of a method that days and points in time share. -/
def callDay (t : DateTime) (name : String) (args : List Value) (named : List (String × Value)) :
    Except Fault Value := do
  match name with
  | "strftime" =>
    match ← bind ["format"] args named with
    | [some v] => return .str (.ofList (DatePattern.fill t (← theText v)))
    | _ => wrongType
  | name =>
    let _ ← positional 0 0 args named
    match name with
    | "weekday" => return .int (DatePattern.weekday t.date)
    | "isoweekday" => return .int (DatePattern.weekday t.date + 1 : Nat)
    | "isocalendar" =>
      let (year, week, day) := DatePattern.weekDate t.date
      return .tuple [.int year, .int week, .int day]
    | "toordinal" => return .int t.date.ordinal
    | "ctime" => return .str (.ofList (DatePattern.fill t "%c".toList))
    | _ => wrongType

/-- The result of a method of a day. -/
def callDate (d : Date) (name : String) (args : List Value) (named : List (String × Value)) :
    Except Fault Value := do
  match name with
  | "isoformat" =>
    let _ ← positional 0 0 args named
    return .str d.toString
  | "replace" => return .date (← replaceParts { date := d } ["year", "month", "day"] args named).date
  | name => callDay { date := d } name args named

/-- The time of a point in time, cut to a unit. -/
def isoText (t : DateTime) (separator unit : String) : Except Fault String := do
  let clock := (zeroPadded 2 t.hour, zeroPadded 2 t.minute, zeroPadded 2 t.second)
  let (h, m, s) := clock
  let time ← match unit with
    | "auto" => pure t.timeText
    | "hours" => pure h
    | "minutes" => pure (h ++ ":" ++ m)
    | "seconds" => pure (h ++ ":" ++ m ++ ":" ++ s)
    | "milliseconds" => pure (h ++ ":" ++ m ++ ":" ++ s ++ "." ++ zeroPadded 3 (t.microsecond / 1000))
    | "microseconds" => pure (h ++ ":" ++ m ++ ":" ++ s ++ "." ++ zeroPadded 6 t.microsecond)
    | _ => throw (.foreign .wrongValue)
  return t.date.toString ++ separator ++ time ++ (t.offset.map DateTime.offsetText).getD ""

/-- The result of a method of a point in time. -/
def callDateTime (t : DateTime) (name : String) (args : List Value) (named : List (String × Value)) :
    Except Fault Value := do
  match name with
  | "isoformat" =>
    match ← bind ["sep", "timespec"] args named with
    | [separator, unit] =>
      match ← theText (separator.getD (.str "T")) with
      | [c] => return .str (← isoText t c.toString (.ofList (← theText (unit.getD (.str "auto")))))
      | _ => wrongType
    | _ => wrongType
  | "replace" =>
    return .datetime (← replaceParts t
      ["year", "month", "day", "hour", "minute", "second", "microsecond", "tzinfo"] args named)
  | "date" =>
    let _ ← positional 0 0 args named
    return .date t.date
  | "timestamp" =>
    let _ ← positional 0 0 args named
    let epoch : Int := 719163 * 86400
    let micros := (t.seconds - t.offset.getD 0 - epoch) * 1000000 + t.microsecond
    div (.int micros) (.int 1000000)
  | "utcoffset" =>
    let _ ← positional 0 0 args named
    return (t.offset.map fun o => Value.duration (o * 1000000)).getD .none
  | "tzname" =>
    let _ ← positional 0 0 args named
    return ofText? (t.offset.map fun _ => DatePattern.zoneName t)
  | name => callDay t name args named

/-! ### Paths -/

/-- A path that an argument is or names. -/
def pathOf (v : Value) : Except Fault Path :=
  match v with
  | .path p => .ok p
  | v =>
    match v.asText? with
    | some s => .ok (Path.ofString s)
    | .none => wrongType

/-- A path with another last component. -/
def withName (p : Path) (name : String) : Except Fault Value :=
  if p.name = "" || name = "" || name = "." || name.toList.contains '/' then .error (.foreign .wrongValue)
  else .ok (.path { p.parent with parts := p.parent.parts ++ [name] })

/-- The result of a method of a path. -/
def callPath (p : Path) (name : String) (args : List Value) (named : List (String × Value)) :
    Except Fault Value := do
  if !named.isEmpty then wrongType
  match name, args with
  | "as_posix", [] => return .str p.toString
  | "is_absolute", [] => return .bool p.isAbsolute
  | "joinpath", args => return .path ((← args.mapM pathOf).foldl (· / ·) p)
  | "with_name", [v] => withName p (.ofList (← theText v))
  | "with_stem", [v] => withName p (.ofList (← theText v) ++ p.extension)
  | "with_suffix", [v] =>
    let suffix := String.ofList (← theText v)
    if suffix.toList.contains '/' || (suffix != "" && !suffix.startsWith ".") || suffix = "." then
      throw (.foreign .wrongValue)
    withName p (p.stem ++ suffix)
  | "relative_to", base :: more =>
    let base := (← (base :: more).mapM pathOf).foldl (· / ·) Path.here
    match p.relativeTo? base with
    | some parts => return .path { parts }
    | .none => throw (.foreign .wrongValue)
  | "is_relative_to", base :: more =>
    let base := (← (base :: more).mapM pathOf).foldl (· / ·) Path.here
    return .bool (p.relativeTo? base).isSome
  | _, _ => wrongType

/-! ### All values -/

/-- The result of an operation with a name between underscores. -/
def callSpecial (self : Value) (name : String) (args : List Value) : Except Fault Value := do
  match name, args with
  | "__len__", [] =>
    match self.length? with
    | some n => return .int n
    | .none => wrongType
  | "__str__", [] => return .str (← self.shown)
  | "__repr__", [] => return .str (← self.shownQuoted)
  | "__eq__", [v] => return .bool (same self v)
  | "__ne__", [v] => return .bool !(same self v)
  | "__contains__", [v] => return .bool (← contains self v)
  | "__getitem__", [v] => itemOrFail self v
  | _, _ => wrongType

/-- The result of a method of a value. -/
def callMethod (self : Value) (name : String) (args : List Value) (named : List (String × Value)) :
    Except Fault Value :=
  if name.startsWith "__" then (if named.isEmpty then callSpecial self name args else wrongType)
  else match self with
  | .str s => callText s name args named
  | .markup s => callMarkup s name args named
  | .bytes b =>
    match name with
    | "decode" => do
      match ← bind ["encoding", "errors"] args named with
      | [encoding, errors] =>
        let encoding ← theText (encoding.getD (.str "utf-8"))
        let errors ← theText (errors.getD (.str "strict"))
        match Text.decode? (.ofList encoding) (.ofList errors) b with
        | some s => return .str (.ofList s)
        | .none => throw (.foreign .wrongValue)
      | _ => wrongType
    | _ => do
      let _ ← positional 0 0 args named
      return .str (.ofList (b.flatMap fun x => Text.hexDigits 2 x.toNat))
  | .list xs => callSequence xs name args named
  | .tuple xs => callSequence xs name args named
  | .set xs => callSet xs name args named
  | .view .values _ => wrongType
  | .view part mapping => isDisjoint ((view part mapping).items?.getD []) args named
  | .range start stop step => callRange start stop step name args named
  | .table t => callTable t name args named
  | .database d => callDatabase d name args named
  | .date d => callDate d name args named
  | .datetime t => callDateTime t name args named
  | .duration n => do
    let _ ← positional 0 0 args named
    div (.int n) (.int 1000000)
  | .path p => callPath p name args named
  | .complex re im => do
    let _ ← positional 0 0 args named
    return .complex re (-im)
  | v =>
    match v.num? with
    | some n => callNumber n name args named
    | .none => wrongType

end Stencil.Value
