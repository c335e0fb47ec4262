import Stencil.Shell.Program.Sort

namespace Stencil.Shell.Program

/-!
# Fields of lines

* `cut` — parts of lines;
* `paste` — lines side by side;
* `join` — lines of two files that share a field.
-/

open Exec

/-! ### Parts of lines -/

/-- The numbers between two ones; an upper end may be missing. -/
abbrev Span := Nat × Option Nat

/-- The span that a text describes. -/
def span? (r : Raw) : Option Span := do
  match Text.cut '-' r with
  | (a, none) =>
    let n ← Raw.nat? a
    return (n, some n)
  | (a, some b) =>
    if a.isEmpty && b.isEmpty then none
    let first ← if a.isEmpty then some 1 else Raw.nat? a
    let last ← if b.isEmpty then some none else (Raw.nat? b).map some
    return (first, last)

/-- Whether a number is in one of some spans. -/
def inSpans (spans : List Span) (n : Nat) : Bool :=
  spans.any fun (first, last) => first ≤ n && last.all (n ≤ ·)

/-- The spans that an argument describes. -/
def readSpans (o : Options) (ofFields : Bool) (r : Raw) : Exec (List Span) := do
  let pieces := Text.splitAtChar ',' (r.map fun c => if c = ' ' || c = '\t' then ',' else c)
  pieces.mapM fun piece => do
    match span? piece with
    | none =>
      if piece = ['-'] then o.refuse "invalid range with no endpoint: -".toList
      o.refuse ((if ofFields then "invalid field value " else "invalid byte/character position ").toList ++
        shown piece)
    | some (first, last) =>
      if first = 0 then
        o.refuse ((if ofFields then "fields are numbered from 1" else
          "byte/character positions are numbered from 1").toList)
      if last.any (· < first) then o.refuse "invalid decreasing range".toList
      return (first, last)

/-- Write parts of lines. -/
def cut : Program := fun _ args => do
  let o : Options := {
    name := "cut", plain := "snzC", valued := "bcfdO"
    long := [("bytes", 'b'), ("characters", 'c'), ("fields", 'f'), ("delimiter", 'd'), ("only-delimited", 's'),
      ("complement", 'C'), ("output-delimiter", 'O'), ("zero-terminated", 'z')] }
  let (found, files) ← o.read args
  let lists := found.filter fun (c, _) => "bcf".toList.contains c
  match lists with
  | [] => o.refuse "you must specify a list of bytes, characters, or fields".toList
  | _ :: _ :: _ => o.refuse "only one list may be specified".toList
  | [(kind, list)] =>
    let ofFields := kind = 'f'
    let separator ← match valueOf? found 'd' with
      | none => pure '\t'
      | some [] => pure '\x00'
      | some [c] => pure c
      | some _ => o.refuse "the delimiter must be a single character".toList
    if !ofFields && has found 'd' then
      o.refuse "an input delimiter may be specified only when operating on fields".toList
    if !ofFields && has found 's' then
      o.refuse "suppressing non-delimited lines makes sense\n\tonly when operating on fields".toList
    let spans ← readSpans o ofFields list
    let wanted (n : Nat) : Bool := inSpans spans n != has found 'C'
    let joiner := (valueOf? found 'O').getD (if ofFields then [separator] else [])
    let ending := if has found 'z' then '\x00' else '\n'
    let part (l : Raw) : Option Raw :=
      if ofFields then
        if !l.contains separator then if has found 's' then none else some l
        else
          let fields := (Text.splitAtChar separator l).zipIdx.filter fun (_, i) => wanted (i + 1)
          some (Text.join joiner (fields.map (·.1)))
      else if joiner.isEmpty then some ((l.zipIdx.filter fun (_, i) => wanted (i + 1)).map (·.1))
      else
        let starts (i : Nat) : Bool := !wanted i || spans.any fun (first, _) => first = i + 1 && !has found 'C'
        let picked := l.zipIdx.filter fun (_, i) => wanted (i + 1)
        some (match picked with
          | [] => []
          | (c, _) :: rest => c :: rest.flatMap fun (c, i) => if starts i then joiner ++ [c] else [c])
    let lines (r : Raw) : List Raw :=
      let pieces := Text.splitAtChar ending r
      if pieces.getLast? = some [] then pieces.dropLast else pieces
    let (all, code) ← contents "cut" files
    for (_, r) in all do
      put ((lines r).flatMap fun l => (part l).elim [] (· ++ [ending]))
    return code

/-! ### Lines side by side -/

/-- The separators that a list describes. -/
def separatorsOf : Raw → List Raw
  | [] => []
  | '\\' :: c :: rest =>
    (match c with
      | 'n' => ['\n']
      | 't' => ['\t']
      | '0' => []
      | c => [c]) :: separatorsOf rest
  | c :: rest => [c] :: separatorsOf rest

/-- Texts with separators between them, which are used in turn. -/
def interlaced (separators : List Raw) (texts : List Raw) : Raw :=
  match texts with
  | [] => []
  | first :: rest =>
    first ++ (rest.zipIdx.flatMap fun (r, i) => (separators[i % max 1 separators.length]?).getD [] ++ r)

/-- Lines of several files next to each other; `limit` bounds how many there are. -/
def besides : Nat → List (List Raw) → List (List Raw)
  | 0, _ => []
  | limit + 1, columns =>
    if columns.all List.isEmpty then []
    else (columns.map fun c => c.head?.getD []) :: besides limit (columns.map List.tail)

/-- Write lines of files side by side. -/
def paste : Program := fun _ args => do
  let o : Options := {
    name := "paste", plain := "sz", valued := "d", long := [("serial", 's'), ("delimiters", 'd')] }
  let (found, files) ← o.read args
  let separators := ((valueOf? found 'd').map separatorsOf).getD [['\t']]
  let files := if files.isEmpty then [['-']] else files
  let input ← if files.contains ['-'] then readAll 0 else pure (.ok [])
  let inputLines := (input.toOption.map Raw.lines).getD []
  let shares := files.countP (· = ['-'])
  let mut columns : List (List Raw) := []
  let mut code := 0
  let mut share := 0
  for file in files do
    if file = ['-'] then
      let n := share
      let own := if has found 's' then (if n = 0 then inputLines else [])
        else (inputLines.zipIdx.filter fun (_, i) => i % shares = n).map (·.1)
      columns := own :: columns
      share := share + 1
    else match ← readFile file with
      | .ok r => columns := Raw.lines r :: columns
      | .error problem =>
        complainOf "paste" file problem
        if !has found 's' then return 1
        code := 1
  columns := columns.reverse
  if has found 's' then put (columns.flatMap fun ls => interlaced separators ls ++ ['\n'])
  else
    let longest := columns.foldl (fun n ls => max n ls.length) 0
    put ((besides (longest + 1) columns).flatMap fun ls => interlaced separators ls ++ ['\n'])
  return code

/-! ### Shared fields -/

/-- The fields of a line: between separators, or between blanks. -/
def fieldsOf (separator : Option Char) (l : Raw) : List Raw :=
  match separator with
  | some c => Text.splitAtChar c l
  | none => (l.splitBy fun a b => isFieldGap a == isFieldGap b).filter fun r => !r.any isFieldGap

/-- What of a pair of lines is written: the shared field, or a field of one of them. -/
def outputFields (r : Raw) : Option (List (Nat × Nat)) :=
  let pieces := (r.splitBy fun a b => (a = ',' || a = ' ') == (b = ',' || b = ' ')).filter fun p =>
    !p.any fun c => c = ',' || c = ' '
  pieces.mapM fun p =>
    match Text.cut '.' p with
    | (['0'], none) => some (0, 0)
    | (['1'], some n) => (Raw.nat? n).map fun n => (1, n)
    | (['2'], some n) => (Raw.nat? n).map fun n => (2, n)
    | _ => none

/-- Write lines of two sorted files that share a field. -/
def join : Program := fun _ args => do
  let o : Options := {
    name := "join", plain := "izH", valued := "12jtoaev"
    long := [("ignore-case", 'i'), ("header", 'H'), ("check-order", 'k'), ("nocheck-order", 'k')] }
  let (found, files) ← o.read args
  match files with
  | [a, b] =>
    let separator := match valueOf? found 't' with
      | some (c :: _) => some c
      | _ => none
    let fieldNumber (c : Char) : Nat :=
      (((valueOf? found c).or (valueOf? found 'j')).bind Raw.nat?).getD 1
    let read (file : Raw) : Exec (List (List Raw)) := do
      match ← contentOf file with
      | .ok r => return (Raw.lines r).map (fieldsOf separator)
      | .error problem => refuse "join" (shownIfNeeded file ++ ": ".toList ++ problem.toList)
    let first ← read a
    let second ← read b
    let key (n : Nat) (fields : List Raw) : Raw :=
      let r := (fields[n - 1]?).getD []
      if has found 'i' then r.map Char.toLower else r
    let keyA := key (fieldNumber '1')
    let keyB := key (fieldNumber '2')
    let unpaired (n : Char) : Bool := found.any fun (c, r) => (c = 'a' || c = 'v') && r = [n]
    let showsPairs := !has found 'v'
    let filler := (valueOf? found 'e').getD []
    let between := [separator.getD ' ']
    let layout ← match valueOf? found 'o' with
      | none => pure none
      | some r =>
        if r = "auto".toList then pure none
        else match outputFields r with
          | some fs => pure (some fs)
          | none => refuse "join" ("invalid field specifier: ".toList ++ shown r)
    let without (n : Nat) (fields : List Raw) : List Raw := fields.eraseIdx (n - 1)
    let line (x y : Option (List Raw)) : Raw :=
      let fieldOf (fields : Option (List Raw)) (n : Nat) : Raw :=
        let r := (fields.bind fun fs => fs[n - 1]?).getD []
        if r.isEmpty then filler else r
      let shared := match x, y with
        | some x, _ => (x[fieldNumber '1' - 1]?).getD []
        | none, some y => (y[fieldNumber '2' - 1]?).getD []
        | none, none => []
      let texts := match layout with
        | some fs => fs.map fun (file, n) =>
            if file = 0 then (if shared.isEmpty then filler else shared)
            else fieldOf (if file = 1 then x else y) n
        | none => shared :: ((x.map (without (fieldNumber '1'))).getD [] ++ (y.map (without (fieldNumber '2'))).getD [])
      Text.join between texts ++ ['\n']
    let withKeyOf (k : Raw) (ls : List (List Raw)) : List (List Raw) := ls.filter fun y => keyB y = k
    let isPaired (x : List Raw) : Bool := second.any fun y => keyB y = keyA x
    let isPairedToo (y : List Raw) : Bool := first.any fun x => keyA x = keyB y
    let fromFirst := first.map fun x =>
      let ys := withKeyOf (keyA x) second
      (keyA x, if ys.isEmpty then (if unpaired '1' then [line (some x) none] else [])
        else if showsPairs then ys.map fun y => line (some x) (some y) else [])
    let fromSecond := (second.filter fun y => !isPairedToo y && unpaired '2').map fun y =>
      (keyB y, [line none (some y)])
    let all := (fromFirst ++ fromSecond).mergeSort fun x y => Raw.before x.1 y.1
    put (all.flatMap fun (_, ls) => ls.flatten)
    let isSorted (ks : List Raw) : Bool := (ks.zip ks.tail).all fun (x, y) => Raw.before x y
    let misses := !first.all isPaired || !second.all isPairedToo
    let bad := [(a, first.map keyA), (b, second.map keyB)].filter fun (_, ks) => misses && !isSorted ks
    for (file, ks) in bad do
      let at_ := ((ks.zip ks.tail).zipIdx.find? fun ((x, y), _) => !Raw.before x y).map fun (_, i) => i + 2
      complainAs "join" (file ++ ':' :: Raw.ofNat (at_.getD 0) ++ ": is not sorted: ".toList)
    if !bad.isEmpty then refuse "join" "input is not in sorted order".toList
    return 0
  | [] => o.refuse "missing operand".toList
  | [a] => o.refuse ("missing operand after ".toList ++ shown a)
  | _ :: _ :: c :: _ => o.refuse ("extra operand ".toList ++ shown c)

end Stencil.Shell.Program
