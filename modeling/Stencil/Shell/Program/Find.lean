import Stencil.Shell.Glob
import Stencil.Shell.Program.Launch
import Stencil.Shell.Program.List
import Stencil.Shell.Regular.Reader

namespace Stencil.Shell.Program

/-!
# Finding files

* `Search` — what is asked of a file, and what is done with it;
* `find` — the program.
-/

open Exec

/-- How a number is compared. -/
inductive Bound where
  | exactly (n : Nat)
  | above (n : Nat)
  | below (n : Nat)
  deriving Repr, BEq, DecidableEq, Inhabited

/-- Whether a number is as asked. -/
def Bound.accepts (n : Nat) : Bound → Bool
  | exactly m => n = m
  | above m => m < n
  | below m => n < m

/-- The bound that an argument gives; a sign in front of it says on which side. -/
def Bound.read? (r : Raw) : Option Bound :=
  match r with
  | '+' :: digits => (Raw.nat? digits).map above
  | '-' :: digits => (Raw.nat? digits).map below
  | digits => (Raw.nat? digits).map exactly

/-- What is asked of a file, and what is done with it. -/
inductive Search where
  | always (b : Bool)
  | name (pattern : Raw) (ignoresCase : Bool)
  | path (pattern : Raw) (ignoresCase : Bool)
  | described (r : Regular) (ignoresCase : Bool)
  | kind (letters : Raw)
  | empty
  | size (b : Bound) (unit : Nat)
  | runnable
  | print (ending : Char)
  | printf (format : Raw)
  | exec (words : List Raw)
  | execAll (number : Nat) (words : List Raw)
  | delete
  | prune
  | quit
  | not (s : Search)
  | both (a b : Search)
  | either (a b : Search)
  | list (a b : Search)
  deriving Inhabited

/-! ### Reading -/

/-- What is asked of the whole search. -/
structure SearchOptions where
  least : Nat := 0
  most : Nat := 1000
  fromBelow : Bool := false
  hasAction : Bool := false
  batches : Nat := 0

/-- Computations that read what is asked: what is left of the arguments, and the options found. -/
abbrev ReadSearch := StateT (List Raw × SearchOptions) Exec

namespace Search

/-- Complain, and end the program. -/
def refuse {α : Type} (reason : Raw) : ReadSearch α :=
  liftM (Program.refuse "find" reason : Exec α)

/-- Read the value of an option. -/
def argument (option : Raw) : ReadSearch Raw := do
  match ← get with
  | (a :: rest, o) =>
    set (rest, o)
    return a
  | ([], _) => refuse ("missing argument to \x60".toList ++ option ++ ['\x27'])

/-- Note that something is done with files. -/
def acts (s : Search) : ReadSearch Search := do
  modify fun (args, o) => (args, { o with hasAction := true })
  return s

/-- Read the command of an option, up to its end. -/
def command (option : Raw) : ReadSearch (List Raw × Bool) := do
  let (args, o) ← get
  let words := args.takeWhile fun a => a != [';']
  let together := (List.range args.length).find? fun i => 0 < i && args[i]? = some ['+'] && args[i - 1]? = some ['\x7b', '\x7d']
  let missing : ReadSearch (List Raw × Bool) := refuse ("missing argument to \x60".toList ++ option ++ ['\x27'])
  match together with
  | some i =>
    if i < words.length || words.length = args.length then
      set (args.drop (i + 1), o)
      return (args.take (i - 1), true)
    set (args.drop (words.length + 1), o)
    return (words, false)
  | none =>
    if words.length = args.length || words.isEmpty then missing
    else
      set (args.drop (words.length + 1), o)
      return (words, false)

/-- Read the number of a size and its unit. -/
def sizeOf (r : Raw) : Option (Bound × Nat) :=
  let units : List (Char × Nat) :=
    [('c', 1), ('w', 2), ('b', 512), ('k', 1024), ('M', 1048576), ('G', 1073741824)]
  match r.getLast?.bind fun c => units.lookup c with
  | some unit => (Bound.read? r.dropLast).map fun b => (b, unit)
  | none => (Bound.read? r).map fun b => (b, 512)

/-- Read a regular expression for paths. -/
def expression (ignoresCase : Bool) (r : Raw) : ReadSearch Search := do
  match Regular.read {} (Raw.letters r) with
  | .ok e => return described e ignoresCase
  | .error f => refuse f.message.toList

/-- Read a single demand with its name. -/
def single (option : Raw) : ReadSearch Search := do
  let number : ReadSearch Nat := do
    let r ← argument option
    match Raw.nat? r with
    | some n => return n
    | none =>
      refuse ("Expected a positive decimal integer argument to ".toList ++ option ++ ", but got ".toList ++
        shown r)
  let globally (f : Nat → SearchOptions → SearchOptions) : ReadSearch Search := do
    let n ← number
    modify fun (args, o) => (args, f n o)
    return always true
  match String.ofList option with
  | "-name" => return name (← argument option) false
  | "-iname" => return name (← argument option) true
  | "-path" => return path (← argument option) false
  | "-wholename" => return path (← argument option) false
  | "-ipath" => return path (← argument option) true
  | "-regex" => expression false (← argument option)
  | "-iregex" => expression true (← argument option)
  | "-type" =>
    let r ← argument option
    let letters := r.filter (· != ',')
    match letters.find? fun c => !"fdlbcpsD".toList.contains c with
    | some c => refuse ("Unknown argument to -type: ".toList ++ [c])
    | none => return kind letters
  | "-empty" => return empty
  | "-size" =>
    let r ← argument option
    match sizeOf r with
    | some (b, unit) => return size b unit
    | none => refuse ("Invalid argument \x60".toList ++ r ++ "' to -size".toList)
  | "-executable" => return runnable
  | "-readable" => return always true
  | "-writable" => return always true
  | "-true" => return always true
  | "-false" => return always false
  | "-newer" =>
    let _ ← argument option
    return always false
  | "-perm" =>
    let _ ← argument option
    return always true
  | "-user" =>
    let _ ← argument option
    return always true
  | "-mtime" => return always ((← argument option).head? != some '+')
  | "-mmin" => return always ((← argument option).head? != some '+')
  | "-links" =>
    let _ ← argument option
    return always true
  | "-maxdepth" => globally fun n o => { o with most := n }
  | "-mindepth" => globally fun n o => { o with least := n }
  | "-depth" =>
    modify fun (args, o) => (args, { o with fromBelow := true })
    return always true
  | "-mount" => return always true
  | "-xdev" => return always true
  | "-follow" => return always true
  | "-noleaf" => return always true
  | "-regextype" =>
    let _ ← argument option
    return always true
  | "-print" => acts (print '\n')
  | "-print0" => acts (print '\x00')
  | "-printf" => acts (printf (← argument option))
  | "-exec" =>
    let (words, together) ← command option
    if together then
      let n := (← get).2.batches
      modify fun (args, o) => (args, { o with batches := n + 1 })
      acts (execAll n words)
    else acts (exec words)
  | "-execdir" => do
    let (words, _) ← command option
    acts (exec words)
  | "-delete" =>
    modify fun (args, o) => (args, { o with fromBelow := true })
    acts delete
  | "-prune" => return prune
  | "-quit" => return quit
  | _ =>
    if option.head? = some '-' then refuse ("unknown predicate \x60".toList ++ option ++ ['\x27'])
    else
      refuse ("paths must precede expression: \x60".toList ++ option ++ ['\x27'])

mutual

/-- Read what is asked; `level` is the weakest way in which demands may be joined, and a number bounds their
length. -/
def read : Nat → Nat → ReadSearch Search
  | 0, _ => refuse "invalid expression".toList
  | limit + 1, level => do
    match level with
    | 0 => continued limit 0 (← read limit 1)
    | 1 => continued limit 1 (← read limit 2)
    | 2 => continued limit 2 (← read limit 3)
    | _ =>
      match ← get with
      | ([], _) =>
        refuse "invalid expression; you have used a binary operator with nothing after it.".toList
      | (a :: rest, o) =>
        set (rest, o)
        match String.ofList a with
        | "!" => return not (← read limit 3)
        | "-not" => return not (← read limit 3)
        | "(" =>
          let noClosing : ReadSearch Search :=
            refuse "invalid expression; expected to find a ')' but didn't see one. Perhaps you need an extra predicate after '('".toList
          if rest.isEmpty then noClosing
          else
            if rest.head? = some [')'] then
              refuse "invalid expression; empty parentheses are not allowed.".toList
            let s ← read limit 0
            match ← get with
            | ([')'] :: rest, o) =>
              set (rest, o)
              return s
            | _ => noClosing
        | ")" =>
          refuse "invalid expression; you have too many ')'".toList
        | "-o" => refuse "invalid expression; you have used a binary operator '-o' with nothing before it.".toList
        | "-a" => refuse "invalid expression; you have used a binary operator '-a' with nothing before it.".toList
        | _ => single a

/-- Read what is asked in addition to a demand. -/
def continued : Nat → Nat → Search → ReadSearch Search
  | 0, _, s => return s
  | limit + 1, level, s => do
    match ← get with
    | ([], _) => return s
    | (a :: rest, o) =>
      match level, String.ofList a with
      | 0, "," =>
        set (rest, o)
        continued limit 0 (list s (← read limit 1))
      | 1, "-o" =>
        set (rest, o)
        continued limit 1 (either s (← read limit 2))
      | 1, "-or" =>
        set (rest, o)
        continued limit 1 (either s (← read limit 2))
      | 2, "-a" =>
        set (rest, o)
        continued limit 2 (both s (← read limit 3))
      | 2, "-and" =>
        set (rest, o)
        continued limit 2 (both s (← read limit 3))
      | 2, other =>
        if [")", "-o", "-or", ","].contains other then return s
        continued limit 2 (both s (← read limit 3))
      | _, _ => return s

end

/-! ### Asking -/

/-- A file that is looked at. -/
structure Found where
  path : Raw
  start : Raw
  place : Location
  entry : Entry
  depth : Nat

/-- What happens while files are looked at. -/
structure Course where
  /-- the files for commands that are run once at the end -/
  batches : List (Nat × List Raw × List Raw) := []
  code : Nat := 0
  /-- whether the current directory is not entered -/
  isPruned : Bool := false
  ends : Bool := false

/-- Computations that look at files. -/
abbrev Walk := StateT Course Exec

/-- The text of a format for a file; `limit` bounds its length. -/
def formatText (x : Found) : Nat → Raw → Raw
  | 0, _ => []
  | _, [] => []
  | limit + 1, '\\' :: rest =>
    let (c, after) := escaped rest
    c :: formatText x limit after
  | limit + 1, '%' :: c :: rest =>
    let below := x.path.drop x.start.length
    (match c with
      | 'p' => x.path
      | 'f' => baseName x.path
      | 'h' => match Text.cutAtLast? '/' x.path with
        | some (directory, _) => directory
        | none => ['.']
      | 'P' => if below.head? = some '/' then below.tail else below
      | 'H' => x.start
      | 's' => Raw.ofNat (Listed.size { name := [], place := x.place, entry := x.entry })
      | 'y' => if x.entry == .directory then ['d'] else ['f']
      | 'd' => Raw.ofNat x.depth
      | 'm' => if x.entry == .directory then "755".toList else "644".toList
      | 'u' => "root".toList
      | 'g' => "root".toList
      | '%' => ['%']
      | c => ['%', c]) ++ formatText x limit rest
  | limit + 1, c :: rest => c :: formatText x limit rest

/-- Ask something of a file, and do what is to be done with it. -/
def ask (ev : Evaluator) (x : Found) : Search → Walk Bool
  | always b => return b
  | name pattern ignoresCase =>
    let fold (r : Raw) : Raw := if ignoresCase then r.map Char.toLower else r
    return Glob.accepts (Glob.ofGlyphs (Glyph.bare (fold pattern))) (fold (baseName x.path))
  | path pattern ignoresCase =>
    let fold (r : Raw) : Raw := if ignoresCase then r.map Char.toLower else r
    return Glob.accepts (Glob.ofGlyphs (Glyph.bare (fold pattern))) (fold x.path)
  | described r ignoresCase =>
    let letters := (Raw.letters x.path).toArray
    return (r.partsAt { letters, ignoresCase } 0).any fun part => part.stop = letters.size
  | kind letters => return letters.contains (if x.entry == .directory then 'd' else 'f')
  | empty => do
    match x.entry with
    | .file bytes => return bytes.size = 0
    | .directory => return ((← liftM (get : Exec Session)).machine.files.below x.place).isEmpty
  | size b unit =>
    let n := Listed.size { name := [], place := x.place, entry := x.entry }
    return b.accepts ((n + unit - 1) / unit)
  | runnable => do
    return x.entry == .directory || (← liftM (get : Exec Session)).machine.files.isRunnable x.place
  | print ending => do
    liftM (put (x.path ++ [ending]) : Exec Unit)
    return true
  | printf format => do
    liftM (put (formatText x (format.length + 1) format) : Exec Unit)
    return true
  | exec words => do
    let filled := words.map (Text.replace ['\x7b', '\x7d'] x.path)
    let code ← liftM (aside (launch ev (inNameOf "find") filled) : Exec Nat)
    return code = 0
  | execAll n words => do
    modify fun c =>
      let (_, files) := (c.batches.lookup n).getD (words, [])
      { c with batches := (n, words, x.path :: files) :: c.batches.filter fun (m, _) => m != n }
    return true
  | delete => do
    let last := baseName x.path
    if last = ['.'] then return true
    let below := (← liftM (get : Exec Session)).machine.files.below x.place
    if below.isEmpty then
      liftM (eraseAt x.place : Exec Unit)
      return true
    liftM (complainAs "find" ("cannot delete ".toList ++ shown x.path ++ ": Directory not empty".toList) : Exec Unit)
    modify fun c => { c with code := 1 }
    return false
  | prune => do
    modify fun c => { c with isPruned := true }
    return true
  | quit => do
    modify fun c => { c with ends := true }
    return true
  | not s => do return !(← ask ev x s)
  | both a b => do if ← ask ev x a then ask ev x b else return false
  | either a b => do if ← ask ev x a then return true else ask ev x b
  | list a b => do
    let _ ← ask ev x a
    ask ev x b

/-- Look at a file and those inside it; a number bounds how deep they are. -/
def visit (ev : Evaluator) (o : SearchOptions) (s : Search) : Nat → Found → Walk Unit
  | 0, _ => return
  | limit + 1, x => do
    if (← get).ends then return
    let look : Walk Unit := do
      modify fun c => { c with isPruned := false }
      if o.least ≤ x.depth then
        let _ ← ask ev x s
    if !o.fromBelow then look
    let enters := x.entry == .directory && x.depth < o.most && !((← get).isPruned && !o.fromBelow) && !(← get).ends
    if enters then
      let files := (← liftM (get : Exec Session)).machine.files
      for name in ← liftM (namesIn x.place : Exec (List Raw)) do
        let place := x.place ++ [Raw.toString name]
        match files.get? place with
        | some entry => visit ev o s limit { x with path := inside x.path name, place, entry, depth := x.depth + 1 }
        | none => pure ()
    if o.fromBelow then look

end Search

/-- Find files, and do something with them. -/
def find : Program := fun ev args => do
  let args := args.dropWhile fun a => a = "-L".toList || a = "-H".toList || a = "-P".toList
  let isStart (a : Raw) : Bool := !(a.head? = some '-' && 1 < a.length) && a != ['('] && a != ['!']
  let starts := args.takeWhile isStart
  let rest := args.drop starts.length
  let (s, (left, o)) ← (if rest.isEmpty then pure (Search.always true) else Search.read (20 * rest.length + 20) 0).run
    (rest, {})
  match left with
  | [')'] :: _ => refuse "find" "invalid expression; you have too many ')'".toList
  | _ => pure ()
  let s := if o.hasAction then s else .both s (.print '\n')
  let walk : Search.Walk Unit := do
    for start in (if starts.isEmpty then [['.']] else starts) do
      match ← liftM (placeOf start : Exec (Except FileFault (Location × Entry))) with
      | .error f =>
        liftM (complainAs "find" (shown start ++ ": ".toList ++ (Exec.problem f).toList) : Exec Unit)
        modify fun c => { c with code := 1 }
      | .ok (place, entry) =>
        Search.visit ev o s (maxDirectories + 1) { path := start, start, place, entry, depth := 0 }
  let (_, course) ← walk.run {}
  let mut code := course.code
  for (_, words, files) in course.batches.reverse do
    let result ← aside (launch ev (inNameOf "find") (words ++ files.reverse))
    if result != 0 then code := 1
  return code

end Stencil.Shell.Program
