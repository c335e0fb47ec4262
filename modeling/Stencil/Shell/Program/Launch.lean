import Stencil.Shell.Program.Output

namespace Stencil.Shell.Program

/-!
# Running other programs

* `env`, `printenv` — the environment;
* `xargs` — arguments from the input;
* `timeout`, `nice`, `nohup` — programs run in a special way;
* `sleep`, `which` — waiting, and finding programs.
-/

open Exec

/-! ### Running -/

/-- Run a command, or say that it is not found. -/
def launch (ev : Evaluator) (complaint : Raw → Raw) (words : List Raw) : Exec Nat := do
  match words with
  | [] => return 0
  | name :: _ =>
    match ← ev.find name with
    | some _ => ev.words words
    | none =>
      let isThere := (← entry name) matches .ok _
      if name.contains '/' && isThere then
        complain (complaint name ++ ": Permission denied".toList)
        return 126
      complain (complaint name ++ ": No such file or directory".toList)
      return 127

/-- A complaint of a program about a command. -/
def inNameOf (program : String) (name : Raw) : Raw :=
  program.toList ++ ": ".toList ++ shown name

/-! ### The environment -/

/-- Set the variables of assignments in front of a command; the command. -/
def assignAll : List Raw → Exec (List Raw)
  | [] => return []
  | a :: rest => do
    match Text.cut '=' a with
    | (name, some value) =>
      update fun p => { p with
        vars := p.vars.put (.ofList name) { value := some value, isExported := true } }
      assignAll rest
    | (_, none) => return a :: rest

/-- Run a command in a changed environment, or write the environment. -/
def env : Program := fun ev args => do
  let o : Options := {
    name := "env", plain := "i0v", valued := "uCS", code := 125, leads := true
    long := [("ignore-environment", 'i'), ("unset", 'u'), ("null", '0'), ("chdir", 'C'), ("split-string", 'S')] }
  let (found, words) ← o.read args
  let (clears, words) := match words with
    | ['-'] :: rest => (true, rest)
    | words => (has found 'i', words)
  aside do
    if clears then update fun p => { p with vars := [] }
    for (c, name) in found do
      if c = 'u' then update fun p => { p with vars := p.vars.erase (.ofList name) }
      if c = 'C' then
        match ← locate name with
        | .ok l => update fun p => { p with directory := l }
        | .error f =>
          Program.refuse "env" ("cannot change directory to ".toList ++ shown name ++ ": ".toList ++
            (Exec.problem f).toList) 125
    let split := ((valueOf? found 'S').map fun r => (Text.splitAtChar ' ' r).filter (!·.isEmpty)).getD []
    match ← assignAll (split ++ words) with
    | [] =>
      let ending := if has found '0' then '\x00' else '\n'
      put ((← environment).flatMap fun (name, value) => name ++ '=' :: value ++ [ending])
      return 0
    | command => launch ev (inNameOf "env") command

/-- Write values of the environment. -/
def printenv : Program := fun _ args => do
  let o : Options := { name := "printenv", plain := "0", code := 2, long := [("null", '0')] }
  let (_, names) ← o.read args
  let all ← environment
  if names.isEmpty then
    put (all.flatMap fun (name, value) => name ++ '=' :: value ++ ['\n'])
    return 0
  put (names.flatMap fun name => ((all.lookup name).map (· ++ ['\n'])).getD [])
  return if names.all fun name => (all.lookup name).isSome then 0 else 1

/-! ### Arguments from the input -/

/-- What has been read of arguments, and why they cannot be read further. -/
inductive QuoteFault where
  | unmatched (isDouble : Bool)

/-- The arguments in a text, each with whether its line ends behind it. Quotes and backslashes keep separators;
`limit` bounds how many bytes there are. The current argument is given by its last byte first. -/
def argumentsIn : Nat → Option Raw → Raw → Except QuoteFault (List (Raw × Bool))
  | 0, _, _ => .ok []
  | limit + 1, current, r =>
    let finish (ends : Bool) (rest : Raw) : Except QuoteFault (List (Raw × Bool)) := do
      let more ← argumentsIn limit none rest
      match current with
      | some a => return (a.reverse, ends) :: more
      | none => return more
    match r with
    | [] => .ok (current.toList.map fun a => (a.reverse, true))
    | '\n' :: rest => finish true rest
    | '\\' :: c :: rest => argumentsIn limit (some (c :: current.getD [])) rest
    | c :: rest =>
      if c = ' ' || c = '\t' then
        match rest.dropWhile fun c => c = ' ' || c = '\t' with
        | '\n' :: rest => finish false ('\n' :: rest)
        | rest => finish false rest
      else if c = '\x27' || c = '"' then
        let inside := rest.takeWhile fun d => d != c && d != '\n'
        match rest.drop inside.length with
        | d :: rest =>
          if d = c then argumentsIn limit (some (inside.reverse ++ current.getD [])) rest
          else .error (.unmatched (c = '"'))
        | [] => .error (.unmatched (c = '"'))
      else argumentsIn limit (some (c :: current.getD [])) rest

/-- Groups of arguments, each with the arguments of some lines. -/
def lineGroups (size : Nat) (items : List (Raw × Bool)) : List (List Raw) :=
  let (groups, current, _) := items.foldl (fun (groups, current, n) (a, ends) =>
    let current := a :: current
    if ends && n + 1 = size then (current.reverse :: groups, [], 0)
    else (groups, current, if ends then n + 1 else n))
    (([] : List (List Raw)), ([] : List Raw), 0)
  (if current.isEmpty then groups else current.reverse :: groups).reverse

/-- Groups of some number of arguments; `limit` bounds how many there are. -/
def sizedGroups (size : Nat) : Nat → List Raw → List (List Raw)
  | 0, _ => []
  | _, [] => []
  | limit + 1, args => args.take size :: sizedGroups size limit (args.drop size)

/-- Run a command with arguments from the input. -/
def xargs : Program := fun ev args => do
  let o : Options := {
    name := "xargs", plain := "0rtxpo", valued := "nILdPsaE", optional := "iel", leads := true
    long := [("null", '0'), ("no-run-if-empty", 'r'), ("verbose", 't'), ("max-args", 'n'), ("replace", 'i'),
      ("max-lines", 'l'), ("delimiter", 'd'), ("max-procs", 'P'), ("arg-file", 'a'), ("exit", 'x')] }
  let (found, words) ← o.read args
  let command := if words.isEmpty then ["echo".toList] else words
  let r ← match valueOf? found 'a' with
    | some file => match ← readFile file with
      | .ok r => pure r
      | .error problem =>
        refuse "xargs" ("Cannot open input file ".toList ++ shown file ++ ": ".toList ++ problem.toList)
    | none => pure ((← readAll 0).toOption.getD [])
  let mark := (valueOf? found 'I').or ((valueOf? found 'i').map fun m => if m.isEmpty then ['\x7b', '\x7d'] else m)
  let separator := if has found '0' then some '\x00' else (valueOf? found 'd').bind fun d =>
    match d with
    | '\\' :: _ => some (escaped d.tail).1
    | c :: _ => some c
    | [] => none
  let fromPieces (c : Char) : List (Raw × Bool) :=
    let pieces := Text.splitAtChar c r
    (if pieces.getLast? = some [] then pieces.dropLast else pieces).map fun p => (p, true)
  let unmatched (isDouble : Bool) : Exec (List (Raw × Bool)) :=
    refuse "xargs" ("unmatched ".toList ++ (if isDouble then "double" else "single").toList ++
      " quote; by default quotes are special to xargs unless you use the -0 option".toList)
  let items ← match separator, mark with
    | some c, _ => pure (fromPieces c)
    | none, some _ =>
      let ls := (Raw.lines r).map fun l => l.dropWhile fun c => c = ' ' || c = '\t'
      let plain ← ls.mapM fun l => do
        let isGap (c : Char) : Bool := c = ' ' || c = '\t'
        match argumentsIn (l.length + 1) none (l.flatMap fun c => if isGap c then ['\\', c] else [c]) with
        | .ok ((a, _) :: _) => pure [(a, true)]
        | .ok [] => pure []
        | .error (.unmatched isDouble) => unmatched isDouble
      pure plain.flatten
    | none, none =>
      match argumentsIn (r.length + 1) none r with
      | .ok items => pure items
      | .error (.unmatched isDouble) => unmatched isDouble
  let number (c : Char) : Exec (Option Nat) := do
    match valueOf? found c with
    | none => return none
    | some r =>
      match Raw.nat? r with
      | some 0 => o.refuse ("value 0 for -".toList ++ c :: " option should be >= 1".toList)
      | some n => return some n
      | none => o.refuse ("invalid number \"".toList ++ r ++ "\" for -".toList ++ c :: " option".toList)
  let texts := items.map (·.1)
  let lineCount := (← number 'L').or ((valueOf? found 'l').map fun r => (Raw.nat? r).getD 1)
  let commands : List (List Raw) ← match mark with
    | some m => pure (texts.map fun t => command.map (Text.replace m t))
    | none =>
      let groups ← match ← number 'n', lineCount with
        | some n, _ => pure (sizedGroups n (texts.length + 1) texts)
        | none, some n => pure (lineGroups n items)
        | none, none => pure (if texts.isEmpty then [] else [texts])
      let groups := if groups.isEmpty && !has found 'r' then [[]] else groups
      pure (groups.map (command ++ ·))
  let nothing ← addOpening { channel := .nowhere }
  let mut code := 0
  for words in commands do
    if code < 124 then
      if has found 't' then complain (Text.join [' '] words)
      let result ← aside do
        setStream 0 (some nothing)
        launch ev (fun name => "xargs: ".toList ++ name) words
      if result = 126 || result = 127 then code := result
      else if result = 255 then
        complainAs "xargs" ((command.head?.getD []) ++ ": exited with status 255; aborting".toList)
        code := 124
      else if 128 < result then code := 125
      else if result != 0 then code := 123
  return code

/-! ### Time -/

/-- A span of time in milliseconds. -/
def milliseconds? (r : Raw) : Option Nat := do
  if r = "infinity".toList then some 1000000000000
  else
    let (digits, unit) := match r.getLast? with
      | some 's' => (r.dropLast, 1)
      | some 'm' => (r.dropLast, 60)
      | some 'h' => (r.dropLast, 3600)
      | some 'd' => (r.dropLast, 86400)
      | _ => (r, 1)
    let (n, places) ← decimal? digits
    if n < 0 then none
    else some (n.toNat * unit * 1000 / Nat.pow 10 places)

/-- Let time go by. -/
def sleep : Program := fun _ args => do
  let o : Options := { name := "sleep" }
  let (_, spans) ← o.read args
  if spans.isEmpty then o.refuse "missing operand".toList
  let bad := spans.filter fun r => (milliseconds? r).isNone
  for r in bad do complainAs "sleep" ("invalid time interval ".toList ++ shown r)
  if !bad.isEmpty then o.hint
  let total := (spans.filterMap milliseconds?).foldl (· + ·) 0
  updateMachine fun m => { m with elapsed := m.elapsed + total }
  return 0

/-- Run a command, but not for longer than a span of time. -/
def timeout : Program := fun ev args => do
  let o : Options := {
    name := "timeout", plain := "fvp", valued := "sk", code := 125, leads := true
    long := [("signal", 's'), ("kill-after", 'k'), ("foreground", 'f'), ("preserve-status", 'p')] }
  let (found, words) ← o.read args
  match words with
  | span :: name :: rest =>
    match milliseconds? span with
    | none =>
      complainAs "timeout" ("invalid time interval ".toList ++ shown span)
      o.hint
    | some most =>
      let before := (← get).machine.elapsed
      let code ← launch ev (fun name => "timeout: failed to run command ".toList ++ shown name) (name :: rest)
      let after := (← get).machine.elapsed
      if most != 0 && before + most < after then
        updateMachine fun m => { m with elapsed := before + most }
        let signal := ((valueOf? found 's').bind Signal.number?).getD 15
        return if signal = 9 then codeOfSignal 9 else if has found 'p' then codeOfSignal signal else 124
      return code
  | _ =>
    if words.isEmpty then o.refuse "missing operand".toList
    o.refuse ("missing operand after ".toList ++ shown (words.head?.getD []))

/-- Run a command at another priority. -/
def nice : Program := fun ev args => do
  let o : Options := { name := "nice", valued := "n", code := 125, leads := true, long := [("adjustment", 'n')] }
  let (_, words) ← o.read args
  if words.isEmpty then
    say "0\n"
    return 0
  launch ev (inNameOf "nice") words

/-- Run a command that outlives its shell. -/
def nohup : Program := fun ev args => do
  if args.isEmpty then
    complainAs "nohup" "missing operand".toList
    complain "Try 'nohup --help' for more information.".toList
    return 125
  launch ev (fun name => "nohup: failed to run command ".toList ++ shown name) args

/-- Run a command with other buffers. -/
def stdbuf : Program := fun ev args => do
  let o : Options := { name := "stdbuf", valued := "ioe", code := 125, leads := true }
  let (_, words) ← o.read args
  launch ev (fun name => "stdbuf: failed to run command ".toList ++ shown name) words

/-- Write the paths of programs. -/
def which : Program := fun ev args => do
  let o : Options := { name := "which", plain := "as", code := 2 }
  let (found, names) ← o.read args
  if names.isEmpty then return 1
  let mut code := 0
  for name in names do
    match ← ev.find name with
    | some path => if !has found 's' then putLine path
    | none => code := 1
  return code

/-- Write the name of the user. -/
def whoami : Program := fun _ _ => do
  say "root\n"
  return 0

/-- Write the name of the system. -/
def uname : Program := fun _ args => do
  let o : Options := { name := "uname", plain := "snrvmpioa" }
  let (found, _) ← o.read args
  putLine (if has found 'm' && !has found 's' then "x86_64".toList else "Linux".toList)
  return 0

/-- Write the number of the user. -/
def id : Program := fun _ args => do
  let o : Options := { name := "id", plain := "ugnGr" }
  let (found, _) ← o.read args
  putLine (if has found 'n' then "root".toList
    else if has found 'u' || has found 'g' || has found 'G' then ['0']
    else "uid=0(root) gid=0(root) groups=0(root)".toList)
  return 0

end Stencil.Shell.Program
