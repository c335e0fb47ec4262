import Stencil.Shell.Builtin.Basic

namespace Stencil.Shell.Builtin

/-!
# Directories, signals and processes

* `cd`, `pwd`, `umask` — where the shell works and how it creates files;
* `trap`, `kill` — what is done on signals, and sending them;
* `wait`, `jobs` — processes that were not waited for.
-/

open Exec

/-! ### Directories -/

/-- Go to a directory, if there is one. -/
def goTo (name : Raw) : Exec Bool := do
  match ← locate name with
  | .error _ => return false
  | .ok l =>
    match ← entryAt l with
    | some .directory =>
      let old ← valueOf "PWD"
      update fun p => { p with directory := l }
      let new := Raw.ofString (Path.toString ⟨"/", l⟩)
      for (name, value) in [("OLDPWD", old), ("PWD", new)] do
        setVariable name.toList value
        update fun p =>
          let v := (p.vars.get? name).getD {}
          { p with vars := p.vars.put name { v with isExported := true } }
      return true
    | _ => return false

/-- The path of the current directory. -/
def currentPath : Exec Raw := do
  return Raw.ofString (Path.toString ⟨"/", (← process).directory⟩)

/-- Go to the first directory that a name leads to from one of some places. -/
def goFrom (name : Raw) : List Raw → Exec Bool
  | [] => return false
  | place :: places => do
    let isHere := place.isEmpty || place = ['.']
    let path := if isHere then name else place ++ '/' :: name
    if ← goTo path then
      if !isHere then putLine (← currentPath)
      return true
    goFrom name places

/-- Change the directory. -/
def cd (args : List Raw) : Exec Nat := do
  let (_, args) ← options "LP" args
  let name ← match args with
    | [] => valueOf "HOME"
    | name :: _ => pure name
  if name.isEmpty then return 0
  if name = ['-'] then
    let old ← valueOf "OLDPWD"
    if ← goTo (if old.isEmpty then ['.'] else old) then
      putLine (← currentPath)
      return 0
    fail ("can't cd to ".toList ++ old)
  let isPlaced := name.head? = some '/' || name = ['.'] || name = ['.', '.'] ||
    Text.startsWith ['.', '/'] name || Text.startsWith ['.', '.', '/'] name
  let found ←
    if isPlaced then goTo name
    else goFrom name (Text.splitAtChar ':' (← valueOf "CDPATH"))
  let found ← if found then pure true else goTo name
  if found then return 0
  fail ("can't cd to ".toList ++ name)

/-- Write the current directory. -/
def pwd (args : List Raw) : Exec Nat := do
  let _ ← options "LP" args
  putLine (← currentPath)
  return 0

/-- Permissions in octal digits. -/
def octalMask (n : Nat) : Raw :=
  let ds := Nat.toDigits 8 n
  List.replicate (4 - ds.length) '0' ++ ds

/-- The permissions that a class of users gets. -/
def permissions (mask shift : Nat) : Raw :=
  let granted := ((511 - mask % 512) / Nat.pow 2 shift) % 8
  [(4, 'r'), (2, 'w'), (1, 'x')].filterMap fun (bit, c) => if granted / bit % 2 = 1 then some c else none

/-- The permissions that letters stand for. -/
def permissionBits (r : Raw) : Option Nat :=
  r.foldlM (fun n c => match c with
    | 'r' => some (n ||| 4)
    | 'w' => some (n ||| 2)
    | 'x' => some (n ||| 1)
    | _ => none) 0

/-- The permissions after a change that is written with letters. -/
def changedPermissions (granted : Nat) (clause : Raw) : Option Nat := do
  let who := clause.takeWhile "ugoa".toList.contains
  match clause.drop who.length with
  | op :: letters =>
    if !(['=', '+', '-'].contains op) then none
    let bits ← permissionBits letters
    let shifts := (if who.isEmpty || who.contains 'a' || who.contains 'u' then [6] else []) ++
      (if who.isEmpty || who.contains 'a' || who.contains 'g' then [3] else []) ++
      (if who.isEmpty || who.contains 'a' || who.contains 'o' then [0] else [])
    return shifts.foldl (fun n shift =>
      let own := n / Nat.pow 2 shift % 8
      let new := match op with
        | '=' => bits
        | '+' => own ||| bits
        | _ => own - (own &&& bits)
      n - own * Nat.pow 2 shift + new * Nat.pow 2 shift) granted
  | [] => none

/-- Show or change the permissions that new files do not get. -/
def umask (args : List Raw) : Exec Nat := do
  let (found, args) ← options "S" args
  let mask := (← process).mask
  match args with
  | [] =>
    if found.isEmpty then putLine (octalMask mask)
    else say ("u=" ++ .ofList (permissions mask 6) ++ ",g=" ++ .ofList (permissions mask 3) ++ ",o=" ++
      .ofList (permissions mask 0) ++ "\n")
  | r :: _ =>
    let illegal : Exec Nat := fail ("Illegal mode: ".toList ++ r)
    let new ←
      if r.head?.any Char.isDigit then
        if r.all fun c => '0' ≤ c && c ≤ '7' then pure (r.foldl (fun n c => n * 8 + (c.toNat - 48)) 0)
        else illegalNumber r
      else
        match (Text.splitAtChar ',' r).foldlM changedPermissions (511 - mask % 512) with
        | some granted => pure (511 - granted)
        | none => illegal
    update fun p => { p with mask := new % 512 }
  return 0

/-- Show or change what the system allows; nothing here reaches its limits. -/
def ulimit (args : List Raw) : Exec Nat := do
  let (found, args) ← options "HSatfdscmlpnvwr" args
  if args.isEmpty && !found.any (·.1 == 'a') then
    say (if found.any (·.1 == 'c') then "0\n" else "unlimited\n")
  return 0

/-- Show how much time has been used. -/
def times : Exec Nat := do
  say "0m0.000000s 0m0.000000s\n0m0.000000s 0m0.000000s\n"
  return 0

/-! ### Signals -/

/-- Tell the machine for which signals the shell has something to do. -/
def noteTraps : Exec Unit := do
  let p ← process
  if p.id = p.shell then
    updateMachine fun m => { m with
      trapped := (p.shell, p.traps.map (·.1)) :: m.trapped.filter fun (id, _) => id != p.shell }

/-- Show or change what is done on signals. -/
def trap (args : List Raw) : Exec Nat := do
  match (← options "" args).2 with
  | [] =>
    for (n, action) in (← process).traps.mergeSort fun a b => a.1 ≤ b.1 do
      putLine ("trap -- ".toList ++ quote action ++ ' ' :: (Signal.name n).toList)
    return 0
  | first :: rest =>
    let (action, names) := if rest.isEmpty then (none, [first]) else
      (if first = ['-'] then none else some first, rest)
    for name in names do
      match Signal.number? name with
      | none =>
        complain ("trap: ".toList ++ name ++ ": bad trap".toList)
        return 1
      | some n =>
        update fun p =>
          let others := p.traps.filter fun (m, _) => m != n
          { p with traps := match action with
              | some action => (n, action) :: others
              | none => others }
        noteTraps
    return 0

/-- Do what is to be done on a signal. -/
def react (ev : Evaluator) (signal : Nat) : Exec Unit := do
  let p ← process
  match p.traps.lookup signal with
  | some action =>
    if !action.isEmpty then
      let _ ← ev.script {} action
      update fun q => { q with status := p.status }
  | none => if !Signal.isHarmless signal then throw (.killed p.id signal)

/-- Do what is to be done on the signals that have come in. -/
def notice (ev : Evaluator) : Exec Unit := do
  let p ← process
  let m := (← get).machine
  if m.pending.isEmpty || p.id != p.shell then return
  let own := m.pending.filter fun (id, _) => id = p.id
  updateMachine fun m => { m with pending := m.pending.filter fun (id, _) => id != p.id }
  for (_, signal) in own do react ev signal

/-- Send a signal to a process, if it exists. -/
def send (ev : Evaluator) (target signal : Nat) : Exec Bool := do
  let p ← process
  if target = p.id && p.id = p.shell then
    if signal != 0 then react ev signal
    return true
  if target = p.id || target = p.shell || target = p.parent then
    let noticed := ((← get).machine.trapped.lookup target).any (·.contains signal)
    if noticed && signal != 9 then
      updateMachine fun m => { m with pending := m.pending ++ [(target, signal)] }
    else if !Signal.isHarmless signal then throw (.killed target signal)
    return true
  if p.jobs.any fun j => j.id = target then
    if signal != 0 then
      update fun p => { p with jobs := p.jobs.map fun j =>
        if j.id = target && j.sleeps then { j with status := codeOfSignal signal, sleeps := false } else j }
    return true
  return false

/-- How the command for signals is used. -/
def killUsage : String :=
  "Usage: kill [-s sigspec | -signum | -sigspec] [pid | job]... or\nkill -l [exitstatus]"

/-- The process that an argument names. -/
def targetOf (r : Raw) : Exec Nat := do
  match r with
  | '%' :: n =>
    let jobs := (← process).jobs
    match (Raw.nat? n).bind fun n => jobs[n - 1]? with
    | some j => return j.id
    | none => fail ("No such job: ".toList ++ r)
  | '-' :: n => number n
  | r => number r

/-- Send signals, or list them. -/
def kill (ev : Evaluator) (args : List Raw) : Exec Nat := do
  let (signal, lists, targets) ← match args with
    | ('-' :: name) :: rest =>
      match Signal.number? name with
      | some n => pure (some n, false, rest)
      | none =>
        let (found, rest) ← options "ls:" args
        let signal ← match found.find? (·.1 == 's') with
          | some (_, name) =>
            match Signal.number? name with
            | some n => pure (some n)
            | none => fail ("invalid signal number or name: ".toList ++ name)
          | none => pure none
        pure (signal, found.any (·.1 == 'l'), rest)
    | args => pure (none, false, args)
  if lists then
    match targets with
    | [] =>
      say "0\n"
      for name in Signal.names.drop 1 do say (name ++ "\n")
    | r :: _ =>
      let n ← number r
      let n := if 128 < n then n - 128 else n
      if 0 < n && n < Signal.names.length then say (Signal.name n ++ "\n")
      else fail ("invalid signal number or exit status: ".toList ++ r)
    return 0
  if targets.isEmpty then fail killUsage.toList
  let mut code := 0
  for r in targets do
    if !(← send ev (← targetOf r) (signal.getD 15)) then
      warn "No such process\n".toList
      code := 1
  return code

/-! ### Processes that are not waited for -/

/-- Wait for processes. All have ended by now, but for those that sleep. -/
def wait (args : List Raw) : Exec Nat := do
  let (_, args) ← options "" args
  match args with
  | [] =>
    update fun p => { p with jobs := [] }
    return 0
  | args =>
    let mut code := 0
    for r in args do
      let target ← targetOf r
      match (← process).jobs.find? (·.id == target) with
      | some j =>
        code := j.status
        if 128 < j.status && j.status != codeOfSignal 2 && j.status != codeOfSignal 13 then
          complain (Signal.effect (j.status - 128)).toList
      | none => code := 127
    return code

/-- Show the processes that sleep. -/
def jobs : Exec Nat := do
  let sleeping := (← process).jobs.filter (·.sleeps)
  for (_, i) in sleeping.zipIdx 1 do
    say ("[" ++ toString i ++ "] + Running                    \n")
  return 0

end Stencil.Shell.Builtin
