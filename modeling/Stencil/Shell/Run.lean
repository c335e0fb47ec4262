import Stencil.Shell.Builtin.Condition
import Stencil.Shell.Builtin.Name
import Stencil.Shell.Builtin.Print
import Stencil.Shell.Builtin.Process
import Stencil.Shell.Builtin.Variable
import Stencil.Shell.Redirection

namespace Stencil.Shell

/-!
# Running scripts

* `Command.run` — run a command in a session;
* `Exec.script` — run a script, line by line;
* `Outcome`, `run` — what a script leaves behind.
-/

open Exec

/-! ### Scripts -/

/-- Read the next line of a script and keep the texts that stand in it. -/
def nextLine (c : Cursor) : Exec (Option (Option Command × Cursor)) := do
  let documents := (← get).machine.documents
  match c.line? documents (← process).aliases with
  | .error m =>
    update fun p => { p with line := m.line }
    fail ("Syntax error: ".toList ++ m.reason.toList)
  | .ok none => return none
  | .ok (some (body, after)) =>
    updateMachine fun m => { m with documents := after.documents }
    return some (body, after)

/-- Run the lines of a script; `limit` bounds how many there are. -/
def scriptLines (ev : Evaluator) (mode : Mode) : Nat → Cursor → Nat → Exec Nat
  | 0, _, status => return status
  | limit + 1, c, status => do
    match ← nextLine c with
    | none => return status
    | some (none, after) => scriptLines ev mode limit after status
    | some (some body, after) =>
      let isLast := mode.isLast && after.rest.isEmpty
      -- With the setting `n`, commands are read and not run.
      let status ←
        if (← process).settings.contains 'n' then pure status else ev.command { mode with isLast } body
      scriptLines ev mode limit after status

/-- Run a script, line by line. -/
def runScript (ev : Evaluator) (mode : Mode) (source : Raw) : Exec Nat :=
  scriptLines ev mode (source.length + 1) { rest := source } 0

/-! ### Programs -/

/-- Run a program to its end. -/
def runProgram (act : Exec Nat) : Exec Nat := do
  match ← attempt act with
  | .ok code => return code % 256
  | .error (.exit code) => return code % 256
  | .error (.failure code) => return code
  | .error stop => throw stop

/-- How a new shell is told what to do. -/
structure Invocation where
  settings : List Char := []
  /-- whether the script is given by an argument -/
  hasScript : Bool := false
  rest : List Raw := []

/-- The settings in front of the arguments of a new shell. -/
def invocation : Nat → Invocation → Exec Invocation
  | 0, i => return i
  | limit + 1, i => do
    match i.rest with
    | ['-', '-'] :: rest => return { i with rest }
    | ['-'] :: rest => return { i with rest }
    | (sign :: c :: letters) :: rest =>
      if sign != '-' && sign != '+' then return i
      let names := (c :: letters).filter (· = 'o')
      for letter in c :: letters do
        if letter != 'c' && letter != 's' && letter != 'o' && letter != 'l' &&
            !Builtin.settingNames.any (·.2 == letter) then
          fail ("Illegal option -".toList ++ [letter])
      let named ← (rest.take names.length).mapM fun name =>
        match Builtin.settingNames.lookup (.ofList name) with
        | some letter => pure letter
        | none => fail ((if sign = '-' then "Illegal option -o " else "Illegal option +o ").toList ++ name)
      -- The letters for a script, for named settings and for a login shell are no settings.
      let given := (c :: letters).filter fun letter => letter != 'c' && letter != 'o' && letter != 'l'
      let changed := given ++ named
      invocation limit {
        settings := if sign = '-' then changed ++ i.settings else i.settings.filter (!changed.contains ·)
        hasScript := i.hasScript || (c :: letters).contains 'c'
        rest := rest.drop names.length }
    | _ => return i

/-- Run what a new shell is told to do. -/
def runInvocation (ev : Evaluator) (args : List Raw) : Exec Nat := do
  update fun p => { p with line := 0 }
  let i ← invocation (args.length + 1) { rest := args }
  update fun p => { p with settings := i.settings.filter (· != 's') }
  let script (source : Raw) : Exec Nat := do
    update fun p => { p with line := 1 }
    runScript ev { isLast := true } source
  if i.hasScript then
    match i.rest with
    | [] => fail "-c requires an argument".toList
    | source :: rest =>
      match rest with
      | name :: args => update fun p => { p with name, arguments := args }
      | [] => pure ()
      script source
  else if i.rest.isEmpty || i.settings.contains 's' then
    update fun p => { p with arguments := i.rest }
    match ← readAll 0 with
    | .ok source => script source
    | .error _ => return 0
  else
    match i.rest with
    | [] => return 0
    | file :: args =>
      match ← entry file with
      | .error f => fail ("cannot open ".toList ++ file ++ ": ".toList ++ (openProblem "No such file" f).toList)
      | .ok _ =>
        update fun p => { p with name := file, arguments := args }
        match ← readFile file with
        | .ok source => script source
        | .error _ => return 0

/-- Run a new shell: it gets the exported variables and starts afresh otherwise. With `takesPlace` it takes the
place of the process. -/
def newShell (ev : Evaluator) (takesPlace : Bool) (name : Raw) (act : Exec Nat) : Exec Nat := do
  let outer ← process
  let id ← if takesPlace then pure outer.id else fresh
  let given := outer.vars.filter fun (_, v) => v.isExported && v.value.isSome
  let own : List (String × String) := [("IFS", " \t\n"), ("OPTIND", "1"), ("PS1", "$ "), ("PS2", "> "), ("PS4", "+ ")]
  let vars := own.foldl (fun (vs : OrderedMap Variable) (name, value) =>
    vs.put name { value := some value.toList }) given
  update fun _ => {
    shell := id, id
    parent := if takesPlace then outer.parent else outer.id
    directory := outer.directory, name
    vars := if vars.contains "PWD" then vars else
      vars.put "PWD" { value := some (Raw.ofString (Path.toString ⟨"/", outer.directory⟩)) }
    -- Signals that are ignored stay so; actions are not handed on.
    traps := outer.traps.filter fun (_, action) => action.isEmpty
    streams := outer.streams, mask := outer.mask }
  let result ← attempt (toEnd ev act)
  update fun _ => outer
  match result with
  | .ok code => return code % 256
  | .error (.killed victim signal) =>
    -- To a shell that waits, the death of the new one is an exit code.
    if takesPlace || victim != id then throw (.killed victim signal)
    -- Nothing is said about interrupts and broken pipes.
    if signal != 2 && signal != 13 then complain (Signal.effect signal).toList
    return codeOfSignal signal
  | .error stop => throw stop

/-- The program and its argument that the first line of a script names. -/
def interpreter? (source : Raw) : Option (Raw × List Raw) :=
  match source with
  | '#' :: '!' :: rest =>
    let line := (rest.takeWhile (· != '\n')).dropWhile fun c => c = ' ' || c = '\t'
    let program := line.takeWhile fun c => c != ' ' && c != '\t'
    let argument := Text.trim (line.drop program.length)
    some (program, if argument.isEmpty then [] else [argument])
  | _ => none

/-- Run the program at a path. -/
def runPath (ev : Evaluator) (takesPlace : Bool) (path name : Raw) (args : List Raw) : Exec Nat := do
  let base := String.ofList (Lookup.splitPath path).2
  if Lookup.shells.contains base then newShell ev takesPlace name (runInvocation ev args)
  else match Program.all.lookup base with
    | some program => runProgram (program ev args)
    | none => return 127

/-- Run a file that is a script. -/
def runFile (ev : Evaluator) (takesPlace : Bool) (path : Raw) (args : List Raw) : Exec Nat := do
  match ← readFile path with
  | .error _ => return 126
  | .ok source =>
    match interpreter? source with
    | some (program, argument) =>
      if Lookup.isProgramPath program then runPath ev takesPlace program program (argument ++ path :: args)
      else
        warn (path ++ ": not found".toList)
        return 127
    | none => newShell ev takesPlace path (runInvocation ev (path :: args))

/-- Run what a name stands for outside the shell. -/
def runLookup (ev : Evaluator) (takesPlace : Bool) (name : Raw) (args : List Raw) : Lookup → Exec Nat
  | .program path => do
    remember name
    runPath ev takesPlace path name args
  | .script path => do
    remember name
    runFile ev takesPlace path args
  | .denied => do
    warn (name ++ ": Permission denied".toList)
    return 126
  | _ => do
    warn (name ++ ": not found".toList)
    return 127

/-! ### Commands of the shell -/

/-- The commands of the shell, but for those that find other commands. -/
def builtins : List Builtin :=
  let level (args : List Raw) : Exec Nat := do
    match args with
    | r :: _ =>
      let n ← number r
      if n = 0 then illegalNumber r else return n
    | [] => return 1
  let leave (stop : Nat → Stop) (args : List Raw) : Exec Nat := do
    let n ← level args
    let loops := (← process).loops
    if loops = 0 then return 0
    throw (stop (min n loops))
  let status (args : List Raw) : Exec Nat := do
    match args with
    | r :: _ => number r
    | [] => return (← process).status
  [{ name := ":", isSpecial := true, run := fun _ _ => return 0 },
   { name := "true", run := fun _ _ => return 0 },
   { name := "false", run := fun _ _ => return 1 },
   { name := "break", isSpecial := true, run := fun _ args => leave .leaveLoops args },
   { name := "continue", isSpecial := true, run := fun _ args => leave .nextTurn args },
   { name := "return", isSpecial := true, run := fun _ args => do throw (.leaveFunction (← status args)) },
   { name := "exit", isSpecial := true, run := fun _ args => do throw (.exit ((← status args) % 256)) },
   { name := "eval", isSpecial := true, run := fun ev args => ev.script {} (Text.join [' '] args) },
   { name := "export", isSpecial := true, takesAssignments := true,
     run := fun _ => Builtin.declare "export " (·.isExported) fun v => { v with isExported := true } },
   { name := "readonly", isSpecial := true, takesAssignments := true,
     run := fun _ => Builtin.declare "readonly " (·.isReadOnly) fun v => { v with isReadOnly := true } },
   { name := "local", isSpecial := true, takesAssignments := true, run := fun _ => Builtin.localVariables },
   { name := "unset", isSpecial := true, run := fun _ => Builtin.unset },
   { name := "set", isSpecial := true, run := fun _ => Builtin.setCommand },
   { name := "shift", isSpecial := true, run := fun _ => Builtin.shift },
   { name := "times", isSpecial := true, run := fun _ _ => Builtin.times },
   { name := "trap", isSpecial := true, run := fun _ => Builtin.trap },
   { name := "alias", run := fun _ => Builtin.defineAlias },
   { name := "unalias", run := fun _ => Builtin.unalias },
   { name := "cd", run := fun _ => Builtin.cd },
   { name := "chdir", run := fun _ => Builtin.cd },
   { name := "pwd", run := fun _ => Builtin.pwd },
   { name := "umask", run := fun _ => Builtin.umask },
   { name := "ulimit", run := fun _ => Builtin.ulimit },
   { name := "kill", run := Builtin.kill },
   { name := "wait", run := fun _ => Builtin.wait },
   { name := "jobs", run := fun _ _ => Builtin.jobs },
   { name := "fg", run := fun _ _ => fail "No current job".toList },
   { name := "bg", run := fun _ _ => fail "No current job".toList },
   { name := "read", run := fun _ => Builtin.read },
   { name := "getopts", run := fun _ => Builtin.getopts },
   { name := "type", run := fun _ => Builtin.type },
   { name := "command", run := fun _ => Builtin.describeCommand },
   { name := "hash", run := fun _ => Builtin.hash },
   { name := "echo", run := fun _ => Builtin.echo },
   { name := "printf", run := fun _ => Builtin.printf },
   { name := "test", run := fun _ => Builtin.condition },
   { name := "[", run := fun _ => Builtin.bracketed }]

/-- Run a script that is read from a file into the shell. -/
def runIncluded (ev : Evaluator) (name : Raw) : Exec Nat := do
  let path ←
    if name.contains '/' then pure name
    else
      let places := Text.splitAtChar ':' (← valueOf "PATH")
      let candidates := places.map fun d => if d.isEmpty then name else d ++ '/' :: name
      let found ← candidates.filterM fun path => return (← entry path) matches .ok (.file _)
      match found with
      | path :: _ => pure path
      | [] => fail (name ++ ": not found".toList)
  match ← entry path with
  | .error f => fail ("cannot open ".toList ++ path ++ ": ".toList ++ (openProblem "No such file" f).toList)
  | .ok _ =>
    let source := (← readFile path).toOption.getD []
    match ← attempt (asCommand path (runScript ev {} source)) with
    | .ok code => return code
    | .error (.leaveFunction code) => return code
    | .error stop => throw stop

/-- What a name stands for outside the shell. -/
def lookUpOutside (name : Raw) : Exec Lookup := do
  if name.contains '/' then lookUpPath name
  else lookUpIn name (Text.splitAtChar ':' (← valueOf "PATH"))

/-- The path of the program with a name. -/
def findProgram (name : Raw) : Exec (Option Raw) := do
  match ← lookUpOutside name with
  | .program path => return some path
  | .script path => return some path
  | _ => return none

/-- Run a command in the place of the shell. -/
def runInPlace (ev : Evaluator) (name : Raw) (args : List Raw) : Exec Nat := do
  let found ← lookUpOutside name
  if found matches .program _ then update fun p => { p with traps := p.traps.filter (·.1 != 0) }
  throw (.exit (← runLookup ev true name args found))

/-- The command of the shell with a name. -/
def builtin? (name : Raw) : Option Builtin :=
  match String.ofList name with
  | "." => some { name := ".", isSpecial := true, run := fun ev args => do
      match args with
      | name :: _ => runIncluded ev name
      | [] => return 0 }
  | "exec" => some { name := "exec", isSpecial := true, run := fun ev args => do
      match args with
      | name :: args => runInPlace ev name args
      | [] => return 0 }
  | s => builtins.find? (·.name == s)

/-! ### Simple commands -/

/-- Run a function. -/
def runFunction (ev : Evaluator) (mode : Mode) (line : Nat) (body : Command) (args : List Raw) : Exec Nat := do
  let outer ← process
  update fun p => { p with arguments := args, functionLine := line, loops := 0, inFunction := true }
  let result ← attempt (ev.command { isTested := mode.isTested } body)
  update fun p => { p with
    arguments := outer.arguments, functionLine := outer.functionLine, loops := outer.loops
    inFunction := outer.inFunction }
  match result with
  | .ok code => return code
  | .error (.leaveFunction code) => return code
  | .error stop => throw stop

/-- Run a computation; variables that are made local return to their values after it. -/
def withLocals (act : Exec Nat) : Exec Nat := do
  update fun p => { p with locals := [] :: p.locals }
  andAlways act do
    let kept := (← process).locals.head?.getD []
    update fun p => { p with locals := p.locals.tail }
    Builtin.restoreLocals kept

/-- Run a command of the shell; a failure of one that is not special ends only itself. -/
def runBuiltin (ev : Evaluator) (mode : Mode) (b : Builtin) (contains_ : Bool) (args : List Raw) : Exec Nat := do
  -- A script that is evaluated counts as tested where the command does.
  let ev := if b.name = "eval" then { ev with script := fun m => ev.script { m with isTested := mode.isTested } } else ev
  match ← attempt (asCommand b.name.toList (b.run ev args)) with
  | .ok code => return code
  | .error (.failure code) => if contains_ then return code else throw (.failure code)
  | .error stop => throw stop

/-- The command behind words that ask for it not to be a function, and whether they do. -/
def stripCommand : Nat → List Raw → List Raw × Bool × Bool
  | 0, fields => (fields, false, false)
  | limit + 1, fields =>
    match fields with
    | name :: rest =>
      if name != "command".toList then (fields, false, false)
      else match rest with
        | [] => (fields, false, false)
        | ['-', '-'] :: [] => (fields, false, false)
        | ['-', '-'] :: more =>
          let (inner, _, standard) := stripCommand limit more
          (inner, true, standard)
        | ('-' :: 'p' :: letters) :: more =>
          if letters.all (· = 'p') && !more.isEmpty then
            let (inner, _, _) := stripCommand limit more
            (inner, true, true)
          else (fields, false, false)
        | ('-' :: _ :: _) :: _ => (fields, false, false)
        | more =>
          let (inner, _, standard) := stripCommand limit more
          (inner, true, standard)
    | [] => (fields, false, false)

/-- The fields of the words of a command. Assignments after a command that declares variables are not split. -/
def commandFields (ev : Evaluator) : List Word → List Raw → Exec (List Raw)
  | [], fields => return fields
  | w :: ws, fields => do
    let declares := match (stripCommand fields.length fields).1 with
      | name :: _ => ["export", "readonly", "local"].contains (String.ofList name)
      | [] => false
    if declares && (Word.assigned? w).isSome then
      let (name, value) ← Word.assignment ev w
      commandFields ev ws (fields ++ [name ++ '=' :: value])
    else commandFields ev ws (fields ++ (← Word.fields ev w))

/-- Show a command before it is run. -/
def trace (number : Option Nat) (texts : List Raw) : Exec Unit := do
  if (← process).settings.contains 'x' then
    if let some number := number then
      let _ ← writeTo number ((← valueOf "PS4") ++ Text.join [' '] texts ++ ['\n'])

/-- Set the variables of assignments; their texts, as they are shown. -/
def assign (ev : Evaluator) (isLocal : Bool) : List Word → Exec (List Raw)
  | [] => return []
  | w :: ws => do
    let (name, value) ← Word.assignment ev w
    if isLocal then Builtin.keepLocal name
    setVariable name value
    if isLocal then
      update fun p =>
        let v := (p.vars.get? (.ofList name)).getD {}
        { p with vars := p.vars.put (.ofList name) { v with isExported := true } }
    return (name ++ '=' :: value) :: (← assign ev isLocal ws)

/-- Run a simple command. -/
def runSimple (ev : Evaluator) (mode : Mode) (line : Nat) (assignments words : List Word) (rs : List Redirect) :
    Exec Nat := do
  update fun p => { p with line, outputStatus := 0 }
  let all ← commandFields ev words []
  let (fields, noFunctions, standard) := stripCommand all.length all
  let errors ← openingOf? 2
  match fields with
  | [] =>
    withRedirects ev rs (return false) (return 2) do
      let shown ← assign ev false assignments
      trace errors shown
      return (← process).outputStatus
  | name :: args =>
    let special := Lookup.isSpecial name && !noFunctions
    -- The redirections of `exec` without a command are for the shell itself.
    let stays : Exec Bool := return name = "exec".toList && args.isEmpty
    let failed : Exec Nat := if special then throw (.failure 2) else return 2
    withRedirects ev rs stays failed do
      -- Assignments in front of a special command stay after it.
      (if special then id else withLocals) do
        let shown ← assign ev (!special) assignments
        trace errors (shown ++ all)
        match ← lookUp name (!noFunctions) (if standard then some standardPath else none) with
        | .function =>
          match (← process).functions.get? (.ofList name) with
          | some (line, body) => runFunction ev mode line body args
          | none => return 127
        | .builtin =>
          match builtin? name with
          | some b => runBuiltin ev mode b (!special) args
          | none => return 127
        | found => runLookup ev false name args found

/-! ### Commands -/

/-- How often a loop is run at most. -/
def maxTurns : Nat := 1000000

/-- Run a part of a loop, which may end it or its turn: the exit code, and whether the loop goes on. -/
def inLoop (act : Exec Nat) : Exec (Nat × Bool) := do
  match ← attempt act with
  | .ok code => return (code, true)
  | .error (.leaveLoops n) => if n ≤ 1 then return (0, false) else throw (.leaveLoops (n - 1))
  | .error (.nextTurn n) => if n ≤ 1 then return (0, true) else throw (.nextTurn (n - 1))
  | .error stop => throw stop

/-- Run a loop with a condition; `limit` bounds how often. -/
def runLoop (ev : Evaluator) (mode : Mode) (wanted : Bool) (condition body : Command) : Nat → Nat → Exec Nat
  | 0, status => return status
  | limit + 1, status => do
    match ← attempt (ev.command { isTested := true } condition) with
    | .ok code =>
      if (code = 0) != wanted then return status
      let (status, goesOn) ← inLoop (ev.command { isTested := mode.isTested } body)
      if goesOn then runLoop ev mode wanted condition body limit status else return status
    | .error (.leaveLoops n) => if n ≤ 1 then return status else throw (.leaveLoops (n - 1))
    | .error (.nextTurn n) =>
      if n ≤ 1 then runLoop ev mode wanted condition body limit status else throw (.nextTurn (n - 1))
    | .error stop => throw stop

/-- Run a loop over values. -/
def runEach (ev : Evaluator) (mode : Mode) (name : Raw) (body : Command) : List Raw → Nat → Exec Nat
  | [], status => return status
  | r :: rest, _ => do
    setVariable name r
    let (status, goesOn) ← inLoop (ev.command { isTested := mode.isTested } body)
    if goesOn then runEach ev mode name body rest status else return status

/-- Run a computation inside a loop. -/
def asLoop (act : Exec Nat) : Exec Nat := do
  update fun p => { p with loops := p.loops + 1 }
  andAlways act (update fun p => { p with loops := p.loops - 1 })

/-- Run the first branch that has a pattern for a text. -/
def runBranches (ev : Evaluator) (mode : Mode) (subject : Raw) : List (List Word × Option Command) → Exec Nat
  | [] => return 0
  | (patterns, body) :: rest => do
    if ← patterns.anyM fun w => do
        return Glob.accepts (Glob.ofGlyphs (← Word.glyphs ev .atStart w)) subject then
      match body with
      | some c => ev.command mode c
      | none => return 0
    else runBranches ev mode subject rest

/-- Run commands of which each reads what the one before writes. -/
def runStages (ev : Evaluator) : List Command → Option Nat → Exec Nat
  | [], _ => return 0
  | c :: cs, input => do
    let withInput : Exec Unit := do if input.isSome then setStream 0 input
    match cs with
    | [] => inChild ev do
        withInput
        ev.command { isLast := true } c
    | cs =>
      -- A stage comes to its end before the next one starts, which then reads all that was written.
      let output ← addOpening { channel := .pipe [] 0, canRead := false }
      let _ ← inChild ev do
        withInput
        setStream 1 (some output)
        ev.command { isLast := true } c
      let written ← collected output
      dropOpening output
      let next ← addOpening { channel := .source written, canWrite := false }
      let code ← runStages ev cs (some next)
      dropOpening next
      return code

/-- Run a command that is not waited for; it has no input. -/
def runBackground (ev : Evaluator) (c : Command) : Exec Nat := do
  let before := (← get).machine.elapsed
  let nothing ← addOpening { channel := .nowhere }
  let id ← fresh
  let code ← inChild ev do
    setStream 0 (some nothing)
    ev.command { isLast := true } c
  let sleeps := before < (← get).machine.elapsed
  -- Nobody waits for the command, so its time does not pass here.
  updateMachine fun m => { m with elapsed := before }
  update fun p => { p with jobs := p.jobs ++ [{ id, status := code, sleeps }], lastJob := some id }
  return 0

/-- Whether the failure of a command ends the shell, if that is set. -/
def Command.isChecked : Command → Bool
  | .simple .. => true
  | .subshell .. => true
  | .background .. => true
  | .pipeline _ => true
  | _ => false

/-- Run a command, given what runs the commands inside it. -/
def Command.runWith (ev : Evaluator) (mode : Mode) : Command → Exec Nat
  | .simple line assignments words rs => runSimple ev mode line assignments words rs
  | .redirected line body rs => do
    update fun p => { p with line }
    withRedirects ev rs (return false) (return 2) (ev.command { isTested := mode.isTested } body)
  | .subshell line body rs => do
    update fun p => { p with line }
    let inside : Exec Nat := do
      withRedirects ev rs (return false) (throw (.exit 2)) (ev.command { mode with isLast := true } body)
    -- The last command of a process is run in its place, unless the process has a trap.
    if mode.isLast && (← process).traps.isEmpty then inside else inChild ev inside
  | .background line body => do
    update fun p => { p with line }
    runBackground ev body
  | .pipeline cs => runStages ev cs none
  | .negated c => do return if (← ev.command { isTested := true } c) = 0 then 1 else 0
  | .sequence cs => do
    -- Only the last one can be the last command of the process.
    let (status, _) ← cs.foldlM (fun (_, left) c => do
      return (← ev.command { mode with isLast := mode.isLast && left = 1 } c, left - 1)) (0, cs.length)
    return status
  | .both a b => do
    let status ← ev.command { isTested := true } a
    if status = 0 then ev.command mode b else return status
  | .either a b => do
    let status ← ev.command { isTested := true } a
    if status = 0 then return status else ev.command mode b
  | .choice condition yes no => do
    if (← ev.command { isTested := true } condition) = 0 then ev.command mode yes
    else match no with
      | some no => ev.command mode no
      | none => return 0
  | .loop wanted condition body => asLoop (runLoop ev mode wanted condition body maxTurns 0)
  | .forEach line name words body => do
    update fun p => { p with line }
    let fields := (← words.mapM (Word.fields ev)).flatten
    asLoop (runEach ev mode name body fields 0)
  | .select line subject branches => do
    update fun p => { p with line }
    runBranches ev mode (← Word.text ev subject) branches
  | .define name line body => do
    update fun p => { p with functions := p.functions.put (.ofList name) (line, body) }
    return 0

/-- Run a command, given what runs the commands inside it, and look at its success. -/
def Command.runChecked (ev : Evaluator) (mode : Mode) (c : Command) : Exec Nat := do
  let status ← c.runWith ev mode
  update fun p => { p with status }
  Builtin.notice ev
  if status != 0 && c.isChecked && !mode.isTested && (← process).settings.contains 'e' then throw (.exit status)
  return status

/-- Run a command given by its words as a process of its own. -/
def runWords (ev : Evaluator) (words : List Raw) : Exec Nat := do
  match words with
  | [] => return 0
  | name :: args =>
    match ← lookUpOutside name with
    | .program path => runPath ev false path name args
    | .script path => runFile ev false path args
    | .denied => return 126
    | _ => return 127

/-- What runs commands that are nested up to a depth. Beyond that the process breaks down. -/
def Evaluator.upTo : Nat → Evaluator
  | 0 =>
    let overflow : Exec Nat := do throw (.killed (← process).id 11)
    { command := fun _ _ => overflow, script := fun _ _ => overflow, words := fun _ => overflow
      find := fun _ => return none }
  | depth + 1 =>
    { command := fun mode c => Command.runChecked (upTo depth) mode c
      script := fun mode source => runScript (upTo depth) mode source
      words := fun words => runWords (upTo depth) words
      find := findProgram }

/-! ### Whole command lines -/

/-- What a command line leaves behind. -/
structure Outcome where
  /-- the exit code, or the negative number of the signal that ended the shell -/
  status : Int
  output : List UInt8
  errors : List UInt8
  disk : Disk
  deriving Inhabited

/-- Whether the shell itself is found. -/
def isFound (vars : OrderedMap String) : Bool :=
  match vars.get? "PATH" with
  | none => true
  | some path => (Text.piecesAt ':' path).any Lookup.programDirectories.contains

/-- How deep the commands of a command line may be nested. -/
def maxDepth : Nat := 1000

/-- The search path of a shell that is not told another one. -/
def usualPath : String :=
  "/usr/local/bin:/usr/local/sbin:/usr/local/bin:/usr/sbin:/usr/bin:/sbin:/bin"

/-- The session of a new shell: its input is empty and what it writes is collected. -/
def Session.start (d : Disk) (vars : OrderedMap String) : Session :=
  let given := if vars.contains "PATH" then vars else vars.put "PATH" usualPath
  { machine := {
      files := d.files
      openings := [(0, { channel := .nowhere }), (1, { channel := .collector [] }), (2, { channel := .collector [] })] }
    process := {
      directory := d.current
      vars := given.map fun (name, value) => (name, { value := some (Raw.ofString value), isExported := true })
      streams := [(0, 0), (1, 1), (2, 2)] } }

/-- What a session has collected in an opening. -/
def Session.collected (s : Session) (number : Nat) : List UInt8 :=
  match s.machine.openings.lookup number with
  | some { channel := .collector pieces, .. } => Raw.toBytes pieces.reverse.flatten
  | _ => []

/-- Run a command line. It is a failure if the shell is not found or the command line holds a null
character. -/
def run (d : Disk) (vars : OrderedMap String) (source : String) : Except Foreign Outcome :=
  if source.toList.contains '\x00' then .error .wrongValue
  else if !isFound vars then .error (.file .missing)
  else
    let ev := Evaluator.upTo maxDepth
    let act := newShell ev true "sh".toList (runScript ev { isLast := true } (Raw.ofString source))
    let (result, s) := act.run (Session.start d vars)
    let status : Int := match result with
      | .ok code => code
      | .error (.exit code) => code
      | .error (.killed _ signal) => -signal
      | .error _ => 2
    .ok { status
          output := s.collected 1
          errors := s.collected 2
          disk := { files := s.machine.files, current := d.current } }

end Stencil.Shell
