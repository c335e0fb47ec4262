import Stencil.Shell.Stream

namespace Stencil.Shell

/-!
# Signals and child processes

A child starts as its parent is and changes nothing of it. What it does to files and channels stays done. It may be ended
by a signal.

* `Signal.names`, `Signal.number?` — the signals by their numbers, and the number that a name stands for;
* `Signal.effect` — what is said of a process that a signal has ended;
* `Evaluator` — what runs commands;
* `Exec.inChild` — run a computation in a child;
* `Exec.outputOf` — what a computation in a child writes.
-/

/-! ### Signals -/

namespace Signal

/-- The names of the signals, number zero first: that is the end of the shell. -/
def names : List String :=
  ["EXIT", "HUP", "INT", "QUIT", "ILL", "TRAP", "ABRT", "BUS", "FPE", "KILL", "USR1", "SEGV", "USR2", "PIPE",
   "ALRM", "TERM", "16", "CHLD", "CONT", "STOP", "TSTP", "TTIN", "TTOU", "URG", "XCPU", "XFSZ", "VTALRM",
   "PROF", "WINCH", "IO", "PWR", "SYS", "32", "33", "RTMIN", "RTMIN+1", "RTMIN+2", "RTMIN+3", "RTMIN+4",
   "RTMIN+5", "RTMIN+6", "RTMIN+7", "RTMIN+8", "RTMIN+9", "RTMIN+10", "RTMIN+11", "RTMIN+12", "RTMIN+13",
   "RTMIN+14", "RTMIN+15", "RTMAX-14", "RTMAX-13", "RTMAX-12", "RTMAX-11", "RTMAX-10", "RTMAX-9", "RTMAX-8",
   "RTMAX-7", "RTMAX-6", "RTMAX-5", "RTMAX-4", "RTMAX-3", "RTMAX-2", "RTMAX-1", "RTMAX"]

/-- The number that a name or a number stands for. -/
def number? (r : Raw) : Option Nat :=
  match Raw.nat? r with
  | some n => if n < names.length then some n else none
  | none => names.idxOf? (.ofList (r.map Char.toUpper))

/-- The name of a signal. -/
def name (n : Nat) : String :=
  names.getD n ""

/-- The signals that a process does not notice unless it asks for them. -/
def isHarmless (n : Nat) : Bool :=
  [0, 17, 18, 23, 28].contains n

/-- What is said of a process that a signal has ended. -/
def effect (n : Nat) : String :=
  match n with
  | 1 => "Hangup"
  | 2 => "Interrupt"
  | 3 => "Quit"
  | 4 => "Illegal instruction"
  | 5 => "Trace/breakpoint trap"
  | 6 => "Aborted"
  | 7 => "Bus error"
  | 8 => "Floating point exception"
  | 9 => "Killed"
  | 10 => "User defined signal 1"
  | 11 => "Segmentation fault"
  | 12 => "User defined signal 2"
  | 13 => "Broken pipe"
  | 14 => "Alarm clock"
  | 15 => "Terminated"
  | 16 => "Stack fault"
  | 24 => "CPU time limit exceeded"
  | 25 => "File size limit exceeded"
  | 26 => "Virtual timer expired"
  | 27 => "Profiling timer expired"
  | 29 => "I/O possible"
  | 30 => "Power failure"
  | 31 => "Bad system call"
  | n => "Real-time signal " ++ toString (n - 34)

end Signal

/-! ### Children -/

/-- How a command is run: whether somebody looks at its success, and whether nothing follows it. -/
structure Mode where
  isTested : Bool := false
  isLast : Bool := false
  deriving Repr, BEq, DecidableEq, Inhabited

/-- What runs commands and scripts. -/
structure Evaluator where
  command : Mode → Command → Exec Nat
  script : Mode → Raw → Exec Nat
  /-- a command given by its words, which are not replaced any more -/
  words : List Raw → Exec Nat
  /-- the path of the program with a name -/
  find : Raw → Exec (Option Raw)

namespace Exec

/-- The exit code of a process that a signal has ended. -/
def codeOfSignal (signal : Nat) : Nat :=
  128 + signal

/-- Run what is to be done at the end of a shell; it may change the exit code. -/
def atEnd (ev : Evaluator) (code : Nat) : Exec Nat := do
  match (← process).traps.lookup 0 with
  | none => return code
  | some action =>
    update fun p => { p with
      traps := p.traps.filter fun (n, _) => n != 0
      status := code, loops := 0 }
    match ← attempt (ev.script {} action) with
    | .error (.exit code) => return code
    | .error (.killed id signal) => throw (.killed id signal)
    | _ => return code

/-- Run a computation to the end of its process. -/
def toEnd (ev : Evaluator) (act : Exec Nat) : Exec Nat := do
  let code ← match ← attempt act with
    | .ok code => pure code
    | .error (.exit code) => pure code
    | .error (.failure code) => pure code
    | .error (.leaveFunction code) => pure code
    | .error (.leaveLoops _) => pure 0
    | .error (.nextTurn _) => pure 0
    | .error stop => throw stop
  atEnd ev code

/-- Run a computation; what the process has for itself is not changed by it. -/
def aside {α : Type} (act : Exec α) : Exec α := do
  let before ← process
  andAlways act (update fun _ => before)

/-- Run a computation in a child. Actions on signals are not passed on, but signals that are ignored stay so. -/
def inChild (ev : Evaluator) (act : Exec Nat) : Exec Nat := do
  let parent ← process
  let id ← fresh
  update fun p => { p with id, traps := p.traps.filter fun (_, action) => action.isEmpty, jobs := [] }
  let result ← attempt (toEnd ev act)
  update fun _ => parent
  match result with
  | .ok code => return code
  | .error .brokenPipe => return codeOfSignal 13
  | .error (.killed victim signal) =>
    if victim != id then throw (.killed victim signal)
    if signal != 2 && signal != 13 then complain (Signal.effect signal).toList
    return codeOfSignal signal
  | .error stop => throw stop

/-- What a computation in a child writes to its output; its exit code is kept. -/
def outputOf (ev : Evaluator) (act : Exec Nat) : Exec Raw := do
  let number ← addOpening { channel := .collector [] }
  let code ← inChild ev do
    setStream 1 (some number)
    act
  let r ← collected number
  dropOpening number
  update fun p => { p with outputStatus := code }
  return r

end Exec

end Stencil.Shell
