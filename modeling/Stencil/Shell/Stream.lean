import Stencil.Shell.Session

namespace Stencil.Shell

/-!
# Streams

The streams of a process lead to open channels. Streams 0, 1 and 2 are the input, the output and the complaints. A
complaint of the shell tells the line of the script and, inside a command of the shell, the name of that command.

* `Exec.write`, `Exec.put`, `Exec.complain` — writing;
* `Exec.readAll`, `Exec.readByte` — reading;
* `Exec.openFile` — a new channel to a file;
* `Exec.warn` — a complaint after which the shell goes on;
* `Exec.fail` — a complaint that ends the command, and the shell unless the command contains it;
* `Exec.setVariable` — the checked assignment.
-/

namespace Exec

/-! ### Openings -/

/-- The opening with a number. -/
def openingAt? (number : Nat) : Exec (Option Opening) := do
  return (← get).machine.openings.lookup number

/-- Change the opening with a number. -/
def setOpening (number : Nat) (o : Opening) : Exec Unit :=
  updateMachine fun m => { m with
    openings := (number, o) :: m.openings.filter fun (n, _) => n != number }

/-- Forget the opening with a number. -/
def dropOpening (number : Nat) : Exec Unit :=
  updateMachine fun m => { m with openings := m.openings.filter fun (n, _) => n != number }

/-- Add an opening. -/
def addOpening (o : Opening) : Exec Nat := do
  let n ← fresh
  setOpening n o
  return n

/-- The number of the opening that a stream leads to. -/
def openingOf? (stream : Nat) : Exec (Option Nat) := do
  return (← process).streams.lookup stream

/-- The opening that a stream leads to. -/
def opening? (stream : Nat) : Exec (Option (Nat × Opening)) := do
  match ← openingOf? stream with
  | none => return none
  | some number => return (← openingAt? number).map fun o => (number, o)

/-- Let a stream lead to an opening, or to none. -/
def setStream (stream : Nat) (number : Option Nat) : Exec Unit :=
  update fun p =>
    let others := p.streams.filter fun (n, _) => n != stream
    { p with streams := match number with
        | some number => (stream, number) :: others
        | none => others }

/-! ### Writing -/

/-- How much a process writes before another one has read it. -/
def pipeLimit : Nat := 262144

/-- Bytes with other bytes put at a position; zeros fill a gap. -/
def putAtPosition (content : Raw) (position : Nat) (r : Raw) : Raw :=
  let before := content.take position
  before ++ List.replicate (position - before.length) '\x00' ++ r ++ content.drop (position + r.length)

/-- Write bytes to an opening, if it can be written to. -/
def writeTo (number : Nat) (r : Raw) : Exec Bool := do
  match ← openingAt? number with
  | none => return false
  | some o =>
    if !o.canWrite then return false
    match o.channel with
    | .collector pieces => setOpening number { o with channel := .collector (r :: pieces) }
    | .pipe pieces size =>
      if pipeLimit < size then throw .brokenPipe
      setOpening number { o with channel := .pipe (r :: pieces) (size + r.length) }
    | .source _ => pure ()
    | .nowhere => pure ()
    | .file l =>
      match ← entryAt l with
      | some (.file _) =>
        let content ← bytesAt l
        let position := if o.appends then content.length else o.position
        writeAt l (putAtPosition content position r)
        setOpening number { o with position := position + r.length }
      | _ => pure ()
    return true

/-- Write bytes to a stream, if it can be written to. -/
def write (stream : Nat) (r : Raw) : Exec Bool := do
  match ← openingOf? stream with
  | none => return false
  | some number => writeTo number r

/-- Write bytes to the output. -/
def put (r : Raw) : Exec Unit := do
  if !r.isEmpty then
    let _ ← write 1 r

/-- Write a text to the output. -/
def say (s : String) : Exec Unit :=
  put s.toList

/-- Write bytes and a line end to the output. -/
def putLine (r : Raw) : Exec Unit :=
  put (r ++ ['\n'])

/-- Write a line of complaint. -/
def complain (r : Raw) : Exec Unit := do
  let _ ← write 2 (r ++ ['\n'])

/-- Write a line of complaint and give an exit code. -/
def failWith (code : Nat) (r : Raw) : Exec Nat := do
  complain r
  return code

/-- What a collecting channel has kept. -/
def collected (number : Nat) : Exec Raw := do
  match ← openingAt? number with
  | some { channel := .collector pieces, .. } => return pieces.reverse.flatten
  | some { channel := .pipe pieces _, .. } => return pieces.reverse.flatten
  | _ => return []

/-! ### Reading -/

/-- What a complaint says about a stream that leads nowhere. -/
def badStream : String := "Bad file descriptor"

/-- What is still to be read of a stream; it has been read then. -/
def readAll (stream : Nat) : Exec (Except String Raw) := do
  match ← opening? stream with
  | none => return .error badStream
  | some (number, o) =>
    if !o.canRead then return .error badStream
    match o.channel with
    | .source rest =>
      setOpening number { o with channel := .source [] }
      return .ok rest
    | .file l =>
      match ← entryAt l with
      | some .directory => return .error (problem .isDirectory)
      | _ =>
        let content ← bytesAt l
        setOpening number { o with position := max o.position content.length }
        return .ok (content.drop o.position)
    | _ => return .ok []

/-- Put bytes back that were read from a stream but not used. A channel between processes keeps no position and
takes nothing back. -/
def giveBack (stream : Nat) (count : Nat) : Exec Unit := do
  match ← opening? stream with
  | some (number, o) =>
    match o.channel with
    | .file _ => setOpening number { o with position := o.position - count }
    | _ => return
  | none => return

/-- The next byte of a stream, if there is one. -/
def readByte (stream : Nat) : Exec (Option Char) := do
  match ← opening? stream with
  | none => return none
  | some (number, o) =>
    match o.channel with
    | .source (c :: rest) =>
      setOpening number { o with channel := .source rest }
      return some c
    | .file l =>
      match ((← get).machine.files.bytes? l).bind fun b => b.data[o.position]? with
      | some b =>
        setOpening number { o with position := o.position + 1 }
        return some (Char.ofNat b.toNat)
      | none => return none
    | _ => return none

/-! ### Files by name -/

/-- The stream that the name of a device stands for. -/
def deviceStream? (name : Raw) : Option Nat :=
  match String.ofList name with
  | "/dev/stdin" => some 0
  | "/dev/stdout" => some 1
  | "/dev/stderr" => some 2
  | s =>
    if s.startsWith "/dev/fd/" then Raw.nat? (name.drop 8)
    else if s.startsWith "/proc/self/fd/" then Raw.nat? (name.drop 14)
    else none

/-- Whether a name is that of the device that holds nothing. -/
def isNowhere (name : Raw) : Bool :=
  name = "/dev/null".toList

/-- A new channel to a file; with `creates` the file is created if it is missing. -/
def openFile (name : Raw) (creates truncates : Bool) (o : Opening) : Exec (Except FileFault Nat) := do
  if isNowhere name then return .ok (← addOpening { o with channel := .nowhere })
  if let some stream := deviceStream? name then
    match ← openingOf? stream with
    | some number => return .ok number
    | none => return .error .missing
  match ← locate name with
  | .error f => return .error f
  | .ok l =>
    match ← entryAt l with
    | some .directory =>
      if o.canWrite then return .error .isDirectory
    | some (.file _) => if truncates then writeAt l []
    | none =>
      if !creates then return .error .missing
      if name.getLast? = some '/' then return .error .isDirectory
      match ← entryAt l.dropLast with
      | some .directory => writeAt l []
      | some (.file _) => return .error .notDirectory
      | none => return .error .missing
    return .ok (← addOpening { o with channel := .file l })

/-- The content of a file that is asked for by its name. -/
def readFile (name : Raw) : Exec (Except String Raw) := do
  if isNowhere name then return .ok []
  match deviceStream? name with
  | some stream => readAll stream
  | none =>
    match ← locate name with
    | .error f => return .error (problem f)
    | .ok l =>
      match ← entryAt l with
      | none => return .error (problem .missing)
      | some .directory => return .error (problem .isDirectory)
      | some (.file _) => return .ok (← bytesAt l)

/-- Replace the content of a file, or create it. -/
def writeFile (name : Raw) (content : Raw) : Exec (Except String Unit) := do
  match ← openFile name true true { channel := .nowhere } with
  | .error f => return .error (problem f)
  | .ok number =>
    let _ ← writeTo number content
    return .ok ()

/-! ### Complaints of the shell -/

/-- Complain. -/
def warn (r : Raw) : Exec Unit := do
  let p ← process
  let caller := (p.caller.map (· ++ ": ".toList)).getD []
  complain (p.name ++ ": ".toList ++ Raw.ofNat p.line ++ ": ".toList ++ caller ++ r)

/-- Complain and end the command. -/
def fail {α : Type} (r : Raw) (code : Nat := 2) : Exec α := do
  warn r
  throw (.failure code)

/-- Complain about a text that should be a number. -/
def illegalNumber {α : Type} (r : Raw) : Exec α :=
  fail ("Illegal number: ".toList ++ r)

/-- The number that an argument stands for. -/
def number (r : Raw) : Exec Nat := do
  match Raw.nat? r with
  | some n => if n < Nat.pow 2 31 then return n else illegalNumber r
  | none => illegalNumber r

/-- Set a variable that may be changed. -/
def setVariable (name value : Raw) : Exec Unit := do
  match (← process).vars.get? (.ofList name) with
  | some { isReadOnly := true, .. } => fail (name ++ ": is read only".toList)
  | _ => setRaw name value

/-- Set a variable with a name that has still to be checked. -/
def setNamed (name value : Raw) : Exec Unit := do
  if Raw.isName name then setVariable name value else fail (name ++ ": bad variable name".toList)

/-- Run a computation as a command of the shell. -/
def asCommand {α : Type} (name : Raw) (act : Exec α) : Exec α := do
  let before := (← process).caller
  update fun p => { p with caller := some name }
  andAlways act (update fun p => { p with caller := before })

end Exec

end Stencil.Shell
