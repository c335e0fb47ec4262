import Stencil.Shell.Expansion

namespace Stencil.Shell

/-!
# Redirections

Redirections let streams lead to other channels while a command is run.

* `Redirect.open_` — the channel that a redirection leads to;
* `Exec.withRedirects` — run a computation with redirections.
-/

open Exec

/-- The words for a file that cannot be opened. -/
def openProblem (otherwise : String) : FileFault → String
  | .missing => otherwise
  | .notDirectory => otherwise
  | f => problem f

/-- What a redirection is about, its word replaced. -/
structure OpenRequest where
  stream : Nat
  kind : RedirectKind := .read
  target : Raw := []
  /-- a text that is read instead of a file -/
  document : Option Raw := none

/-- A redirection with its word replaced. -/
def Redirect.request (ev : Evaluator) : Redirect → Exec OpenRequest
  | .here stream number => do
    let w := ((← get).machine.documents[number]?).getD []
    return { stream, document := some (← Word.text ev w) }
  | .to stream kind target => do
    let target ← Word.text ev target
    if kind = .duplicate && target != ['-'] then
      match target with
      | [c] => if !c.isDigit then fail "Syntax error: Bad fd number".toList
      | _ => fail "Syntax error: Bad fd number".toList
    return { stream, kind, target }

/-- Open the channel of a file, or complain. -/
def openOrFail (name : Raw) (creates truncates : Bool) (o : Opening) : Exec (Option Nat) := do
  match ← openFile name creates truncates o with
  | .ok number => return some number
  | .error f =>
    let (verb, otherwise) := if creates then ("create", "Directory nonexistent") else ("open", "No such file")
    fail ("cannot ".toList ++ verb.toList ++ ' ' :: name ++ ": ".toList ++ (openProblem otherwise f).toList)

/-- The channel that a redirection leads to, if it is not to close the stream. -/
def OpenRequest.opening (r : OpenRequest) : Exec (Option Nat) := do
  match r.document with
  | some text => return some (← addOpening { channel := .source text, canWrite := false })
  | none =>
    let o : Opening := { channel := .nowhere }
    match r.kind with
    | .read => openOrFail r.target false false { o with canWrite := false }
    | .append => openOrFail r.target true false { o with canRead := false, appends := true }
    | .overwrite => openOrFail r.target true true { o with canRead := false }
    | .readWrite => openOrFail r.target true false o
    | .write =>
      if (← process).settings.contains 'C' && !isNowhere r.target then
        if (← entry r.target) matches .ok (.file _) then
          fail ("cannot create ".toList ++ r.target ++ ": File exists".toList)
      openOrFail r.target true true { o with canRead := false }
    | .duplicate =>
      if r.target = ['-'] then return none
      match ← openingOf? ((Raw.nat? r.target).getD 0) with
      | some number => return some number
      | none => fail (r.target ++ ": Bad file descriptor".toList)

namespace Exec

/-- Let streams lead to the channels of redirections; what they led to before, the last one first. -/
def redirect : List OpenRequest → List (Nat × Option Nat) → Exec (Option Stop × List (Nat × Option Nat))
  | [], before => return (none, before)
  | r :: rest, before => do
    match ← attempt r.opening with
    | .error stop => return (some stop, before)
    | .ok number =>
      let old ← openingOf? r.stream
      setStream r.stream number
      redirect rest ((r.stream, old) :: before)

/-- Let streams lead to what they led to before. -/
def restoreStreams (before : List (Nat × Option Nat)) : Exec Unit := do
  for (stream, number) in before do setStream stream number

/-- Run a computation with redirections. If one of them fails, only `failed` is run. With `stays` they stay in
place. -/
def withRedirects (ev : Evaluator) (rs : List Redirect) (stays : Exec Bool) (failed : Exec Nat) (act : Exec Nat) :
    Exec Nat := do
  if rs.isEmpty then act
  else
    let requests ← rs.mapM (Redirect.request ev)
    match ← redirect requests [] with
    | (some (.failure _), before) =>
      restoreStreams before
      failed
    -- What ends the shell leaves its streams as they are by then.
    | (some stop, _) => throw stop
    | (none, before) =>
      let result ← attempt act
      if !(← stays) then restoreStreams before
      match result with
      | .ok code => return code
      | .error stop => throw stop

end Exec

end Stencil.Shell
