import Stencil.Shell.Builtin.Basic
import Stencil.Shell.Lookup

namespace Stencil.Shell.Builtin

/-!
# What names stand for

* `type`, `describeCommand` — what the name of a command stands for;
* `hash` — the programs that have been found before;
* `defineAlias`, `unalias` — words that stand for other words.
-/

open Exec

/-- Say what names stand for. -/
def type (args : List Raw) : Exec Nat := do
  let mut code := 0
  for name in args do
    let found ← describe true name
    if found != 0 then code := found
  return code

/-- Say what a name stands for, in words or in brief. -/
def describeCommand (args : List Raw) : Exec Nat := do
  let (found, args) ← options "pvV" args
  match args, found.filter (·.1 != 'p') with
  | name :: _, (c, _) :: _ => describe (c = 'V') name
  | _, _ => return 0

/-- Show or forget the programs that have been found before, or find some. -/
def hash (args : List Raw) : Exec Nat := do
  let (found, args) ← options "rv" args
  if found.any (·.1 == 'r') then
    update fun p => { p with remembered := [] }
    return 0
  if args.isEmpty then
    for name in (← process).remembered do
      match ← lookUp name with
      | .program path => putLine path
      | .script path => putLine path
      | _ => pure ()
    return 0
  let mut code := 0
  for name in args do
    match ← lookUp name with
    | .missing =>
      warn (name ++ ": not found".toList)
      code := 1
    | .program _ => remember name
    | .script _ => remember name
    | _ => pure ()
  return code

/-- Show or set words that stand for other words. -/
def defineAlias (args : List Raw) : Exec Nat := do
  if args.isEmpty then
    for (name, value) in (← process).aliases do putLine (name.toList ++ '=' :: quote value)
    return 0
  let mut code := 0
  for a in args do
    match Text.cut '=' (a.drop 1) with
    | (name, some value) =>
      update fun p => { p with aliases := p.aliases.put (.ofList (a.take 1 ++ name)) value }
    | (_, none) =>
      match (← process).aliases.get? (.ofList a) with
      | some value => putLine (a ++ '=' :: quote value)
      | none =>
        complain ("alias: ".toList ++ a ++ " not found".toList)
        code := 1
  return code

/-- Forget words that stand for other words. -/
def unalias (args : List Raw) : Exec Nat := do
  let (found, args) ← options "a" args
  if !found.isEmpty then
    update fun p => { p with aliases := [] }
    return 0
  let mut code := 0
  for a in args do
    if (← process).aliases.contains (.ofList a) then
      update fun p => { p with aliases := p.aliases.erase (.ofList a) }
    else
      complain ("unalias: ".toList ++ a ++ " not found".toList)
      code := 1
  return code

end Stencil.Shell.Builtin
