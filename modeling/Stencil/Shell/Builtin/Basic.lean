import Stencil.Shell.Child

namespace Stencil.Shell

/-!
# Commands of the shell

The commands that a shell runs by itself. Those that are special end the shell when they fail.

* `Builtin` — such a command;
* `Builtin.options` — the options in front of arguments.
-/

/-- A command that a shell runs by itself. -/
structure Builtin where
  name : String
  isSpecial : Bool := false
  /-- whether arguments may be assignments, which are not split -/
  takesAssignments : Bool := false
  run : Evaluator → List Raw → Exec Nat

namespace Builtin

open Exec

/-- The letters of one argument with options. A letter before a colon among the allowed ones takes a value: the
rest of the argument, or the next argument. -/
def optionLetters (allowed : Raw) : Raw → List Raw → Exec (List (Char × Raw) × List Raw)
  | [], args => return ([], args)
  | c :: rest, args => do
    match (allowed.dropWhile (· != c)) with
    | [] => fail ("Illegal option -".toList ++ [c])
    | _ :: ':' :: _ =>
      if !rest.isEmpty then return ([(c, rest)], args)
      match args with
      | a :: args => return ([(c, a)], args)
      | [] => fail ("No arg for -".toList ++ [c] ++ " option".toList)
    | _ =>
      let (more, args) ← optionLetters allowed rest args
      return ((c, []) :: more, args)

/-- The options in front of arguments, and the arguments; `limit` bounds how many there are. -/
def optionsUpTo (allowed : Raw) : Nat → List Raw → Exec (List (Char × Raw) × List Raw)
  | 0, args => return ([], args)
  | limit + 1, args => do
    match args with
    | ['-', '-'] :: rest => return ([], rest)
    | ('-' :: c :: letters) :: rest =>
      if c = ':' then fail ("Illegal option -".toList ++ [c])
      let (found, rest) ← optionLetters allowed (c :: letters) rest
      let (more, rest) ← optionsUpTo allowed limit rest
      return (found ++ more, rest)
    | args => return ([], args)

/-- The options in front of arguments, and the arguments. -/
def options (allowed : String) (args : List Raw) : Exec (List (Char × Raw) × List Raw) :=
  optionsUpTo allowed.toList (args.length + 1) args

/-- Bytes between quotes, so that they can be read again as a word. -/
def quote (r : Raw) : Raw :=
  let pieces := Text.splitAtChar '\x27' r
  "\x27".toList ++ Text.join "\x27\"\x27\"\x27".toList pieces ++ "\x27".toList

end Builtin

end Stencil.Shell
