import Stencil.Shell.Raw

namespace Stencil.Shell

/-!
# Scripts

* `Part`, `Word` — words with what is replaced in them;
* `Use` — what is made of the value of a parameter;
* `Redirect` — where output goes and input comes from;
* `Command` — commands.
-/

/-- Which end of a value a pattern is cut from. -/
inductive Trim where
  | shortestStart
  | longestStart
  | shortestEnd
  | longestEnd
  deriving Repr, BEq, DecidableEq, Inhabited

/-- What a redirection does with the word after it. -/
inductive RedirectKind where
  | read
  | write
  | append
  /-- write even where files are kept from being overwritten -/
  | overwrite
  | readWrite
  /-- use what another stream uses -/
  | duplicate
  deriving Repr, BEq, DecidableEq, Inhabited

mutual

/-- A part of a word. -/
inductive Part where
  | char (c : Char)
  /-- characters without any meaning of their own -/
  | literal (s : Raw)
  /-- what stands between double quotes -/
  | quoted (parts : List Part)
  | parameter (name : Raw) (use : Use)
  /-- what commands write -/
  | output (body : Option Command)
  | arithmetic (expression : List Part)

/-- What is made of the value of a parameter. `orEmpty` says that an empty value counts as none. -/
inductive Use where
  | value
  | length
  | default (orEmpty : Bool) (w : List Part)
  | assign (orEmpty : Bool) (w : List Part)
  | demand (orEmpty : Bool) (w : List Part)
  | alternative (orEmpty : Bool) (w : List Part)
  | trim (t : Trim) (w : List Part)
  /-- a use that has no meaning -/
  | malformed

/-- A redirection of a numbered stream. -/
inductive Redirect where
  | to (stream : Nat) (kind : RedirectKind) (target : List Part)
  /-- a text that follows in the script; `document` is its number -/
  | here (stream : Nat) (document : Nat)

/-- Commands. A number tells the line that a command stands on. -/
inductive Command where
  | simple (line : Nat) (assignments words : List (List Part)) (redirects : List Redirect)
  | redirected (line : Nat) (body : Command) (redirects : List Redirect)
  /-- commands in a process of their own -/
  | subshell (line : Nat) (body : Command) (redirects : List Redirect)
  /-- a command that is not waited for -/
  | background (line : Nat) (body : Command)
  | pipeline (commands : List Command)
  | negated (c : Command)
  | sequence (commands : List Command)
  | both (a b : Command)
  | either (a b : Command)
  | choice (condition yes : Command) (no : Option Command)
  /-- a loop that goes on while its condition has the wanted success -/
  | loop (wanted : Bool) (condition body : Command)
  | forEach (line : Nat) (name : Raw) (words : List (List Part)) (body : Command)
  | select (line : Nat) (subject : List Part) (branches : List (List (List Part) × Option Command))
  | define (name : Raw) (line : Nat) (body : Command)

end

/-- A word: its parts, written without blanks between them. -/
abbrev Word := List Part

instance : Inhabited Command := ⟨.sequence []⟩

instance : Inhabited Part := ⟨.literal []⟩

/-- The text of a word in which nothing is quoted or replaced. -/
def Word.plain? (w : Word) : Option Raw :=
  w.mapM fun
    | .char c => some c
    | _ => none

/-- The characters at the start of a word that are neither quoted nor replaced. -/
def Word.start : Word → Raw
  | .char c :: rest => c :: start rest
  | _ => []

/-- The name that a word assigns to, if it is an assignment. -/
def Word.assigned? (w : Word) : Option Raw :=
  match Text.cut '=' (start w) with
  | (name, some _) => if Raw.isName name then some name else none
  | _ => none

end Stencil.Shell
