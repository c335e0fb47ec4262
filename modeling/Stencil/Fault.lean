namespace Stencil

/-!
# Failures

A failure of the program itself carries a message. A failure of something it relies on (a text that
is no number, a missing file, the end of the input) is known by its kind alone; where a message quotes
such a failure, the quotation is written `<detail>`.

* `FileFault` — why a file operation failed;
* `Foreign` — the kinds of failures that come from outside;
* `Fault` — all failures.
-/

/-- Why a file operation failed. -/
inductive FileFault where
  | missing
  | isDirectory
  | notDirectory
  | alreadyExists
  | nameTooLong
  | notEmpty
  deriving Repr, BEq, DecidableEq, Inhabited

/-- The kinds of failures that do not come from the program itself. -/
inductive Foreign where
  /-- an operation on a value of another kind than it takes -/
  | wrongType
  /-- a value outside the range of an operation -/
  | wrongValue
  /-- a missing key of a mapping -/
  | missingKey
  /-- a position outside a sequence -/
  | outOfRange
  /-- a missing attribute -/
  | missingAttribute
  /-- a division by zero -/
  | zeroDivision
  /-- a number too large for its form -/
  | overflow
  /-- an operation that was not expected at this point -/
  | unexpected
  /-- a read after the last line of input -/
  | endOfInput
  /-- bytes that are no UTF-8 text -/
  | notUnicode
  /-- a malformed console text -/
  | badMarkup
  /-- a nesting deeper than the program follows -/
  | tooDeep
  /-- a template that reads as no valid program -/
  | badProgram
  /-- the home directory of an unknown user -/
  | unknownHome
  /-- a file operation -/
  | file (fault : FileFault)
  /-- a failure with a text of its own -/
  | other (text : String)
  deriving Repr, BEq, DecidableEq, Inhabited

/-- A failure. -/
inductive Fault where
  /-- persistent state that cannot be created or read -/
  | init (message : String)
  /-- bad input; a document that does not fit its schema lists the places and kinds of all misfits -/
  | validation (message : String) (invalid : Option (List (String × String)) := none)
  /-- a database that cannot be connected, queried or reflected -/
  | database (message : String)
  /-- a template that does not render, an output that cannot be written, a task in the wrong state -/
  | runtime (message : String)
  | foreign (kind : Foreign)
  deriving Repr, BEq, DecidableEq, Inhabited

/-- What stands for the words of a failure that comes from outside. -/
def detail : String := "<detail>"

/-- A failure of the program itself, as opposed to one that comes from outside. -/
def Fault.isOwn : Fault → Bool
  | .foreign _ => false
  | _ => true

/-- The words of a failure inside a message about it. -/
def Fault.words : Fault → String
  | .init m => m
  | .validation m _ => m
  | .database m => m
  | .runtime m => m
  | .foreign _ => detail

/-- Computations that may fail and keep the state they reached. -/
abbrev Action (σ α : Type) : Type := ExceptT Fault (StateM σ) α

/-- A result that leaves the state as it is. -/
def Action.ofExcept {σ α : Type} (x : Except Fault α) : Action σ α :=
  fun s => (x, s)

end Stencil
