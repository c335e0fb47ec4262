namespace Stencil

/-!
# Log records

What a run reports while it works.
-/

/-- The weight of a record. -/
inductive LogLevel where
  | info
  | warning
  deriving Repr, BEq, DecidableEq, Inhabited

/-- A record of the log. -/
structure LogRecord where
  level : LogLevel
  text : String
  deriving Repr, BEq, DecidableEq, Inhabited

/-- The record of an ordinary event. -/
def LogRecord.info (text : String) : LogRecord :=
  ⟨.info, text⟩

/-- The record of an event that asks for attention. -/
def LogRecord.warning (text : String) : LogRecord :=
  ⟨.warning, text⟩

end Stencil
