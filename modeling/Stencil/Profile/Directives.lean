import Stencil.Profile.Basic

namespace Stencil

/-!
# Directives

The directives of a profile that a single run may replace.

* `Overrides` — the replacements of a run;
* `Directives.effective` — a replacement wins if it is not empty.
-/

/-- The directives that a run may replace. -/
inductive Directive where
  | envFile
  | envVar
  | dsn
  | targetDir
  deriving Repr, BEq, DecidableEq, Inhabited

/-- Replacements for a single run. -/
structure Overrides where
  envFile : Option String := none
  envVar : Option String := none
  dsn : Option String := none
  targetDir : Option String := none
  deriving Repr, BEq, DecidableEq, Inhabited

/-- The directives in effect for a run. -/
structure Directives where
  envFile : String := ""
  envVar : String := ""
  dsn : String := ""
  targetDir : String := ""
  deriving Repr, BEq, DecidableEq, Inhabited

/-- The replacement of a directive. -/
def Overrides.get? (o : Overrides) : Directive → Option String
  | .envFile => o.envFile
  | .envVar => o.envVar
  | .dsn => o.dsn
  | .targetDir => o.targetDir

/-- A directive as the profile has it. -/
def ProfileConfig.directive (c : ProfileConfig) : Directive → String
  | .envFile => c.envFile
  | .envVar => c.envVar
  | .dsn => c.dsn
  | .targetDir => c.targetDir

/-- A directive in effect: its replacement if there is one with a text, else the one of the profile. -/
def ProfileConfig.effective (c : ProfileConfig) (o : Option Overrides) (d : Directive) : String :=
  match o.bind (·.get? d) with
  | some v => if v = "" then c.directive d else v
  | none => c.directive d

/-- The directives in effect for a run. -/
def Directives.effective (c : ProfileConfig) (o : Option Overrides := none) : Directives where
  envFile := c.effective o .envFile
  envVar := c.effective o .envVar
  dsn := c.effective o .dsn
  targetDir := c.effective o .targetDir

end Stencil
