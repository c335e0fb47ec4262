import Stencil.Fault
import Stencil.OrderedMap
import Stencil.Text.Pieces
import Stencil.Text.Quoted

namespace Stencil

/-!
# Profiles

A profile says how to generate code: where to connect and to write, which prompts to ask and which
targets to produce.

* `Options`, `PromptDefinition`, `TargetDefinition`, `ProfileConfig`, `Profile` — the parts;
* `Profile.checkReferences` — every listed id has a definition.
-/

/-- The options of a prompt: free text or not, a template that renders to a list, a list of labels, or a
mapping from values to labels. -/
inductive Options where
  | flag (b : Bool)
  | template (source : String)
  | labels (labels : List String)
  | mapping (entries : OrderedMap String)
  deriving Repr, BEq, DecidableEq, Inhabited

/-- The definition of a prompt. -/
structure PromptDefinition where
  condition : Option String := none
  enumerate : Option String := none
  prompt : String
  options : Options := .flag false
  multiple : Bool := false
  ordered : Bool := false
  required : Bool := false
  default : Option String := none
  deriving Repr, BEq, DecidableEq, Inhabited

/-- The definition of a target. -/
structure TargetDefinition where
  condition : Option String := none
  template : String
  target : String
  formatter : Option String := none
  deriving Repr, BEq, DecidableEq, Inhabited

/-- Directives of a profile and the ids of its prompts and targets, in order. -/
structure ProfileConfig where
  name : String := ""
  envFile : String := ""
  envVar : String := ""
  dsn : String := ""
  targetDir : String := ""
  templatesDir : String := ""
  scriptsDir : String := ""
  prompts : List String := []
  targets : List String := []
  deriving Repr, BEq, DecidableEq, Inhabited

/-- A profile. -/
structure Profile where
  config : ProfileConfig := {}
  prompt : OrderedMap PromptDefinition := []
  target : OrderedMap TargetDefinition := []
  deriving Repr, BEq, DecidableEq, Inhabited

namespace Profile

/-- The failure for listed ids without a definition. -/
def undefinedFault (p : Profile) (what : String) (ids : List String) : Fault :=
  .validation ("Profile " ++ Text.quoted p.config.name ++ " lists undefined " ++ what ++ ": " ++
    Text.joined ", " ids)

/-- The listed prompt ids without a definition. -/
def undefinedPrompts (p : Profile) : List String :=
  p.config.prompts.filter fun id => !p.prompt.contains id

/-- The listed target ids without a definition. -/
def undefinedTargets (p : Profile) : List String :=
  p.config.targets.filter fun id => !p.target.contains id

/-- Every listed prompt and target id has a definition. -/
def checkReferences (p : Profile) : Except Fault Unit :=
  if !p.undefinedPrompts.isEmpty then .error (p.undefinedFault "prompts" p.undefinedPrompts)
  else if !p.undefinedTargets.isEmpty then .error (p.undefinedFault "targets" p.undefinedTargets)
  else .ok ()

end Profile

end Stencil
