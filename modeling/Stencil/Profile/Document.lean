import Stencil.Profile.Basic
import Stencil.Profile.Checked
import Stencil.Yaml.Writer

namespace Stencil

/-!
# Profiles as documents

* `Profile.ofDocument` — the profile that a document describes;
* `Profile.toDocument` — the document of a profile; fields that are absent are left out.

Static options become texts before anything else is checked, and a label stands for one option only.
-/

open Document

/-! ### Reading -/

/-- Texts that occur more than once. -/
def repeated (xs : List String) : List String :=
  xs.filter fun x => xs.count x > 1

/-- The options of a prompt, the labels not checked. Keys and labels of a mapping and the items of a
list become texts, entries with the same key text being merged. -/
def Options.read (v : Value) : Checked Options :=
  let unionFault (bool text list : Checked Options) : Checked Options :=
    let at_ (name : String) (x : Checked Options) := (x.under name).map fun _ => ()
    (fun _ _ _ _ => Options.flag false) <$> at_ "bool" bool <*> at_ "str" text <*>
      at_ "list[str]" list <*> at_ "dict[str,str]" (.misfit "dict_type")
  -- A number that is too long has no text.
  let unlessLong (o : Options) : Checked Options := if v.hasLongNumber then .misfit "value_error" else .ok o
  match v with
  | .dict es => unlessLong (.mapping (OrderedMap.ofEntries (es.map fun (k, v) => (k.text, v.text))))
  | .list xs => unlessLong (.labels (xs.map Value.text))
  | .tuple xs => unlessLong (.labels (xs.map Value.text))
  | .bool b => .ok (.flag b)
  | .str s => .ok (.template s)
  | .markup s => .ok (.template s)
  | v =>
    match truth v, Document.text v, texts v with
    | .ok b, _, _ => .ok (.flag b)
    | _, .ok s, _ => .ok (.template s)
    | _, _, .ok xs => .ok (.labels xs)
    | b, s, xs => unionFault (b.map .flag) (s.map .template) (xs.map .labels)

/-- The labels that options offer statically. -/
def Options.staticLabels : Options → List String
  | .labels xs => xs
  | .mapping es => es.map (·.2)
  | _ => []

/-- Options of which every label stands for one option. -/
def Options.readUnique (v : Value) : Checked Options :=
  match Options.read v with
  | .ok o => if (repeated o.staticLabels).isEmpty then .ok o else .misfit "value_error"
  | bad => bad

/-- The definition of a prompt. -/
def PromptDefinition.ofDocument (v : Value) : Checked PromptDefinition :=
  record v fun es =>
    PromptDefinition.mk
      <$> optional es ["condition"] none text?
      <*> optional es ["enumerate"] none text?
      <*> Document.required es "prompt" text
      <*> optional es ["options"] (.flag false) Options.readUnique
      <*> optional es ["multiple"] false truth
      <*> optional es ["ordered"] false truth
      <*> optional es ["required"] false truth
      <*> optional es ["default"] none text?

/-- The definition of a target. -/
def TargetDefinition.ofDocument (v : Value) : Checked TargetDefinition :=
  record v fun es =>
    TargetDefinition.mk
      <$> optional es ["condition"] none text?
      <*> Document.required es "template" text
      <*> Document.required es "target" text
      <*> optional es ["formatter"] none text?

/-- The directives and id lists of a profile. -/
def ProfileConfig.ofDocument (v : Value) : Checked ProfileConfig :=
  record v fun es =>
    ProfileConfig.mk
      <$> optional es ["name"] "" text
      <*> optional es ["env-file", "env_file"] "" text
      <*> optional es ["env-var", "env_var"] "" text
      <*> optional es ["dsn"] "" text
      <*> optional es ["target-dir", "target_dir"] "" text
      <*> optional es ["templates-dir", "templates_dir"] "" text
      <*> optional es ["scripts-dir", "scripts_dir"] "" text
      <*> optional es ["prompts"] [] texts
      <*> optional es ["targets"] [] texts

/-- The order of places: texts by code points. -/
def placeBefore (a b : String × String) : Bool :=
  if a.1 = b.1 then a.2 ≤ b.2 else a.1 < b.1

/-- All misfits of a document, sorted. -/
def misfitList (ms : List Misfit) : List (String × String) :=
  (ms.map fun m => (Text.joined "." m.place, m.kind)).mergeSort placeBefore

/-- What was read, or the failure that lists the misfits. -/
def Checked.orFault {α : Type} : Checked α → Except Fault α
  | .ok a => .ok a
  | .misfits ms => .error (.validation ("Invalid profile config: " ++ detail) (some (misfitList ms)))

namespace Profile

/-- A profile without a check of its references. -/
def read (v : Value) : Checked Profile :=
  record v fun es =>
    Profile.mk
      <$> optional es ["profile", "config"] {} ProfileConfig.ofDocument
      <*> optional es ["prompt"] [] (mapping PromptDefinition.ofDocument)
      <*> optional es ["target"] [] (mapping TargetDefinition.ofDocument)

/-- Give a profile another name, unless the name is empty. -/
def rename (p : Profile) (name : Option String) : Profile :=
  match name with
  | some n => if n = "" then p else { p with config := { p.config with name := n } }
  | none => p

/-- The profile that a document describes, possibly under another name. -/
def ofDocument (v : Value) (name : Option String := none) : Except Fault Profile := do
  let p ← (read v).orFault
  let p := p.rename name
  p.checkReferences
  return p

end Profile

/-! ### Writing -/

/-- A field with a text, left out if it is absent. -/
def optionalField (key : String) : Option String → List (String × Yaml.Tree)
  | some s => [(key, .text s)]
  | none => []

/-- A list of texts. -/
def textSeq (xs : List String) : Yaml.Tree :=
  .seq (xs.map .text)

/-- Options as a document. -/
def Options.toDocument : Options → Yaml.Tree
  | .flag b => .bool b
  | .template s => .text s
  | .labels xs => textSeq xs
  | .mapping es => .map (es.map fun (k, v) => (k, .text v))

/-- The definition of a prompt as a document. -/
def PromptDefinition.toDocument (p : PromptDefinition) : Yaml.Tree :=
  .map (optionalField "condition" p.condition ++ optionalField "enumerate" p.enumerate ++
    [("prompt", .text p.prompt), ("options", p.options.toDocument), ("multiple", .bool p.multiple),
     ("ordered", .bool p.ordered), ("required", .bool p.required)] ++
    optionalField "default" p.default)

/-- The definition of a target as a document. -/
def TargetDefinition.toDocument (t : TargetDefinition) : Yaml.Tree :=
  .map (optionalField "condition" t.condition ++
    [("template", .text t.template), ("target", .text t.target)] ++
    optionalField "formatter" t.formatter)

/-- Directives and id lists as a document. -/
def ProfileConfig.toDocument (c : ProfileConfig) : Yaml.Tree :=
  .map
    [("name", .text c.name), ("env-file", .text c.envFile), ("env-var", .text c.envVar),
     ("dsn", .text c.dsn), ("target-dir", .text c.targetDir), ("templates-dir", .text c.templatesDir),
     ("scripts-dir", .text c.scriptsDir), ("prompts", textSeq c.prompts),
     ("targets", textSeq c.targets)]

/-- A profile as a document. -/
def Profile.toDocument (p : Profile) : Yaml.Tree :=
  .map
    [("profile", p.config.toDocument),
     ("prompt", .map (p.prompt.map fun (k, v) => (k, v.toDocument))),
     ("target", .map (p.target.map fun (k, v) => (k, v.toDocument)))]

mutual

/-- The value of a document. -/
def Yaml.Tree.toValue : Yaml.Tree → Value
  | .text s => .str s
  | .bool b => .bool b
  | .seq xs => .list (Yaml.Tree.itemValues xs)
  | .map ps => .dict (Yaml.Tree.pairValues ps)

/-- The values of the items of a sequence. -/
def Yaml.Tree.itemValues : List Yaml.Tree → List Value
  | [] => []
  | x :: xs => x.toValue :: Yaml.Tree.itemValues xs

/-- The entries of a mapping. -/
def Yaml.Tree.pairValues : List (String × Yaml.Tree) → List (Value × Value)
  | [] => []
  | (k, v) :: rest => (.str k, v.toValue) :: Yaml.Tree.pairValues rest

end

end Stencil
