import Stencil.Naming
import Stencil.Value.Basic
import Stencil.Value.Compare
import Stencil.Value.Json

namespace Stencil.Helper

/-!
# Calling helpers

* `Helper.call` — the result of a helper for positional and named arguments;
* `Helper.defaults` — the helpers that every engine knows, by name;
* `concatenate` — the texts of values, lists flattened.
-/

open Text Arguments

/-- Apply a conversion of texts to the text of the only argument. -/
def onText (f : List Char → List Char) (args : List Value) (named : List (String × Value)) :
    Except Fault Value := do
  let v ← single args named
  return .str (.ofList (f (← v.shown).toList))

/-- The texts that a value contributes to a concatenation: one per item of a list or tuple, none for
an absent value. -/
def parts : Value → List String
  | .list xs => xs.map Value.text
  | .tuple xs => xs.map Value.text
  | .none => []
  | v => [v.text]

/-- The texts of values with a separator between them. A separator that counts as escaped escapes the
texts, and one of bytes joins no texts. -/
def concatenate (separator : Value) (values : List Value) : Except Fault Value :=
  let texts := values.flatMap parts
  match separator with
  | .str s => .ok (.str (joined s texts))
  | .markup s => .ok (.markup (joined s (texts.map Value.escapeMarkup)))
  | .bytes _ => if texts.isEmpty then .ok (.bytes []) else .error (.foreign .wrongType)
  | _ => .error (.foreign .missingAttribute)

/-- The result of a function of a helper script. -/
def callScript (f : ScriptFunction) (args : List Value) (named : List (String × Value)) :
    Except Fault Value :=
  match f with
  | .upper => onText upper args named
  | .backquote => onText (fun s => '\x60' :: s ++ ['\x60']) args named
  | .failing => do
    let _ ← single args named
    .error (.foreign (.other "failing"))
  | .wrap => do
    match ← bind ["value", "left", "right"] args named with
    | [some v, left, right] =>
      match left.getD (.str "<"), right.getD (.str ">") with
      | .str l, .str r => return .str (l ++ (← v.shown) ++ r)
      | _, _ => .error (.foreign .wrongType)
    | _ => .error (.foreign .wrongType)

/-- The result of a helper. -/
def call (h : Helper) (args : List Value) (named : List (String × Value)) : Except Fault Value :=
  match h with
  | .snakeCase => onText Naming.snakeCase args named
  | .kebabCase => onText Naming.kebabCase args named
  | .constantCase => onText Naming.constantCase args named
  | .pascalCase => onText Naming.pascalCase args named
  | .camelCase => onText Naming.camelCase args named
  | .titleCase => onText Naming.titleCase args named
  | .pluralize => onText Naming.pluralize args named
  | .singularize => onText Naming.singularize args named
  | .inflect => do
    let v ← match args, named.lookup "value" with
      | [v], none => .ok v
      | [], some v => .ok v
      | _, _ => .error (.foreign .wrongType)
    let options := (named.filter (·.1 != "value")).map fun (k, v) => (k, v.isTrue)
    let s ← Naming.inflect (← v.shown).toList options
    return .str (.ofList s)
  | .json => do
    match ← bind ["value", "indent"] args named with
    | [some v, indent] => (v.jsonText (indent.getD .none)).map .str
    | _ => .error (.foreign .wrongType)
  | .concat =>
    if named.any (·.1 != "separator") then .error (.foreign .wrongType)
    else if args.any Value.hasLongNumber then .error (.foreign .wrongValue)
    else concatenate ((named.lookup "separator").getD (.str "")) args
  | .script f => callScript f args named

/-- The helpers that every engine knows, by name. -/
def defaults : List (String × Helper) :=
  [("snake_case", .snakeCase), ("kebab_case", .kebabCase), ("constant_case", .constantCase),
   ("pascal_case", .pascalCase), ("camel_case", .camelCase), ("pluralize", .pluralize),
   ("singularize", .singularize), ("inflect", .inflect), ("title_case", .titleCase),
   ("json", .json), ("concat", .concat)]

end Stencil.Helper
