import Stencil.Fault
import Stencil.Naming.Rules
import Stencil.Naming.Slug
import Stencil.Text.Case
import Stencil.Text.Quoted

namespace Stencil.Naming

/-!
# Naming conventions

Every convention starts from the snake case of a text: the words of its slug, cut further where the
case of letters changes, in lower case and joined by underscores.

* `snakeCase`, `kebabCase`, `constantCase` — conventions that keep a separator between words;
* `pascalCase`, `camelCase` — conventions that mark words by their first letter;
* `titleCase` — capitalised words;
* `Inflection`, `inflect` — conversions that are asked for by name, one after the other.
-/

open Text

/-- Put an underscore before the last of several capitals when a small letter follows them. -/
def splitCapitals : List Char → List Char
  | a :: b :: c :: rest =>
    if a.isUpper && b.isUpper && c.isLower then a :: '_' :: splitCapitals (b :: c :: rest)
    else a :: splitCapitals (b :: c :: rest)
  | s => s

/-- Put an underscore between a small letter or digit and a capital after it. -/
def splitHumps : List Char → List Char
  | a :: b :: rest =>
    if (a.isLower || a.isDigit) && b.isUpper then a :: '_' :: splitHumps (b :: rest)
    else a :: splitHumps (b :: rest)
  | s => s

/-- Words in lower case with underscores between them, also where the case changes. -/
def underscore (s : List Char) : List Char :=
  (splitHumps (splitCapitals s)).map fun c => if c = '-' then '_' else c.toLower

/-- Capitals in place of the characters after underscores. -/
def raiseWords : List Char → List Char
  | '_' :: c :: rest => c.toUpper :: raiseWords rest
  | c :: rest => c :: raiseWords rest
  | [] => []

/-- Words run together, each with a capital first. -/
def camelize : List Char → List Char
  | [] => []
  | c :: rest => c.toUpper :: raiseWords rest

/-- Words in lower case, joined by underscores. -/
def snakeCase (s : List Char) : List Char :=
  underscore (slug s)

/-- Words in lower case, joined by hyphens. -/
def kebabCase (s : List Char) : List Char :=
  (snakeCase s).map fun c => if c = '_' then '-' else c

/-- Words in upper case, joined by underscores. -/
def constantCase (s : List Char) : List Char :=
  (snakeCase s).map Char.toUpper

/-- Words run together, each with a capital first. -/
def pascalCase (s : List Char) : List Char :=
  camelize (snakeCase s)

/-- Words run together, each but the first with a capital first. -/
def camelCase (s : List Char) : List Char :=
  match snakeCase s with
  | [] => []
  | c :: rest => c.toLower :: (camelize (c :: rest)).drop 1

/-- Words with a capital first, joined by spaces. -/
def titleCase (s : List Char) : List Char :=
  let capital : List Char → List Char
    | [] => []
    | c :: rest => c.toUpper :: rest.map Char.toLower
  join [' '] (((splitAtChar '_' (snakeCase s)).filter (!·.isEmpty)).map capital)

/-! ### Conversions by name -/

/-- A conversion of a name. -/
inductive Inflection where
  | singular
  | plural
  | snake
  | kebab
  | constant
  | pascal
  | camel
  | title
  /-- the name of a class: singular and in Pascal case -/
  | classCase
  /-- the name of a table: plural and in snake case -/
  | tableCase
  deriving Repr, BEq, DecidableEq, Inhabited

namespace Inflection

/-- All inflections with the names under which they are asked for. -/
def named : List (String × Inflection) :=
  [("to_singular", .singular), ("to_plural", .plural), ("to_snake_case", .snake),
   ("to_kebab_case", .kebab), ("to_screaming_snake_case", .constant), ("to_pascal_case", .pascal),
   ("to_camel_case", .camel), ("to_title_case", .title), ("to_class_case", .classCase),
   ("to_table_case", .tableCase)]

/-- The conversion of a text. -/
def apply : Inflection → List Char → List Char
  | .singular => singularize
  | .plural => pluralize
  | .snake => snakeCase
  | .kebab => kebabCase
  | .constant => constantCase
  | .pascal => pascalCase
  | .camel => camelCase
  | .title => titleCase
  | .classCase => fun s => pascalCase (singularize (snakeCase s))
  | .tableCase => fun s => pluralize (snakeCase s)

end Inflection

/-- The failure for a name that no inflection has. -/
def unknownInflection (name : String) : Fault :=
  .runtime ("Unknown inflection " ++ Text.quoted name ++ ", expected one of " ++
    Text.joined ", " (Inflection.named.map (·.1)))

/-- Apply the inflections that are switched on, in the order given. -/
def inflect (s : List Char) : List (String × Bool) → Except Fault (List Char)
  | [] => .ok s
  | (name, enabled) :: rest =>
    match Inflection.named.lookup name with
    | none => .error (unknownInflection name)
    | some i => inflect (if enabled then i.apply s else s) rest

end Stencil.Naming
