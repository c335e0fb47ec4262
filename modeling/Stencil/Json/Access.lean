import Stencil.Json.Basic

namespace Stencil.Json

/-!
# Parts of a document

What is missing or of another kind than asked for reads as nothing: null, no items, an empty text.

* `get?`, `get` — a field of an object; of several fields with one name the last;
* `items`, `nth` — the items of an array;
* `text?`, `text`, `texts`, `isTrue`, `int?` — plain parts.
-/

/-- The fields of an object. -/
def fields : Json → List (String × Json)
  | .obj fs => fs
  | _ => []

/-- The field with a name. -/
def get? (j : Json) (name : String) : Option Json :=
  j.fields.reverse.lookup name

/-- The field with a name, or null. -/
def get (j : Json) (name : String) : Json :=
  (j.get? name).getD .null

/-- The items of an array. -/
def items : Json → List Json
  | .arr xs => xs
  | _ => []

/-- The item at a position, or null. -/
def nth (j : Json) (i : Nat) : Json :=
  j.items[i]?.getD .null

/-- A text. -/
def text? : Json → Option String
  | .str s => some s
  | _ => none

/-- A text, or the empty one. -/
def text (j : Json) : String :=
  j.text?.getD ""

/-- The items of an array as texts. -/
def texts (j : Json) : List String :=
  j.items.map text

/-- Whether a part is true. -/
def isTrue : Json → Bool
  | .bool b => b
  | _ => false

/-- An integer. -/
def int? : Json → Option Int
  | .int n => some n
  | _ => none

end Stencil.Json
