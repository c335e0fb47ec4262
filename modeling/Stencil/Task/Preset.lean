import Stencil.Fault
import Stencil.OrderedMap
import Stencil.Text.Pieces
import Stencil.Text.Quoted
import Stencil.Value.Basic

namespace Stencil.Preset

/-!
# Preset answers

An answer given in advance is a pair `key=value`. A value with a comma is a list of items.

* `Preset.parse` — the key and the answer of a pair;
* `Preset.parseAll` — the answers of several pairs, later keys winning.
-/

/-- The failure for a text that is no pair. -/
def invalid (pair : String) : Fault :=
  .validation ("Invalid answer override " ++ Text.quoted pair ++ ", expected key=value")

/-- The answer that a value denotes: the trimmed items of a list if it has a comma, else itself. -/
def answer (value : List Char) : Value :=
  match Text.splitAtChar ',' value with
  | [_] => .str (.ofList value)
  | items => .list (items.map fun item => .str (.ofList (Text.trim item)))

/-- The key and the answer of a pair: the key is what stands before the first equals sign, without blanks
around it. -/
def parse (pair : String) : Except Fault (String × Value) :=
  match Text.cut '=' pair.toList with
  | (_, none) => .error (invalid pair)
  | (key, some value) =>
    match Text.trim key with
    | [] => .error (invalid pair)
    | key => .ok (.ofList key, answer value)

/-- The answers of several pairs; the first malformed pair fails all. -/
def parseAll (pairs : List String) : Except Fault (OrderedMap Value) :=
  (pairs.mapM parse).map OrderedMap.ofEntries

end Stencil.Preset
