import Stencil.Value.Compare
import Stencil.Yaml.Node

namespace Stencil.Yaml

/-!
# The value of a document

* `Node.toValue` — the value of a node;
* `load` — the value of the only document of a text, nothing for an empty text.

A mapping takes over the pairs of the mappings that are merged into it, its own pairs coming last.
-/

/-- The nodes with anchors that a node is inside of, by their names. -/
abbrev Anchors := List (String × Node)

/-- A node without its anchor. -/
def Node.bare : Node → Node
  | .anchored _ x => x
  | x => x

/-- The kind of a node. -/
def Node.tag : Node → Tag
  | .scalar t _ => t
  | .seq t _ => t
  | .map t _ => t
  | .anchored _ x => x.tag
  | .again _ => .other

/-- The node that a node or an alias is, by the anchors around it. -/
def Node.found (around : Anchors) (x : Node) : Node :=
  match x with
  | .again name => (around.lookup name).getD x
  | x => x

/-- The pairs of a mapping, merges resolved: what is merged comes first, and an equals sign as a key is a
text. A mapping that is merged into itself adds nothing. `fuel` bounds the nesting of merges. -/
def mergedPairs (around : Anchors) : Nat → List String → List (Node × Node) →
    Except Problem (List (Node × Node))
  | 0, _, _ => .error .malformed
  | fuel + 1, merging, pairs => do
    let pairsOf (v : Node) : Except Problem (List (Node × Node)) :=
      match v with
      | .again name =>
        if merging.contains name then .ok []
        else match (v.found around).bare with
          | .map _ inner => mergedPairs around fuel (name :: merging) inner
          | _ => .error .malformed
      | .anchored name (.map _ inner) => mergedPairs around fuel (name :: merging) inner
      | .map _ inner => mergedPairs around fuel merging inner
      | _ => .error .malformed
    let step : List (Node × Node) × List (Node × Node) → Node × Node →
        Except Problem (List (Node × Node) × List (Node × Node)) := fun (merged, own) (k, v) =>
      match k.tag with
      | .merge =>
        match (v.found around).bare with
        | .seq _ items => do
          let parts ← items.mapM pairsOf
          -- Later pairs replace earlier ones, so the first mapping of the list comes last.
          return (merged ++ parts.reverse.flatten, own)
        | _ => do return (merged ++ (← pairsOf v), own)
      | .value =>
        let k := match k with
          | .scalar _ s => .scalar .str s
          | other => other
        return (merged, own ++ [(k, v)])
      | _ => return (merged, own ++ [(k, v)])
    let (merged, own) ← pairs.foldlM step ([], [])
    return merged ++ own

/-- A mapping of keys and values; the keys must be able to be keys. -/
def mappingOf (entries : List (Value × Value)) : Except Problem (List (Value × Value)) := do
  require (entries.all fun (k, _) => k.isHashable)
  return entries.foldl (fun d (k, v) => Value.insert d k v) []

/-- The text of a scalar; a mapping with an equals sign as a key has the text of its value. `fuel` bounds the
nesting. -/
def Node.text? : Nat → Node → Option String
  | 0, _ => none
  | fuel + 1, x =>
    match x.bare with
    | .scalar _ text => some text
    | .map _ pairs => ((pairs.find? fun (k, _) => k.tag == .value).map (·.2)).bind (text? fuel)
    | _ => none

/-- The mark of a collection inside itself. -/
def Node.mark (x : Node) : Value :=
  match x.bare with
  | .seq _ _ => .ref 0 .list
  | .map .set _ => .ref 0 .set
  | _ => .ref 0 .dict

/-- Where the value of a node is made. -/
structure Around where
  anchors : Anchors := []
  /-- the number of levels of the document that are looked at one by one -/
  levels : Nat
  /-- the anchors of the nodes around this one, up to the level from which on values are taken as a whole -/
  inside : List String := []

/-- The place of the parts of a node. -/
def Around.inner (a : Around) : Around :=
  { a with levels := a.levels - 1 }

/-- The value of a node. A collection that contains itself is followed as far as the levels of the document go;
from there on it shows a mark where it contains itself. `fuel` bounds the nesting. -/
def Node.toValue : Nat → Around → Node → Except Problem Value
  | 0, _, _ => .error (.value .tooDeep)
  | fuel + 1, a, node => do
    let entries (pairs : List (Node × Node)) : Except Problem (List (Value × Value)) := do
      let pairs ← mergedPairs a.anchors (fuel + 1) (a.anchors.head?.toList.map (·.1)) pairs
      let entries ← pairs.mapM fun (k, v) => do
        let k ← toValue fuel a.inner k
        let v ← toValue fuel a.inner v
        return (k, v)
      mappingOf entries
    -- A pair of an ordered list is a mapping with one entry.
    let pair (item : Node) : Except Problem Value :=
      match item.bare with
      | .map _ [(k, v)] => do
        let k ← toValue fuel a.inner k
        let v ← toValue fuel a.inner v
        return .tuple [k, v]
      | _ => .error .malformed
    match node with
    | .anchored name x =>
      let inside := if a.levels = 0 then name :: a.inside else []
      toValue fuel { a with anchors := (name, node) :: a.anchors, inside } x
    | .again name =>
      let x := node.found a.anchors
      if a.inside.contains name then return x.mark
      toValue fuel a x
    | .scalar .str text => return .str text
    | .scalar tag text => scalarValue tag text
    | .seq .seq items => return .list (← items.mapM (toValue fuel a.inner))
    | .seq .omap items => return .list (← items.mapM pair)
    | .seq .pairs items => return .list (← items.mapM pair)
    | .map .map pairs => return .dict (← entries pairs)
    | .map .set pairs => return .set ((← entries pairs).map (·.1))
    | .map tag _ =>
      match node.text? (fuel + 1) with
      | none => .error .malformed
      | some text =>
        match tag with
        | .null | .bool | .int | .float | .binary | .str => scalarValue tag text
        | .timestamp => .error (.value .wrongType)
        | _ => .error .malformed
    | _ => .error .malformed

/-- How deep documents are followed. -/
def maxDepth : Nat := 1000

/-- How many levels of a document are looked at one by one. -/
def documentLevels : Nat := 4

/-- The value of the only document of a text. -/
def load (text : List Char) : Except Problem Value := do
  let tokens ← Token.scan text
  match ← Node.ofTokens tokens with
  | none => return .none
  | some node => node.toValue maxDepth { levels := documentLevels }

end Stencil.Yaml
