import Stencil.Decimal.Binary
import Stencil.Value.Basic
import Stencil.Value.Text

namespace Stencil.Value

/-!
# Comparing values

Numbers of all kinds and truth values compare by their exact numeric value, texts by their code
points, lists and tuples item by item, sets and the keys of mappings by what they contain; values of other
kinds are equal only to their like.

* `Value.same` — equality;
* `Value.compare?` — order, where there is one;
* `Value.isTrue` — the truth value that conditions see;
* `Value.length?`, `Value.items?` — the size and the items of a collection.
-/

/-- A number as an exact value, or as one that has none. -/
inductive Number where
  | exact (b : Decimal.Binary)
  | special (x : Float)

/-- A fraction as a number. -/
def floatNumber (x : Float) : Number :=
  match Decimal.Binary.ofFloat? x with
  | some b => .exact b
  | .none => .special x

/-- The number that a value stands for, if any. -/
def number? : Value → Option Number
  | .bool b => some (.exact ⟨if b then 1 else 0, 0⟩)
  | .int n => some (.exact ⟨n, 0⟩)
  | .float x => some (floatNumber x)
  | _ => .none

/-- Equality of numbers; not-a-number differs from everything. -/
def Number.same : Number → Number → Bool
  | .exact a, .exact b => Decimal.compareExact a b == .eq
  | .special x, .special y => x == y
  | _, _ => false

/-- The order of numbers, if they are comparable. -/
def Number.compare? : Number → Number → Option Ordering
  | .exact a, .exact b => some (Decimal.compareExact a b)
  | .special x, .exact _ => if x.isNaN then .none else some (if x < 0 then .lt else .gt)
  | .exact _, .special y => if y.isNaN then .none else some (if y < 0 then .gt else .lt)
  | .special x, .special y =>
    if x.isNaN || y.isNaN then .none
    else some (if x == y then .eq else if x < y then .lt else .gt)

/-- Equality of the simple values that are neither numbers nor collections. -/
def sameLeaf : Value → Value → Bool
  | .none, .none => true
  | .str a, .str b => a == b
  | .str a, .markup b => a == b
  | .markup a, .str b => a == b
  | .markup a, .markup b => a == b
  | .date a, .date b => a == b
  | .datetime a, .datetime b =>
    match a.offset, b.offset with
    | some _, some _ => a.toUniversal == b.toUniversal
    | .none, .none => a == b
    | _, _ => false
  | .side a, .side b => a == b
  | .kind a, .kind b => a == b
  | .path a, .path b => a == b
  | .column a, .column b => a == b
  | .index a, .index b => a == b
  | .constraint a, .constraint b => a == b
  | .table a, .table b => a == b
  | .database a, .database b => a == b
  | .bytes a, .bytes b => a == b
  | .range a b c, .range a' b' c' => sameRange a b c a' b' c'
  | .duration a, .duration b => a == b
  | .undefined, .undefined => true
  | .object a, .object b => a == b
  | .ref a _, .ref b _ => a == b
  | .complex a b, .complex c d => a == c && b == d
  | .complex a b, y =>
    match y.number? with
    | some y => b == 0 && Number.same (floatNumber a) y
    | .none => false
  | x, .complex a b =>
    match x.number? with
    | some x => b == 0 && Number.same x (floatNumber a)
    | .none => false
  | a, b =>
    match a.number?, b.number? with
    | some x, some y => x.same y
    | _, _ => false

mutual

/-- Equality of values. -/
def same : Value → Value → Bool
  | .list xs, .list ys => sameAll xs ys
  | .tuple xs, .tuple ys => sameAll xs ys
  | .set xs, .set ys => xs.length == ys.length && eachIn xs ys
  | .dict xs, .dict ys => xs.length == ys.length && entriesIn xs ys
  | .view .keys (.dict xs), .view .keys (.dict ys) => xs.length == ys.length && keysAmong xs (ys.map (·.1))
  | .view .items (.dict xs), .view .items (.dict ys) => xs.length == ys.length && entriesIn xs ys
  | .view .keys (.dict xs), .set ys => xs.length == ys.length && keysAmong xs ys
  | .set xs, .view .keys (.dict ys) => xs.length == ys.length && eachIn xs (ys.map (·.1))
  | .method a m, .method b n => m == n && same a b
  | a, b => sameLeaf a b

/-- Equality item by item. -/
def sameAll : List Value → List Value → Bool
  | [], [] => true
  | x :: xs, y :: ys => same x y && sameAll xs ys
  | _, _ => false

/-- Whether every value of a list equals one of another. -/
def eachIn : List Value → List Value → Bool
  | [], _ => true
  | x :: xs, ys => ys.any (same x) && eachIn xs ys

/-- Whether every entry of a mapping is an entry of another. -/
def entriesIn : List (Value × Value) → List (Value × Value) → Bool
  | [], _ => true
  | (k, v) :: rest, ys => ys.any (fun (k', v') => same k k' && same v v') && entriesIn rest ys

/-- Whether every key of a mapping is in a list. -/
def keysAmong : List (Value × Value) → List Value → Bool
  | [], _ => true
  | (k, _) :: rest, ys => ys.any (fun y => same k y) && keysAmong rest ys

end

/-- The truth value that a condition sees: nothing, zero and empty collections are false. -/
def isTrue : Value → Bool
  | .none => false
  | .bool b => b
  | .int n => n != 0
  | .float x => x != 0
  | .str s => s != ""
  | .markup s => s != ""
  | .list xs => !xs.isEmpty
  | .tuple xs => !xs.isEmpty
  | .set xs => !xs.isEmpty
  | .dict es => !es.isEmpty
  | .bytes b => !b.isEmpty
  | .complex re im => re != 0 || im != 0
  | .duration n => n != 0
  | .view _ (.dict es) => !es.isEmpty
  | .range start stop step => rangeLength start stop step != 0
  | .undefined => false
  | _ => true

mutual

/-- The order of two values, if they have one. -/
def compare? : Value → Value → Option Ordering
  | .str a, .str b => some (compare a b)
  | .str a, .markup b => some (compare a b)
  | .markup a, .str b => some (compare a b)
  | .markup a, .markup b => some (compare a b)
  | .list xs, .list ys => compareAll? xs ys
  | .tuple xs, .tuple ys => compareAll? xs ys
  | .date a, .date b => some (compare a.ordinal b.ordinal)
  | .datetime a, .datetime b =>
    match a.offset, b.offset with
    | some _, some _ =>
      let (x, y) := (a.toUniversal, b.toUniversal)
      some ((compare x.seconds y.seconds).then (compare x.microsecond y.microsecond))
    | .none, .none => some ((compare a.seconds b.seconds).then (compare a.microsecond b.microsecond))
    | _, _ => .none
  | .path a, .path b => some (compare (a.root :: a.parts) (b.root :: b.parts))
  | .duration a, .duration b => some (compare a b)
  | .bytes a, .bytes b => some (compare (a.map UInt8.toNat) (b.map UInt8.toNat))
  | a, b =>
    match a.number?, b.number? with
    | some x, some y => x.compare? y
    | _, _ => .none

/-- The order of two lists: that of the first items that differ, else that of the lengths. -/
def compareAll? : List Value → List Value → Option Ordering
  | [], [] => some .eq
  | [], _ :: _ => some .lt
  | _ :: _, [] => some .gt
  | x :: xs, y :: ys => if same x y then compareAll? xs ys else compare? x y

end

/-- The value of a key of a mapping. -/
def lookup? (entries : List (Value × Value)) (key : Value) : Option Value :=
  (entries.find? fun (k, _) => same k key).map (·.2)

/-- A mapping with a key set: an existing key keeps its place and its form. -/
def insert (entries : List (Value × Value)) (key value : Value) : List (Value × Value) :=
  match entries with
  | [] => [(key, value)]
  | (k, v) :: rest => if same k key then (k, value) :: rest else (k, v) :: insert rest key value

/-- The mapping of a list of entries, later ones replacing the values of earlier ones. -/
def dictOf (entries : List (Value × Value)) : Value :=
  .dict (entries.foldl (fun d (k, v) => insert d k v) [])

/-- Whether a value can be a key of a mapping or an item of a set. -/
def isHashable : Value → Bool
  | .list _ | .set _ | .dict _ | .ref _ _ | .view .keys _ | .view .items _ => false
  | .tuple xs => hashableAll xs
  | .database _ => false
  | _ => true
where
  /-- Whether all values of a list can be keys. -/
  hashableAll : List Value → Bool
    | [] => true
    | x :: xs => isHashable x && hashableAll xs

/-- The items of a value that holds them all at once; a text has its characters, a mapping its keys. -/
def items? : Value → Option (List Value)
  | .list xs => some xs
  | .tuple xs => some xs
  | .set xs => some xs
  | .dict es => some (es.map (·.1))
  | .str s => some (s.toList.map fun c => .str c.toString)
  | .markup s => some (s.toList.map fun c => .str c.toString)
  | .bytes b => some (b.map fun x => .int x.toNat)
  | .range start stop step => some (rangeItems start stop step)
  | .view .keys (.dict es) => some (es.map (·.1))
  | .view .values (.dict es) => some (es.map (·.2))
  | .view .items (.dict es) => some (es.map fun (k, v) => .tuple [k, v])
  | .undefined => some []
  | _ => .none

/-- The number of items of a value. -/
def length? : Value → Option Nat
  | .undefined => some 0
  | .str s => some s.length
  | .markup s => some s.length
  | .range start stop step => some (rangeLength start stop step)
  | v => v.items?.map List.length

end Stencil.Value
