namespace Stencil

/-!
# Maps in insertion order

A map is a list of keys and values with pairwise different keys. Setting an existing key keeps its
place.

* `OrderedMap.get?`, `OrderedMap.put`, `OrderedMap.erase` — the operations;
* `OrderedMap.get?_put_self`, `OrderedMap.get?_put_of_ne` — what setting a key does to look-ups.
-/

/-- A map from texts in insertion order. -/
abbrev OrderedMap (α : Type) := List (String × α)

namespace OrderedMap

variable {α : Type}

/-- The value of a key. -/
def get? (m : OrderedMap α) (key : String) : Option α :=
  m.lookup key

/-- Set the value of a key: at its place if it is there, at the end otherwise. -/
def put (m : OrderedMap α) (key : String) (value : α) : OrderedMap α :=
  match m with
  | [] => [(key, value)]
  | (k, v) :: rest => if k = key then (k, value) :: rest else (k, v) :: put rest key value

/-- The map without a key. -/
def erase (m : OrderedMap α) (key : String) : OrderedMap α :=
  m.filter fun (k, _) => k != key

/-- Whether a key is there. -/
def contains (m : OrderedMap α) (key : String) : Bool :=
  m.any fun (k, _) => k == key

/-- The keys, in order. -/
def keys (m : OrderedMap α) : List String :=
  m.map (·.1)

/-- The map of a list of entries; later entries replace the values of earlier ones. -/
def ofEntries (entries : List (String × α)) : OrderedMap α :=
  entries.foldl (fun m (k, v) => put m k v) []

@[simp] theorem get?_nil (key : String) : get? ([] : OrderedMap α) key = none := rfl

theorem get?_cons (k key : String) (v : α) (m : OrderedMap α) :
    get? ((k, v) :: m) key = if key = k then some v else get? m key := by
  show (match key == k with
    | true => some v
    | false => m.lookup key) = _
  by_cases h : key = k
  · rw [if_pos h, beq_iff_eq.mpr h]
  · rw [if_neg h, beq_eq_false_iff_ne.mpr h]
    rfl

@[simp] theorem get?_put_self (m : OrderedMap α) (key : String) (value : α) :
    (m.put key value).get? key = some value := by
  induction m with
  | nil => simp [put, get?_cons]
  | cons e m ih =>
    obtain ⟨k, v⟩ := e
    by_cases h : k = key
    · simp [put, h, get?_cons]
    · simp [put, h, get?_cons, ih, Ne.symm h]

theorem get?_put_of_ne (m : OrderedMap α) {key other : String} (value : α) (h : other ≠ key) :
    (m.put key value).get? other = m.get? other := by
  induction m with
  | nil => simp [put, get?_cons, h]
  | cons e m ih =>
    obtain ⟨k, v⟩ := e
    by_cases hk : k = key
    · subst hk; simp [put, get?_cons, h]
    · simp [put, hk, get?_cons, ih]

end OrderedMap

end Stencil
