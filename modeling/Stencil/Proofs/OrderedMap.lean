import Mathlib.Data.List.Induction
import Stencil.OrderedMap

namespace Stencil.OrderedMap

/-!
# Maps in insertion order: keys and repeated writing

Two facts about maps carry most arguments about recorded answers: setting a key never moves or removes the keys
that are there, and writing all entries of a map over an earlier state of it gives the map, order included.

* `keys_prefix_put` — the old keys stay in front;
* `put_eq_self_iff`, `erase_eq_self_iff` — the changes that change nothing;
* `foldl_put_of_prefix` — writing a map over one whose keys come first in it gives the map;
* `nodup_keys_ofEntries`, `ofEntries_of_nodup` — a map of entries has every key once, and is the list of the entries
  if each of their keys is there once;
* `keys_ofEntries`, `get?_ofEntries_of_last` — a key stands where it stands first among the entries, with the value of
  the last one;
* `Collects`, `collects_ofEntries` — the same, as a property of the map.
-/

variable {α : Type}

/-! ### Keys -/

@[simp] theorem keys_nil : keys ([] : OrderedMap α) = [] := rfl

@[simp] theorem keys_cons (k : String) (v : α) (m : OrderedMap α) : keys ((k, v) :: m) = k :: keys m := rfl

@[simp] theorem keys_append (m m' : OrderedMap α) : keys (m ++ m') = keys m ++ keys m' := by
  simp [keys]

theorem contains_iff_mem_keys {m : OrderedMap α} {key : String} : m.contains key = true ↔ key ∈ m.keys := by
  simp [contains, keys]

theorem contains_iff_get? {m : OrderedMap α} {key : String} :
    m.contains key = true ↔ ∃ v, m.get? key = some v := by
  induction m with
  | nil => simp [contains]
  | cons e m ih =>
    obtain ⟨k, v⟩ := e
    rw [get?_cons]
    by_cases h : key = k
    · subst h
      simp [contains]
    · rw [if_neg h, ← ih]
      simp [contains, Ne.symm h]

theorem get?_eq_none_of_not_mem {m : OrderedMap α} {key : String} (h : key ∉ m.keys) : m.get? key = none := by
  cases hv : m.get? key with
  | none => rfl
  | some v => exact absurd (contains_iff_mem_keys.mp (contains_iff_get?.mpr ⟨v, hv⟩)) h

theorem get?_append (m m' : OrderedMap α) (key : String) : get? (m ++ m') key = (m.get? key).or (get? m' key) := by
  induction m with
  | nil => rfl
  | cons e m ih =>
    obtain ⟨k, v⟩ := e
    rw [List.cons_append, get?_cons, get?_cons, ih]
    by_cases h : key = k <;> simp [h]

/-! ### Setting a key -/

theorem keys_put_of_mem {m : OrderedMap α} {key : String} (value : α) (h : key ∈ m.keys) :
    (m.put key value).keys = m.keys := by
  induction m with
  | nil => simp at h
  | cons e m ih =>
    obtain ⟨k, v⟩ := e
    by_cases hk : k = key
    · simp [put, hk]
    · have hm : key ∈ keys m := by simpa [Ne.symm hk] using h
      simp [put, hk, ih hm]

theorem put_of_not_mem {m : OrderedMap α} {key : String} (value : α) (h : key ∉ m.keys) :
    m.put key value = m ++ [(key, value)] := by
  induction m with
  | nil => rfl
  | cons e m ih =>
    obtain ⟨k, v⟩ := e
    rw [keys_cons, List.mem_cons, not_or] at h
    simp [put, Ne.symm h.1, ih h.2]

theorem put_append_of_not_mem {m m' : OrderedMap α} {key : String} (value : α) (h : key ∉ m.keys) :
    put (m ++ m') key value = m ++ put m' key value := by
  induction m with
  | nil => rfl
  | cons e m ih =>
    obtain ⟨k, v⟩ := e
    rw [keys_cons, List.mem_cons, not_or] at h
    simp [put, Ne.symm h.1, ih h.2]

/-- The old keys stay in front. -/
theorem keys_prefix_put (m : OrderedMap α) (key : String) (value : α) :
    m.keys <+: (m.put key value).keys := by
  by_cases h : key ∈ m.keys
  · exact (keys_put_of_mem value h).symm ▸ List.prefix_rfl
  · have hkeys : (m.put key value).keys = m.keys ++ [key] := by
      rw [put_of_not_mem value h, keys_append, keys_cons, keys_nil]
    exact hkeys ▸ List.prefix_append _ _

theorem keys_put (m : OrderedMap α) (key : String) (value : α) :
    (m.put key value).keys = if key ∈ m.keys then m.keys else m.keys ++ [key] := by
  by_cases h : key ∈ m.keys
  · rw [if_pos h, keys_put_of_mem value h]
  · rw [if_neg h, put_of_not_mem value h, keys_append, keys_cons, keys_nil]

theorem nodup_keys_put {m : OrderedMap α} (hn : m.keys.Nodup) (key : String) (value : α) :
    (m.put key value).keys.Nodup := by
  by_cases h : key ∈ m.keys
  · rwa [keys_put_of_mem value h]
  · rw [put_of_not_mem value h, keys_append, keys_cons, keys_nil]
    exact List.nodup_append.mpr ⟨hn, by simp, by simpa using fun a ha => ne_of_mem_of_not_mem ha h⟩

theorem contains_put (m : OrderedMap α) (key : String) (value : α) (other : String) :
    (m.put key value).contains other = true ↔ other = key ∨ m.contains other = true := by
  rw [contains_iff_get?, contains_iff_get?]
  by_cases h : other = key
  · subst h
    simp
  · rw [get?_put_of_ne m value h]
    simp [h]

theorem mem_put {m : OrderedMap α} {key : String} {value : α} {e : String × α} (h : e ∈ m.put key value) :
    e ∈ m ∨ e = (key, value) := by
  induction m with
  | nil => exact .inr (List.mem_singleton.mp h)
  | cons f m ih =>
    obtain ⟨k, v⟩ := f
    by_cases hk : k = key
    · rw [put, if_pos hk, List.mem_cons, hk] at h
      exact h.elim .inr fun h => .inl (List.mem_cons_of_mem _ h)
    · rw [put, if_neg hk, List.mem_cons] at h
      rcases h with rfl | h
      · exact .inl List.mem_cons_self
      · exact (ih h).imp_left (List.mem_cons_of_mem _)

/-- Setting a key changes nothing exactly if it has the value already. -/
theorem put_eq_self_iff {m : OrderedMap α} {key : String} {value : α} :
    m.put key value = m ↔ m.get? key = some value := by
  induction m with
  | nil => simp [put]
  | cons e m ih =>
    obtain ⟨k, v⟩ := e
    by_cases hk : k = key
    · simp [put, get?_cons, hk, eq_comm]
    · simp [put, get?_cons, hk, Ne.symm hk, ih]

/-! ### Removing a key -/

theorem erase_of_not_mem {m : OrderedMap α} {key : String} (h : key ∉ m.keys) : m.erase key = m := by
  refine List.filter_eq_self.mpr fun e he => ?_
  have hne : e.1 ≠ key := by
    rintro rfl
    exact h (List.mem_map_of_mem he)
  simpa using hne

theorem keys_erase (m : OrderedMap α) (key : String) : (m.erase key).keys = m.keys.filter (· != key) := by
  rw [keys, keys, List.filter_map]
  rfl

theorem get?_erase_self (m : OrderedMap α) (key : String) : (m.erase key).get? key = none := by
  refine get?_eq_none_of_not_mem fun h => ?_
  rw [keys_erase, List.mem_filter] at h
  simp at h

/-- Removing a key changes nothing exactly if it is not there. -/
theorem erase_eq_self_iff {m : OrderedMap α} {key : String} : m.erase key = m ↔ key ∉ m.keys := by
  refine ⟨fun h hmem => ?_, erase_of_not_mem⟩
  obtain ⟨value, hvalue⟩ := contains_iff_get?.mp (contains_iff_mem_keys.mpr hmem)
  rw [← h, get?_erase_self] at hvalue
  cases hvalue

theorem erase_cons (k key : String) (v : α) (m : OrderedMap α) :
    erase ((k, v) :: m) key = if k = key then erase m key else (k, v) :: erase m key := by
  by_cases h : k = key <;> simp [erase, h]

theorem get?_erase_of_ne (m : OrderedMap α) {key other : String} (h : other ≠ key) :
    (m.erase key).get? other = m.get? other := by
  induction m with
  | nil => rfl
  | cons e m ih =>
    obtain ⟨k, v⟩ := e
    rw [erase_cons, get?_cons]
    by_cases hk : k = key
    · rw [if_pos hk, ih, if_neg (hk ▸ h)]
    · rw [if_neg hk, get?_cons, ih]

theorem erase_append_cons (m m' : OrderedMap α) {key : String} (value : α) (h : key ∉ m.keys) (h' : key ∉ m'.keys) :
    erase (m ++ (key, value) :: m') key = m ++ m' := by
  have herase : erase (m ++ (key, value) :: m') key = m.erase key ++ m'.erase key := by
    simp [erase, List.filter_append]
  rw [herase, erase_of_not_mem h, erase_of_not_mem h']

/-! ### Writing a map over another -/

/-- The induction behind `foldl_put_of_prefix`: the entries that have been written stand in front. -/
theorem foldl_put_append (written : OrderedMap α) {m rest : OrderedMap α} (hn : (written ++ rest).keys.Nodup)
    (hp : m.keys <+: rest.keys) :
    rest.foldl (fun acc (e : String × α) => acc.put e.1 e.2) (written ++ m) = written ++ rest := by
  induction rest generalizing written m with
  | nil =>
    have hm : m = [] := by simpa [keys] using hp
    simp [hm]
  | cons e rest ih =>
    obtain ⟨k, v⟩ := e
    -- An entry is written once, so it is not among those that have been.
    have hk : k ∉ written.keys := by
      rw [keys_append, keys_cons] at hn
      exact fun h => (List.nodup_append.mp hn).2.2 k h k List.mem_cons_self rfl
    have hnext : ((written ++ [(k, v)]) ++ rest).keys.Nodup := by simpa using hn
    rw [List.foldl_cons, put_append_of_not_mem v hk]
    -- The next entry is either new, so that it is added behind what is written, or it is the first one of `m`.
    cases m with
    | nil =>
      rw [show put ([] : OrderedMap α) k v = [(k, v)] from rfl]
      simpa using ih _ hnext (m := []) List.nil_prefix
    | cons f m =>
      obtain ⟨k', v'⟩ := f
      rw [keys_cons, keys_cons, List.cons_prefix_cons] at hp
      rw [show put ((k', v') :: m) k v = (k, v) :: m by simp [put, hp.1]]
      simpa using ih _ hnext hp.2

/-- Writing all entries of a map over one whose keys come first in it gives the map. -/
theorem foldl_put_of_prefix {m m' : OrderedMap α} (hn : m'.keys.Nodup) (hp : m.keys <+: m'.keys) :
    m'.foldl (fun acc (e : String × α) => acc.put e.1 e.2) m = m' :=
  foldl_put_append [] hn hp

/-! ### Maps of entries -/

theorem nodup_keys_ofEntries (entries : List (String × α)) : (ofEntries entries).keys.Nodup :=
  List.foldlRecOn (motive := fun m => (keys m).Nodup) entries _ List.nodup_nil fun _ hm e _ => nodup_keys_put hm e.1 e.2

theorem mem_of_mem_ofEntries {entries : List (String × α)} {e : String × α} (h : e ∈ ofEntries entries) :
    e ∈ entries := by
  -- Every entry of the map is one of those that were set, whichever have been set so far.
  have hall : ∀ e ∈ ofEntries entries, e ∈ entries :=
    List.foldlRecOn (motive := fun m => ∀ e ∈ m, e ∈ entries) entries _ (by simp) fun _ hm f hf e he =>
      (mem_put he).elim (hm e) (· ▸ hf)
  exact hall e h

theorem get?_eq_some_iff {m : OrderedMap α} (hn : m.keys.Nodup) {key : String} {value : α} :
    m.get? key = some value ↔ (key, value) ∈ m := by
  induction m with
  | nil => simp
  | cons e m ih =>
    obtain ⟨k, v⟩ := e
    rw [keys_cons, List.nodup_cons] at hn
    rw [get?_cons, List.mem_cons, ← ih hn.2, Prod.mk.injEq]
    by_cases h : key = k
    · subst h
      simp [get?_eq_none_of_not_mem hn.1, eq_comm]
    · simp [h]

/-- The order of the entries of a map does not matter to look-ups. -/
theorem get?_of_perm {m m' : OrderedMap α} (hn : m.keys.Nodup) (h : m.Perm m') (key : String) :
    m.get? key = m'.get? key := by
  have hn' : m'.keys.Nodup := (h.map Prod.fst).nodup_iff.mp hn
  ext value
  rw [get?_eq_some_iff hn, get?_eq_some_iff hn', h.mem_iff]

theorem ofEntries_of_nodup {m : OrderedMap α} (h : m.keys.Nodup) : ofEntries m = m :=
  foldl_put_of_prefix h List.nil_prefix

/-- Nothing is replaced exactly if every key is there once. -/
theorem ofEntries_eq_self_iff {entries : List (String × α)} : ofEntries entries = entries ↔ (keys entries).Nodup :=
  ⟨fun h => h ▸ nodup_keys_ofEntries entries, ofEntries_of_nodup⟩

theorem ofEntries_concat (entries : List (String × α)) (key : String) (value : α) :
    ofEntries (entries ++ [(key, value)]) = (ofEntries entries).put key value :=
  List.foldl_append

/-- The keys of a map of entries are in the order in which they stand first among the entries. -/
theorem keys_ofEntries (entries : List (String × α)) :
    (ofEntries entries).keys = (entries.map (·.1)).eraseDups := by
  -- The induction is from the end, where the next entry is put: its key is new, or stays where it is.
  induction entries using List.reverseRecOn with
  | nil => rfl
  | append_singleton entries e ih =>
    obtain ⟨k, v⟩ := e
    rw [ofEntries_concat, keys_put, ih, List.map_append, List.eraseDups_append, List.map_singleton]
    by_cases h : k ∈ entries.map (·.1)
    · have hremoved : [k].removeAll (entries.map (·.1)) = [] := by simpa [List.removeAll] using h
      rw [if_pos (List.mem_eraseDups.mpr h), hremoved, List.eraseDups_nil, List.append_nil]
    · have hkept : [k].removeAll (entries.map (·.1)) = [k] := by simpa [List.removeAll] using h
      rw [if_neg (mt List.mem_eraseDups.mp h), hkept]
      rfl

/-- The last entry with a key has its value. -/
theorem get?_ofEntries_of_last {before after : List (String × α)} {key : String} {value : α}
    (h : ∀ e ∈ after, e.1 ≠ key) : (ofEntries (before ++ (key, value) :: after)).get? key = some value := by
  induction after using List.reverseRecOn with
  | nil => rw [ofEntries_concat, get?_put_self]
  | append_singleton after e ih =>
    have hkey : key ≠ e.1 := (h e (by simp)).symm
    rw [← List.cons_append, ← List.append_assoc, ofEntries_concat, get?_put_of_ne _ _ hkey]
    exact ih fun f hf => h f (List.mem_append_left _ hf)

/-- A map has the keys of entries, each at the place of its first entry and with the value of its last one. -/
structure Collects (entries : List (String × α)) (m : OrderedMap α) : Prop where
  keys : m.keys = (entries.map (·.1)).eraseDups
  value : ∀ before key value after, entries = before ++ (key, value) :: after → (∀ e ∈ after, e.1 ≠ key) →
    m.get? key = some value

theorem collects_ofEntries (entries : List (String × α)) : Collects entries (ofEntries entries) where
  keys := keys_ofEntries entries
  value := by
    rintro before key value after rfl hlast
    exact get?_ofEntries_of_last hlast

end Stencil.OrderedMap
