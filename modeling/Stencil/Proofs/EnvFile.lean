import Mathlib.Data.List.TakeWhile
import Stencil.EnvFile
import Stencil.Proofs.Action
import Stencil.Proofs.OrderedMap

namespace Stencil.EnvFile

/-!
# Loading files of variables

A file of variables adds to the environment what it has values for and what is not set yet. The additions are made one
after another, up to the first that the environment cannot keep.

* `found` — the variables of a file with their values;
* `additions` — those that are added to an environment;
* `IsSettable` — what the environment can keep;
* `load_apply` — loading a file sets its additions, up to the first that cannot be kept;
* `get?_filled` — what a variable stands for after all of them were set.
-/

variable {environment : OrderedMap String} {s : List Char}

/-! ### Additions -/

/-- The variables of a file with their values, if they have one. -/
def found (environment : OrderedMap String) (s : List Char) : OrderedMap (Option String) :=
  resolve environment (entries ((Text.stripPrefix? ['\uFEFF'] s).getD s))

/-- A variable with its value, if it has one and is not set yet. -/
def addition? (environment : OrderedMap String) (e : String × Option String) : Option (String × String) :=
  if environment.contains e.1 then none else e.2.map (e.1, ·)

/-- What a file adds to an environment. -/
def additions (environment : OrderedMap String) (s : List Char) : OrderedMap String :=
  (found environment s).filterMap (addition? environment)

/-- A variable that the environment can keep: there is no equals sign in its name, and no zero character anywhere. -/
def IsSettable (e : String × String) : Prop :=
  '=' ∉ e.1.toList ∧ '\x00' ∉ e.1.toList ∧ '\x00' ∉ e.2.toList

instance (e : String × String) : Decidable (IsSettable e) :=
  inferInstanceAs (Decidable (_ ∧ _))

/-- An environment in which variables were set. -/
def extended (environment : OrderedMap String) (es : OrderedMap String) : OrderedMap String :=
  es.foldl (fun m e => m.put e.1 e.2) environment

/-- An environment with what a file adds, up to the first that cannot be kept. -/
def filled (environment : OrderedMap String) (s : List Char) : OrderedMap String :=
  extended environment ((additions environment s).takeWhile (IsSettable ·))

theorem nodup_keys_found (environment : OrderedMap String) (s : List Char) : (found environment s).keys.Nodup := by
  unfold found resolve
  exact List.foldlRecOn (motive := fun m => (OrderedMap.keys m).Nodup) _ _ List.nodup_nil
    fun _ hm e _ => OrderedMap.nodup_keys_put hm _ _

theorem mem_additions {e : String × String} :
    e ∈ additions environment s ↔ environment.contains e.1 = false ∧ (e.1, some e.2) ∈ found environment s := by
  obtain ⟨name, value⟩ := e
  simp only [additions, addition?, List.mem_filterMap]
  constructor
  · rintro ⟨⟨name', value'⟩, hmem, he⟩
    split at he
    · cases he
    · next hnew =>
      obtain ⟨v, rfl, hv⟩ := Option.map_eq_some_iff.mp he
      cases hv
      exact ⟨by simpa using hnew, hmem⟩
  · rintro ⟨hnew, hmem⟩
    exact ⟨_, hmem, by simp [hnew]⟩

theorem keys_additions_sublist (environment : OrderedMap String) (s : List Char) :
    (additions environment s).keys.Sublist (found environment s).keys := by
  unfold additions
  generalize found environment s = es
  induction es with
  | nil => exact .slnil
  | cons e es ih =>
    cases he : addition? environment e with
    | none => exact (List.filterMap_cons_none he ▸ ih).cons _
    | some e' =>
      have hkey : e'.1 = e.1 := by
        unfold addition? at he
        split at he
        · cases he
        · obtain ⟨v, -, rfl⟩ := Option.map_eq_some_iff.mp he
          rfl
      rw [List.filterMap_cons_some he, OrderedMap.keys, List.map_cons, hkey]
      exact ih.cons_cons _

/-! ### Loading -/

theorem setVariable_apply (e : String × String) :
    setVariable e.1 e.2 environment =
      if IsSettable e then (.ok (), environment.put e.1 e.2) else (.error (.foreign .wrongValue), environment) := by
  have hbad : (e.1.contains '=' || e.1.contains '\x00' || e.2.contains '\x00') = true ↔ ¬ IsSettable e := by
    simp only [Bool.or_eq_true, String.contains_char_eq, decide_eq_true_eq, IsSettable]
    tauto
  unfold setVariable
  by_cases h : IsSettable e
  · rw [if_neg (mt hbad.mp (not_not_intro h)), if_pos h]
    rfl
  · rw [if_pos (hbad.mpr h), if_neg h]
    rfl

/-- Set variables one after another. -/
def setAll (es : OrderedMap String) : Action (OrderedMap String) Unit :=
  es.forM fun e => setVariable e.1 e.2

theorem setAll_cons (e : String × String) (es : OrderedMap String) :
    setAll (e :: es) = setVariable e.1 e.2 >>= fun _ => setAll es := rfl

/-- Variables are set up to the first that cannot be kept. -/
theorem setAll_apply (es : OrderedMap String) (environment : OrderedMap String) :
    setAll es environment =
      (if ∀ e ∈ es, IsSettable e then .ok () else .error (.foreign .wrongValue),
        extended environment (es.takeWhile (IsSettable ·))) := by
  induction es generalizing environment with
  | nil => rfl
  | cons e es ih =>
    rw [setAll_cons, Action.bind_apply, setVariable_apply]
    -- A variable that cannot be kept ends the loop, and those before it stay set.
    by_cases he : IsSettable e
    · rw [if_pos he, List.takeWhile_cons_of_pos (by simpa using he)]
      dsimp only
      rw [ih, extended, extended, List.foldl_cons]
      simp only [List.forall_mem_cons, he, true_and]
    · rw [if_neg he, List.takeWhile_cons_of_neg (by simpa using he), if_neg fun h => he (h e List.mem_cons_self)]
      rfl

/-- A loop that sets each variable that is an addition sets the additions. -/
theorem forIn_eq_setAll {body : String × Option String → PUnit → Action (OrderedMap String) (ForInStep PUnit)}
    (hbody : ∀ e, body e ⟨⟩ = (addition? environment e).forM (fun e => setVariable e.1 e.2) >>= fun _ =>
      pure (.yield ⟨⟩)) (es : OrderedMap (Option String)) :
    forIn es PUnit.unit body = setAll (es.filterMap (addition? environment)) := by
  induction es with
  | nil => rfl
  | cons e es ih =>
    rw [List.forIn_cons, hbody]
    cases he : addition? environment e with
    | none =>
      rw [List.filterMap_cons_none he, ← ih]
      rfl
    | some e' =>
      rw [List.filterMap_cons_some he, setAll_cons, ← ih]
      simp [Option.forM]

/-- Loading a file sets its additions. -/
theorem load_eq (s : List Char) (environment : OrderedMap String) :
    load s environment = setAll (additions environment s) environment := by
  unfold load
  rw [Action.get_bind_apply, bind_pure_unit]
  refine congrFun (forIn_eq_setAll (fun e => ?_) _) environment
  obtain ⟨name, value⟩ := e
  cases value with
  | none => cases hname : environment.contains name <;> simp [addition?, hname, Option.forM]
  | some v => cases hname : environment.contains name <;> simp [addition?, hname, Option.forM]

/-- Loading a file sets its additions up to the first that cannot be kept. -/
theorem load_apply (s : List Char) (environment : OrderedMap String) :
    load s environment =
      (if ∀ e ∈ additions environment s, IsSettable e then .ok () else .error (.foreign .wrongValue),
        filled environment s) := by
  rw [load_eq, setAll_apply, filled]

/-! ### What variables stand for -/

theorem get?_extended_of_nodup {es : OrderedMap String} (hn : es.keys.Nodup) (environment : OrderedMap String)
    (name : String) : (extended environment es).get? name = (es.get? name).or (environment.get? name) := by
  induction es generalizing environment with
  | nil => rfl
  | cons e es ih =>
    obtain ⟨k, v⟩ := e
    rw [OrderedMap.keys_cons, List.nodup_cons] at hn
    have hcons : extended environment ((k, v) :: es) = extended (environment.put k v) es := rfl
    rw [hcons, ih hn.2, OrderedMap.get?_cons]
    by_cases hname : name = k
    · subst hname
      rw [OrderedMap.get?_eq_none_of_not_mem hn.1, OrderedMap.get?_put_self, if_pos rfl]
      rfl
    · rw [if_neg hname, OrderedMap.get?_put_of_ne _ _ hname]

/-- A variable that was set stays as it was; otherwise it has the value of the file, if there is one. -/
theorem get?_filled (h : ∀ e ∈ additions environment s, IsSettable e) (name : String) :
    (filled environment s).get? name = (environment.get? name).or ((found environment s).get? name).join := by
  have hall : (additions environment s).takeWhile (IsSettable ·) = additions environment s :=
    List.takeWhile_eq_self_iff.mpr fun e he => decide_eq_true (h e he)
  rw [filled, hall]
  have hn : (additions environment s).keys.Nodup :=
    (nodup_keys_found environment s).sublist (keys_additions_sublist environment s)
  rw [get?_extended_of_nodup hn]
  -- A variable that was set before is no addition; any other one is set by the file, or not at all.
  cases hset : environment.contains name with
  | true =>
    obtain ⟨v, hv⟩ := OrderedMap.contains_iff_get?.mp hset
    have hnone : (additions environment s).get? name = none := by
      refine OrderedMap.get?_eq_none_of_not_mem fun hmem => ?_
      obtain ⟨e, he, rfl⟩ := List.mem_map.mp hmem
      exact absurd hset (by simp [(mem_additions.mp he).1])
    rw [hnone, hv]
    rfl
  | false =>
    have hnone : environment.get? name = none := by
      cases hv : environment.get? name with
      | none => rfl
      | some v => exact absurd (OrderedMap.contains_iff_get?.mpr ⟨v, hv⟩) (by simp [hset])
    rw [hnone, Option.or_none, Option.none_or]
    ext v
    rw [OrderedMap.get?_eq_some_iff hn, mem_additions, ← OrderedMap.get?_eq_some_iff (nodup_keys_found environment s),
      Option.join_eq_some_iff]
    simp [hset]

end Stencil.EnvFile
