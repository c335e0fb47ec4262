import Stencil.Helper.Call
import Stencil.Proofs.Text.Pieces

namespace Stencil.Helper

open Text

/-!
# Lists among concatenated values

A concatenation has the texts of its values with a separator between them. A list or a tuple stands for its members, so
that it can be replaced by them. Only an absent member makes a difference: among the values it has no text, but in a list
it is written out.

* `IsSingle`, `writtenOut` — members that have one text, and what becomes of absent ones;
* `call_concat_congr` — a concatenation depends on the texts of its values;
* `flatMap_parts_sublist`, `flatMap_parts_of_absent` — the texts of values, and those of a list of them;
* `lists_flattened` — a list in place of its members.
-/

/-- A value that is neither a list nor a tuple. -/
def IsSingle (v : Value) : Prop :=
  ∀ xs, v ≠ .list xs ∧ v ≠ .tuple xs

/-- A member of a list as a value of its own that has the same text. -/
def writtenOut : Value → Value
  | .none => .str "None"
  | v => v

section Members

variable {v x : Value} {xs vs ws : List Value} {named : List (String × Value)}

/-! ### Texts -/

theorem parts_writtenOut (h : IsSingle x) : parts (writtenOut x) = [x.text] := by
  cases x with
  | list ys => exact absurd rfl (h ys).1
  | tuple ys => exact absurd rfl (h ys).2
  | _ => rfl

theorem writtenOut_of_ne (h : x ≠ .none) : writtenOut x = x := by
  cases x with
  | none => exact absurd rfl h
  | _ => rfl

theorem map_writtenOut (h : .none ∉ xs) : xs.map writtenOut = xs := by
  refine (List.map_congr_left fun x hx => ?_).trans (List.map_id xs)
  exact writtenOut_of_ne fun hnone => h (hnone ▸ hx)

theorem flatMap_parts_writtenOut (h : ∀ x ∈ xs, IsSingle x) : (xs.map writtenOut).flatMap parts = xs.map Value.text := by
  induction xs with
  | nil => rfl
  | cons x xs ih =>
    obtain ⟨hx, hrest⟩ := List.forall_mem_cons.mp h
    rw [List.map_cons, List.flatMap_cons, parts_writtenOut hx, ih hrest, List.map_cons, List.singleton_append]

theorem parts_sequence (hv : v = .list xs ∨ v = .tuple xs) : parts v = xs.map Value.text := by
  rcases hv with rfl | rfl <;> rfl

/-- Values have no texts but those that a list of them has. -/
theorem flatMap_parts_sublist (h : ∀ x ∈ xs, IsSingle x) : (xs.flatMap parts).Sublist (xs.map Value.text) := by
  rw [← flatMap_parts_writtenOut h, List.flatMap_map]
  refine List.Sublist.flatMap_right xs fun x _ => ?_
  by_cases hnone : x = .none
  · rw [hnone]
    exact List.nil_sublist _
  · have hsame : parts (writtenOut x) = parts x := congrArg parts (writtenOut_of_ne hnone)
    exact hsame ▸ .refl _

/-- An absent value has no text, but a list has one for it. -/
theorem flatMap_parts_of_absent (h : ∀ x ∈ xs, IsSingle x) (hnone : .none ∈ xs) :
    ∃ front back, xs.map Value.text = front ++ "None" :: back ∧ (xs.flatMap parts).Sublist (front ++ back) := by
  obtain ⟨before, after, rfl⟩ := List.append_of_mem hnone
  obtain ⟨hbefore, hafter⟩ := List.forall_mem_append.mp h
  refine ⟨before.map Value.text, after.map Value.text, by rw [List.map_append]; rfl, ?_⟩
  rw [List.flatMap_append]
  exact (flatMap_parts_sublist hbefore).append (flatMap_parts_sublist (List.forall_mem_cons.mp hafter).2)

/-! ### Numbers that are too long -/

theorem hasLongNumber_sequence (hv : v = .list xs ∨ v = .tuple xs) : v.hasLongNumber = xs.any Value.hasLongNumber := by
  rcases hv with rfl | rfl
  all_goals exact Value.anyPartOf_eq_any Value.isLongNumber xs

theorem hasLongNumber_writtenOut (x : Value) : (writtenOut x).hasLongNumber = x.hasLongNumber := by
  cases x <;> rfl

/-! ### Concatenations -/

/-- A concatenation depends on the texts of its values, and on whether all numbers can be written. -/
theorem call_concat_congr (htexts : vs.flatMap parts = ws.flatMap parts)
    (hlong : vs.any Value.hasLongNumber = ws.any Value.hasLongNumber) :
    call .concat vs named = call .concat ws named := by
  have hconcatenate : ∀ separator, concatenate separator vs = concatenate separator ws := fun separator => by
    simp only [concatenate, htexts]
  simp only [call, hlong, hconcatenate]

/-- What a concatenation gives is put together from the texts. -/
theorem concatenate_of_call {result : Value} (h : call .concat vs named = .ok result) :
    concatenate ((named.lookup "separator").getD (.str "")) vs = .ok result := by
  rw [call] at h
  split_ifs at h
  exact h

/-- One more text that is not empty makes a difference, whether texts are escaped or not. -/
theorem concatenate_ne_of_sublist {separator result : Value} {front back : List String} {text : String}
    (hescape : Value.escapeMarkup text = text) (hne : text ≠ "") (hws : ws.flatMap parts = front ++ text :: back)
    (hvs : (vs.flatMap parts).Sublist (front ++ back)) (h : concatenate separator ws = .ok result) :
    concatenate separator vs ≠ .ok result := by
  intro hsame
  cases separator with
  | str s =>
    have htexts := Value.str.inj (Except.ok.inj (hsame.trans h.symm))
    rw [hws] at htexts
    exact joined_ne_of_sublist hne hvs htexts
  | markup s =>
    have htexts := Value.markup.inj (Except.ok.inj (hsame.trans h.symm))
    rw [hws, List.map_append, List.map_cons, hescape] at htexts
    have hescaped := hvs.map Value.escapeMarkup
    rw [List.map_append] at hescaped
    exact joined_ne_of_sublist hne hescaped htexts
  | bytes b =>
    -- Bytes join no texts, and there is one.
    rw [concatenate, hws] at h
    simp at h
  | _ => cases h

end Members

/-- **Lists are flattened.** Let a list or a tuple among the values of a concatenation have no lists or tuples in it. It
makes no difference if its members are values of their own, except that absent members are written out. If the list is
accepted and a member is absent, there is a difference. -/
theorem lists_flattened {xs : List Value} {v : Value} (hv : v = .list xs ∨ v = .tuple xs)
    (hxs : ∀ x ∈ xs, IsSingle x) (before after : List Value) (named : List (String × Value)) :
    (.none ∉ xs → call .concat (before ++ v :: after) named = call .concat (before ++ xs ++ after) named) ∧
      call .concat (before ++ v :: after) named = call .concat (before ++ xs.map writtenOut ++ after) named ∧
      ∀ result, call .concat (before ++ v :: after) named = .ok result →
        (call .concat (before ++ xs ++ after) named = .ok result ↔ .none ∉ xs) := by
  have hwritten : call .concat (before ++ v :: after) named =
      call .concat (before ++ xs.map writtenOut ++ after) named := by
    refine call_concat_congr ?_ ?_
    · simp only [List.flatMap_append, List.flatMap_cons, parts_sequence hv, flatMap_parts_writtenOut hxs,
        List.append_assoc]
    · simp only [List.any_append, List.any_cons, hasLongNumber_sequence hv, List.any_map, Function.comp_def,
        hasLongNumber_writtenOut, Bool.or_assoc]
  have hplain : .none ∉ xs → call .concat (before ++ v :: after) named = call .concat (before ++ xs ++ after) named := by
    intro hnone
    rw [hwritten, map_writtenOut hnone]
  refine ⟨hplain, hwritten, fun result h => ⟨fun hmembers hnone => ?_, fun hnone => (hplain hnone).symm.trans h⟩⟩
  -- The list has a text for the absent member, so that the result is longer with it.
  obtain ⟨front, back, htexts, hsub⟩ := flatMap_parts_of_absent hxs hnone
  have hlist : (before ++ v :: after).flatMap parts =
      (before.flatMap parts ++ front) ++ "None" :: (back ++ after.flatMap parts) := by
    simp [List.flatMap_append, List.flatMap_cons, parts_sequence hv, htexts]
  have hfewer : ((before ++ xs ++ after).flatMap parts).Sublist
      ((before.flatMap parts ++ front) ++ (back ++ after.flatMap parts)) := by
    rw [List.flatMap_append, List.flatMap_append, List.append_assoc, List.append_assoc, ← List.append_assoc front]
    exact (List.Sublist.refl _).append (hsub.append (List.Sublist.refl _))
  exact concatenate_ne_of_sublist rfl (by decide) hlist hfewer (concatenate_of_call h) (concatenate_of_call hmembers)

theorem lists_flattened_tags :
    (∀ x ∈ [Value.str "b", .bool true], IsSingle x) ∧
      call .concat [.str "a", .tuple [.str "b", .bool true], .none] [("separator", .str "-")] = .ok (.str "a-b-True") ∧
      call .concat [.str "a", .str "b", .bool true, .none] [("separator", .str "-")] = .ok (.str "a-b-True") ∧
      (∀ x ∈ [Value.str "b", .none], IsSingle x) ∧
      call .concat [.str "a", .list [.str "b", .none]] [] = .ok (.str "abNone") ∧
      call .concat [.str "a", .str "b", .none] [] ≠ .ok (.str "abNone") := by
  have htext : IsSingle (.str "b") := fun _ => ⟨nofun, nofun⟩
  have hpresent : ∀ x ∈ [Value.str "b", .bool true], IsSingle x :=
    List.forall_mem_cons.mpr ⟨htext, List.forall_mem_singleton.mpr fun _ => ⟨nofun, nofun⟩⟩
  have habsent : ∀ x ∈ [Value.str "b", .none], IsSingle x :=
    List.forall_mem_cons.mpr ⟨htext, List.forall_mem_singleton.mpr fun _ => ⟨nofun, nofun⟩⟩
  have htuple : call .concat [.str "a", .tuple [.str "b", .bool true], .none] [("separator", .str "-")] =
      .ok (.str "a-b-True") := rfl
  have hlist : call .concat [.str "a", .list [.str "b", .none]] [] = .ok (.str "abNone") := rfl
  obtain ⟨hmembers, -, -⟩ := lists_flattened (.inr rfl) hpresent [.str "a"] [.none] [("separator", .str "-")]
  obtain ⟨-, -, hexactly⟩ := lists_flattened (.inl rfl) habsent [.str "a"] [] []
  refine ⟨hpresent, htuple, (hmembers (by simp)).symm.trans htuple, habsent, hlist, fun hsame => ?_⟩
  exact (hexactly _ hlist).mp hsame (by simp)

/-- An absent member of a list is written out, while an absent value has no text. -/
theorem absent_member_written :
    call .concat [.list [.str "a", .none, .str "b"]] [] = .ok (.str "aNoneb") ∧
      call .concat [.str "a", .none, .str "b"] [] = .ok (.str "ab") :=
  ⟨rfl, rfl⟩

end Stencil.Helper
