import Mathlib.Data.List.Flatten
import Mathlib.Data.List.TakeWhile
import Stencil.Text.Pieces

namespace Stencil.Text

/-!
# What trimming and cutting leave

* `trimOf_of_not`, `exists_padding`, `trimOf_padded` — what is cut off at the ends of a text, for any class of
  characters;
* `trim_eq_nil`, `trim_padded` — nothing is left of a text of blanks, and blanks around a trimmed text are cut off;
* `isTrimmed_trim` — no blanks are left at the ends;
* `length_splitAtChar`, `mem_of_mem_splitAtChar` — the number of pieces, and what they are made of;
* `joined_ne_of_sublist` — more pieces make another text;
* `splitAtChar_of_not_mem`, `cut_of_not_mem`, `cut_eq_self` — texts without the separator;
* `splitAtChar_join`, `join_splitAtChar` — pieces that were joined are cut apart again, and the other way round.
-/

/-! ### Trimming -/

section Trimming

variable {p : Char → Bool} {s : List Char}

theorem dropWhile_of_not (h : ∀ c ∈ s, p c = false) : s.dropWhile p = s := by
  rw [List.dropWhile_eq_self_iff]
  intro hl
  simp [h _ (List.getElem_mem hl)]

/-- A text without characters of a class at its ends is not trimmed of the class. -/
theorem trimOf_of_not (h : ∀ c ∈ s, p c = false) : trimRightOf p (trimLeftOf p s) = s := by
  have hreverse : ∀ c ∈ s.reverse, p c = false := fun c hc => h c (List.mem_reverse.mp hc)
  rw [trimRightOf, trimLeftOf, dropWhile_of_not h, dropWhile_of_not hreverse, List.reverse_reverse]

theorem trim_of_not_isBlank (h : ∀ c ∈ s, isBlank c = false) : trim s = s :=
  trimOf_of_not h

/-- What is cut off at the ends of a text is of the class. -/
theorem exists_padding (p : Char → Bool) (s : List Char) :
    ∃ before after, s = before ++ trimRightOf p (trimLeftOf p s) ++ after ∧ (∀ c ∈ before, p c = true) ∧
      ∀ c ∈ after, p c = true := by
  have hleft : s = s.takeWhile p ++ trimLeftOf p s := (List.takeWhile_append_dropWhile).symm
  have hright : trimLeftOf p s =
      trimRightOf p (trimLeftOf p s) ++ ((trimLeftOf p s).reverse.takeWhile p).reverse := by
    rw [trimRightOf, ← List.reverse_append, List.takeWhile_append_dropWhile, List.reverse_reverse]
  refine ⟨s.takeWhile p, ((trimLeftOf p s).reverse.takeWhile p).reverse, ?_, fun c hc => List.mem_takeWhile_imp hc,
    fun c hc => List.mem_takeWhile_imp (List.mem_reverse.mp hc)⟩
  rw [List.append_assoc, ← hright, ← hleft]

/-- Nothing else is cut off. -/
theorem trimOf_padded {before core after : List Char} (hbefore : ∀ c ∈ before, p c = true)
    (hafter : ∀ c ∈ after, p c = true) (hhead : ∃ c rest, core = c :: rest ∧ p c = false)
    (hlast : ∃ front c, core = front ++ [c] ∧ p c = false) :
    trimRightOf p (trimLeftOf p (before ++ core ++ after)) = core := by
  have hleft : trimLeftOf p (before ++ core ++ after) = core ++ after := by
    obtain ⟨c, rest, rfl, hc⟩ := hhead
    rw [trimLeftOf, List.append_assoc, List.dropWhile_append_of_pos hbefore, List.cons_append,
      List.dropWhile_cons_of_neg (by simp [hc])]
  obtain ⟨front, c, rfl, hc⟩ := hlast
  have hreverse : ∀ c ∈ after.reverse, p c = true := fun c hc => hafter c (List.mem_reverse.mp hc)
  rw [hleft, trimRightOf, List.reverse_append, List.dropWhile_append_of_pos hreverse, List.reverse_append,
    List.reverse_singleton, List.singleton_append, List.dropWhile_cons_of_neg (by simp [hc]), List.reverse_cons,
    List.reverse_reverse]

end Trimming

/-- Nothing is left of a text exactly if it has only blanks. -/
theorem trim_eq_nil {s : List Char} : trim s = [] ↔ ∀ c ∈ s, isBlank c = true := by
  constructor
  · intro h
    have hleft : ∀ c ∈ s.dropWhile isBlank, isBlank c = true := by
      intro c hc
      have hreverse : (s.dropWhile isBlank).reverse.dropWhile isBlank = [] := List.reverse_eq_nil_iff.mp h
      exact List.dropWhile_eq_nil_iff.mp hreverse c (List.mem_reverse.mpr hc)
    intro c hc
    rw [← List.takeWhile_append_dropWhile (p := isBlank) (l := s), List.mem_append] at hc
    exact hc.elim (fun hc => List.mem_takeWhile_imp hc) (hleft c)
  · intro h
    rw [trim, trimLeft, trimLeftOf, List.dropWhile_eq_nil_iff.mpr h]
    rfl

/-- Whether trimming changes a text can be seen from its ends. -/
theorem isTrimmed_iff {s : List Char} :
    IsTrimmed s ↔ (s.head?.all (!isBlank ·) && s.getLast?.all (!isBlank ·)) = true := by
  simp [IsTrimmed, Option.all_eq_true]

/-- Blanks around a trimmed text are cut off, and nothing else is. -/
theorem trim_padded {before core after : List Char} (hbefore : ∀ c ∈ before, isBlank c = true)
    (hafter : ∀ c ∈ after, isBlank c = true) (h : IsTrimmed core) : trim (before ++ core ++ after) = core := by
  obtain ⟨hhead, hlast⟩ := h
  cases core with
  | nil =>
    rw [List.append_nil, trim_eq_nil, List.forall_mem_append]
    exact ⟨hbefore, hafter⟩
  | cons c rest =>
    have hne : c :: rest ≠ [] := List.cons_ne_nil c rest
    exact trimOf_padded hbefore hafter ⟨c, rest, rfl, hhead c rfl⟩
      ⟨(c :: rest).dropLast, (c :: rest).getLast hne, (List.dropLast_concat_getLast hne).symm,
        hlast _ (List.getLast?_eq_some_getLast hne)⟩

theorem trimRightOf_prefix (p : Char → Bool) (s : List Char) : trimRightOf p s <+: s := by
  have hsuffix : s.reverse.dropWhile p <:+ s.reverse := List.dropWhile_suffix p
  simpa [trimRightOf] using List.reverse_prefix.mpr hsuffix

/-- No blanks are left at the ends of a text that has been trimmed. -/
theorem isTrimmed_trim (s : List Char) : IsTrimmed (trim s) := by
  have hfirst : ∀ {l : List Char} {c : Char}, (l.dropWhile isBlank).head? = some c → isBlank c = false := by
    intro l c hc
    have hnot := List.head?_dropWhile_not isBlank l
    rwa [hc] at hnot
  constructor
  · -- What trimming leaves at the right end starts as the text before it does.
    intro c hc
    obtain ⟨after, hafter⟩ := trimRightOf_prefix isBlank (trimLeft s)
    have hhead : (trimLeft s).head? = some c := by
      rw [← hafter, List.head?_append, ← trimRight, ← trim, Option.mem_def.mp hc, Option.some_or]
    exact hfirst hhead
  · intro c hc
    rw [trim, trimRight, trimRightOf, List.getLast?_reverse] at hc
    exact hfirst hc

/-! ### Pieces -/

theorem splitAtChar_ne_nil (sep : Char) (s : List Char) : splitAtChar sep s ≠ [] := by
  cases s with
  | nil => simp [splitAtChar]
  | cons c s =>
    rw [splitAtChar]
    split
    · simp
    · split <;> simp

/-- There is one more piece than there are separators. -/
theorem length_splitAtChar (sep : Char) (s : List Char) : (splitAtChar sep s).length = s.count sep + 1 := by
  induction s with
  | nil => rfl
  | cons c s ih =>
    rw [splitAtChar]
    by_cases hc : c = sep
    · rw [if_pos hc, hc, List.length_cons, ih, List.count_cons_self]
    · rw [if_neg hc, List.count_cons_of_ne hc, ← ih]
      cases hs : splitAtChar sep s with
      | nil => exact absurd hs (splitAtChar_ne_nil sep s)
      | cons piece pieces => rfl

/-- The pieces are made of what stands between the separators. -/
theorem mem_of_mem_splitAtChar {sep : Char} {s piece : List Char} (h : piece ∈ splitAtChar sep s) :
    ∀ c ∈ piece, c ∈ s ∧ c ≠ sep := by
  induction s generalizing piece with
  | nil =>
    obtain rfl := List.mem_singleton.mp h
    simp
  | cons a s ih =>
    have hlater : ∀ p ∈ splitAtChar sep s, ∀ c ∈ p, c ∈ a :: s ∧ c ≠ sep := fun p hp c hc =>
      (ih hp c hc).imp_left (List.mem_cons_of_mem a)
    rw [splitAtChar] at h
    by_cases ha : a = sep
    · rw [if_pos ha] at h
      rcases List.mem_cons.mp h with rfl | h
      · simp
      · exact hlater piece h
    · rw [if_neg ha] at h
      cases hs : splitAtChar sep s with
      | nil => exact absurd hs (splitAtChar_ne_nil sep s)
      | cons first pieces =>
        rw [hs] at h hlater
        rcases List.mem_cons.mp h with rfl | h
        · -- The first piece has the first character in front.
          intro c hc
          rcases List.mem_cons.mp hc with rfl | hc
          · exact ⟨List.mem_cons_self, ha⟩
          · exact hlater first List.mem_cons_self c hc
        · exact hlater piece (List.mem_cons_of_mem _ h)

theorem splitAtChar_of_not_mem {sep : Char} {s : List Char} (h : sep ∉ s) : splitAtChar sep s = [s] := by
  induction s with
  | nil => rfl
  | cons c s ih =>
    rw [List.mem_cons, not_or] at h
    rw [splitAtChar, if_neg (Ne.symm h.1), ih h.2]

theorem splitAtChar_append_cons {sep : Char} {s : List Char} (h : sep ∉ s) (rest : List Char) :
    splitAtChar sep (s ++ sep :: rest) = s :: splitAtChar sep rest := by
  induction s with
  | nil => rw [List.nil_append, splitAtChar, if_pos rfl]
  | cons c s ih =>
    rw [List.mem_cons, not_or] at h
    rw [List.cons_append, splitAtChar, if_neg (Ne.symm h.1), ih h.2]

theorem join_cons_cons (sep piece next : List Char) (pieces : List (List Char)) :
    join sep (piece :: next :: pieces) = piece ++ sep ++ join sep (next :: pieces) :=
  rfl

/-- Pieces without the separator are cut apart again. -/
theorem splitAtChar_join {sep : Char} {pieces : List (List Char)} (hne : pieces ≠ [])
    (h : ∀ piece ∈ pieces, sep ∉ piece) : splitAtChar sep (join [sep] pieces) = pieces := by
  induction pieces with
  | nil => exact absurd rfl hne
  | cons piece pieces ih =>
    obtain ⟨hpiece, hpieces⟩ := List.forall_mem_cons.mp h
    cases pieces with
    | nil => exact splitAtChar_of_not_mem hpiece
    | cons next pieces =>
      rw [join_cons_cons, List.append_assoc, List.singleton_append, splitAtChar_append_cons hpiece,
        ih (by simp) hpieces]

theorem join_cons_chars (sep : List Char) (c : Char) (piece : List Char) (pieces : List (List Char)) :
    join sep ((c :: piece) :: pieces) = c :: join sep (piece :: pieces) := by
  cases pieces <;> rfl

/-- What was cut apart is joined again. -/
theorem join_splitAtChar (sep : Char) (s : List Char) : join [sep] (splitAtChar sep s) = s := by
  induction s with
  | nil => rfl
  | cons c s ih =>
    rw [splitAtChar]
    cases hs : splitAtChar sep s with
    | nil => exact absurd hs (splitAtChar_ne_nil sep s)
    | cons piece pieces =>
      rw [hs] at ih
      by_cases hc : c = sep
      · rw [if_pos hc, join_cons_cons, ih, hc]
        rfl
      · rw [if_neg hc, join_cons_chars, ih]

theorem mem_join {sep : List Char} {pieces : List (List Char)} {c : Char} (h : c ∈ join sep pieces) :
    c ∈ sep ∨ ∃ piece ∈ pieces, c ∈ piece := by
  induction pieces with
  | nil => cases h
  | cons piece pieces ih =>
    cases pieces with
    | nil => exact .inr ⟨piece, List.mem_singleton_self _, h⟩
    | cons next pieces =>
      rw [join_cons_cons, List.mem_append, List.mem_append] at h
      rcases h with (h | h) | h
      · exact .inr ⟨piece, List.mem_cons_self, h⟩
      · exact .inl h
      · exact (ih h).imp_right fun ⟨p, hp, hc⟩ => ⟨p, List.mem_cons_of_mem _ hp, hc⟩

/-- A joined text is as long as its pieces, and as the separators between them. -/
theorem length_join (sep : List Char) (pieces : List (List Char)) :
    (join sep pieces).length = pieces.flatten.length + (pieces.length - 1) * sep.length := by
  induction pieces with
  | nil => simp [join]
  | cons piece pieces ih =>
    cases pieces with
    | nil => simp [join]
    | cons next pieces =>
      rw [join_cons_cons, List.length_append, List.length_append, ih, List.flatten_cons (l := piece), List.length_append]
      simp only [List.length_cons, Nat.add_sub_cancel, Nat.succ_mul]
      omega

/-- One more piece that is not empty makes a joined text longer. -/
theorem joined_ne_of_sublist {sep piece : String} {fewer front back : List String} (hne : piece ≠ "")
    (h : fewer.Sublist (front ++ back)) : joined sep fewer ≠ joined sep (front ++ piece :: back) := by
  intro heq
  have hlength := congrArg (fun s => s.toList.length) heq
  have hpiece : 0 < piece.toList.length := List.length_pos_iff.mpr (mt String.toList_eq_nil_iff.mp hne)
  have hchars := (h.map String.toList).flatten.length_le
  have hseparators : (fewer.length - 1) * sep.toList.length ≤ (front.length + back.length) * sep.toList.length := by
    refine Nat.mul_le_mul_right _ ((Nat.sub_le _ _).trans ?_)
    rw [← List.length_append]
    exact h.length_le
  simp only [joined, String.toList_ofList, length_join, List.length_map, List.map_append, List.map_cons,
    List.flatten_append, List.flatten_cons, List.length_append, List.length_cons, ← Nat.add_assoc,
    Nat.add_sub_cancel] at hlength hchars
  omega

theorem map_join (f : Char → Char) (sep : List Char) (pieces : List (List Char)) :
    (join sep pieces).map f = join (sep.map f) (pieces.map (List.map f)) := by
  induction pieces with
  | nil => rfl
  | cons piece pieces ih =>
    cases pieces with
    | nil => rfl
    | cons next pieces =>
      simp only [join_cons_cons, List.map_cons, List.map_append] at ih ⊢
      rw [ih]

theorem cut_of_not_mem {sep : Char} {s : List Char} (h : sep ∉ s) (rest : List Char) :
    cut sep (s ++ sep :: rest) = (s, some rest) := by
  induction s with
  | nil => simp [cut]
  | cons c s ih =>
    rw [List.mem_cons, not_or] at h
    rw [List.cons_append, cut, if_neg (Ne.symm h.1), ih h.2]

theorem cut_eq_self {sep : Char} {s : List Char} (h : sep ∉ s) : cut sep s = (s, none) := by
  induction s with
  | nil => rfl
  | cons c s ih =>
    rw [List.mem_cons, not_or] at h
    rw [cut, if_neg (Ne.symm h.1), ih h.2]

end Stencil.Text
