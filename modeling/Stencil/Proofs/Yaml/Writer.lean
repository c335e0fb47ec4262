import Stencil.Yaml.Writer

namespace Stencil.Yaml

/-!
# Written documents have no carriage returns

A carriage return does not survive a text file, where it reads as a line feed. Documents are safe from this: a text
with a carriage return is written in double quotes, where it has an escape, and no layout makes use of one.

* `Page.Clean` — no carriage return has been written;
* `clean_writeText` — texts keep the page clean, whatever their style;
* `return_not_mem_write` — documents have no carriage returns.
-/

/-- No carriage return has been written. -/
def Page.Clean (p : Page) : Prop :=
  '\r' ∉ p.reversed

/-! ### Layout -/

namespace Page

variable {p : Page}

theorem Clean.put {s : List Char} (h : p.Clean) (hs : '\r' ∉ s) : (p.put s).Clean := by
  simp only [Clean, Page.put, List.mem_append, List.mem_reverse, not_or]
  exact ⟨hs, h⟩

theorem Clean.newline {c : Char} (h : p.Clean) (hc : c ≠ '\r') : (p.newline c).Clean := by
  simp only [Clean, Page.newline, List.mem_cons, not_or]
  exact ⟨Ne.symm hc, h⟩

theorem Clean.indentTo (h : p.Clean) (indent : Nat) : (p.indentTo indent).Clean := by
  -- At most a new line is started, and then at most spaces are put on it.
  have hspaces : ∀ q : Page, q.Clean →
      (if q.column < indent then { q.put (List.replicate (indent - q.column) ' ') with whitespace := true }
        else q).Clean := fun q hq => by
    split
    · exact hq.put fun hmem => absurd (List.eq_of_mem_replicate hmem) (by decide)
    · exact hq
  unfold Page.indentTo
  split
  · exact hspaces _ (h.newline (by decide))
  · exact hspaces _ h

theorem Clean.indicator {s : List Char} (h : p.Clean) (hs : '\r' ∉ s) (spaced keeps : Bool) :
    (p.indicator s spaced keeps).Clean := by
  refine h.put ?_
  split
  · exact hs
  · simpa using hs

end Page

/-! ### Texts -/

/-- The characters of runs are characters of the text. -/
theorem mem_of_mem_runs {same : Char → Char → Bool} {s run : List Char} (hrun : run ∈ runs same s) {c : Char}
    (hc : c ∈ run) : c ∈ s := by
  induction s generalizing run with
  | nil => simp [runs] at hrun
  | cons d s ih =>
    have hrest : ∀ run ∈ runs same s, c ∈ run → c ∈ d :: s := fun run hr hc => List.mem_cons_of_mem _ (ih hr hc)
    -- A character starts a run of its own, or is put in front of the first one.
    unfold runs at hrun
    split at hrun
    · obtain rfl := List.mem_singleton.mp hrun
      exact List.mem_cons.mpr (.inl (List.mem_singleton.mp hc))
    · rename_i more heq
      rcases List.mem_cons.mp hrun with rfl | hmore
      · exact List.mem_cons.mpr (.inl (List.mem_singleton.mp hc))
      · exact hrest run (heq ▸ List.mem_cons_of_mem _ hmore) hc
    · rename_i e first more heq
      split at hrun
      · rcases List.mem_cons.mp hrun with rfl | hmore
        · rcases List.mem_cons.mp hc with rfl | hc
          · exact List.mem_cons_self
          · exact hrest (e :: first) (heq ▸ List.mem_cons_self) hc
        · exact hrest run (heq ▸ List.mem_cons_of_mem _ hmore) hc
      · rcases List.mem_cons.mp hrun with rfl | hmore
        · exact List.mem_cons.mpr (.inl (List.mem_singleton.mp hc))
        · exact hrest run (heq ▸ hmore) hc

variable {p : Page} {s : List Char}

theorem clean_writePlain (h : p.Clean) (hs : '\r' ∉ s) (indent : Nat) (split : Bool) :
    (writePlain indent split s p).Clean := by
  unfold writePlain
  split
  · exact h
  · refine List.foldlRecOn (motive := Page.Clean) _ _ ?_ fun q hq run hrun => ?_
    · split
      · exact h
      · exact h.put (by decide)
    · split
      · exact hq.indentTo _
      · exact hq.put fun hc => hs (mem_of_mem_runs hrun hc)

theorem clean_writeSingle (h : p.Clean) (hs : '\r' ∉ s) (indent : Nat) (split : Bool) :
    (writeSingle indent split s p).Clean := by
  unfold writeSingle
  refine Page.Clean.indicator ?_ (by decide) _ _
  refine List.foldlRecOn (motive := fun q : Page × Nat => q.1.Clean) _ _ (h.indicator (by decide) _ _)
    fun q hq run hrun => ?_
  have hrun : '\r' ∉ run := fun hc => hs (mem_of_mem_runs hrun hc)
  have hbreaks : ∀ q : Page, q.Clean → (run.foldl (fun q c => q.newline c) q).Clean := fun q hq =>
    List.foldlRecOn (motive := Page.Clean) _ _ hq fun q hq c hc => hq.newline fun he => hrun (he ▸ hc)
  -- A run is made of line ends, of spaces or of other characters, and a single space may become a line end.
  obtain ⟨q, i⟩ := q
  cases run with
  | nil => exact hq
  | cons c run =>
    simp only
    split
    · refine Page.Clean.indentTo (hbreaks _ ?_) _
      split
      · exact hq.newline (by decide)
      · exact hq
    · split
      · exact hq.indentTo _
      · split
        · exact hq.put hrun
        · refine hq.put fun hc => ?_
          -- A quote is written twice, and any other character as it is.
          obtain ⟨d, hd, hc⟩ := List.mem_flatMap.mp hc
          split at hc
          · revert hc
            decide
          · obtain rfl := List.mem_singleton.mp hc
            exact hrun hd

theorem toUpper_hexDigit_ne {n : Nat} (h : n < 16) : (Text.hexDigit n).toUpper ≠ '\r' := by
  have hall : ∀ d : Fin 16, (Text.hexDigit d).toUpper ≠ '\r' := by decide
  exact hall ⟨n, h⟩

theorem return_not_mem_upperHex (width n : Nat) : '\r' ∉ upperHex width n := by
  induction width generalizing n with
  | zero => simp [upperHex, Text.hexDigits]
  | succ width ih =>
    intro hmem
    rw [upperHex, Text.hexDigits, List.map_append, List.mem_append] at hmem
    rcases hmem with hmem | hmem
    · exact ih _ hmem
    · exact toUpper_hexDigit_ne (Nat.mod_lt n (by decide)) (List.mem_singleton.mp hmem).symm

theorem return_not_mem_escape (c : Char) : '\r' ∉ escape c := by
  unfold escape
  split
  · rename_i e he
    have hletters : ∀ x ∈ escapeLetters, '\r' ∉ ['\\', x.2] := by decide
    obtain ⟨before, after, hsplit, -⟩ := List.lookup_eq_some_iff.mp he
    exact hletters (c, e) (hsplit ▸ List.mem_append_right _ List.mem_cons_self)
  · split
    · simpa using return_not_mem_upperHex _ _
    · split <;> simpa using return_not_mem_upperHex _ _

theorem clean_foldDouble (h : p.Clean) (indent : Nat) (next : Option Char) : (foldDouble indent next p).Clean := by
  have hline : ((p.put ['\\']).indentTo indent).Clean := (h.put (by decide)).indentTo indent
  unfold foldDouble
  split
  · exact Page.Clean.put hline (by decide)
  · exact hline

theorem clean_writeDoubleChars (h : p.Clean) (unicode : Bool) (indent : Nat) (split first : Bool) {pending : List Char}
    (hpending : '\r' ∉ pending) (s : List Char) :
    (writeDoubleChars unicode indent split first pending s p).Clean := by
  induction s generalizing first pending p with
  | nil => exact h.put (by simpa using hpending)
  | cons c s ih =>
    have hwritten : (p.put pending.reverse).Clean := h.put (by simpa using hpending)
    unfold writeDoubleChars
    -- A carriage return is never written as it is: it is one of the characters that are escaped.
    by_cases hv : isVerbatim unicode c = true
    · have hc : '\r' ≠ c := by
        rintro rfl
        cases unicode <;> revert hv <;> decide
      rw [if_pos hv]
      split
      · exact ih (clean_foldDouble hwritten _ _) _ (by simpa using hc)
      · refine ih h _ fun hmem => ?_
        exact (List.mem_cons.mp hmem).elim hc hpending
    · have hescaped := hwritten.put (return_not_mem_escape c)
      rw [if_neg hv]
      refine ih ?_ _ (by simp)
      split
      · exact clean_foldDouble hescaped _ _
      · exact hescaped

theorem clean_writeDouble (h : p.Clean) (unicode : Bool) (indent : Nat) (split : Bool) (s : List Char) :
    (writeDouble unicode indent split s p).Clean :=
  (clean_writeDoubleChars (h.indicator (by decide) _ _) _ _ _ _ (by simp) s).indicator (by decide) _ _

theorem isSpecial_return (unicode : Bool) : isSpecial unicode '\r' = true := by
  cases unicode <;> decide

/-- With a carriage return, a text is written in double quotes. -/
theorem return_not_mem_of_styleOf {unicode isKey : Bool} (h : styleOf unicode isKey s ≠ .double) : '\r' ∉ s := by
  intro hmem
  have hspecial : s.any (isSpecial unicode) = true := List.any_eq_true.mpr ⟨_, hmem, isSpecial_return _⟩
  have hempty : s.isEmpty = false := List.isEmpty_eq_false_iff.mpr (List.ne_nil_of_mem hmem)
  have hplain : allowsPlain unicode s = false := by
    rw [allowsPlain, hspecial, hempty]
    simp
  have hsingle : allowsSingle unicode s = false := by
    rw [allowsSingle, hspecial]
    rfl
  exact h (by simp [styleOf, hplain, hsingle])

/-- A text keeps the page clean, whatever its style. -/
theorem clean_writeText (h : p.Clean) (unicode isKey : Bool) (indent : Option Nat) (s : List Char) :
    (writeText unicode isKey indent s p).Clean := by
  unfold writeText
  cases hstyle : styleOf unicode isKey s with
  | plain => exact clean_writePlain h (return_not_mem_of_styleOf (by rw [hstyle]; decide)) _ _
  | single => exact clean_writeSingle h (return_not_mem_of_styleOf (by rw [hstyle]; decide)) _ _
  | double => exact clean_writeDouble h _ _ _ _

/-! ### Documents -/

theorem clean_writeKey (h : p.Clean) (unicode : Bool) (indent : Nat) (s : List Char) :
    (writeKey unicode indent s p).Clean := by
  unfold writeKey
  split
  · exact (clean_writeText (h.indentTo _) _ _ _ _).indicator (by decide) _ _
  · exact ((clean_writeText ((h.indentTo _).indicator (by decide) _ _) _ _ _ _).indentTo _).indicator (by decide) _ _

mutual

theorem clean_writeNode (unicode : Bool) (indent : Option Nat) (inMap : Bool) (t : Tree) (p : Page) (h : p.Clean) :
    (writeNode unicode indent inMap t p).Clean := by
  cases t with
  | text s => exact clean_writeText h _ _ _ _
  | bool b => exact clean_writePlain h (by cases b <;> decide) _ _
  | seq items =>
    cases items with
    | nil => exact h.indicator (by decide) _ _
    | cons x xs =>
      exact clean_writeItems _ _ xs _ (clean_writeNode _ _ _ x _ ((h.indentTo _).indicator (by decide) _ _))
  | map pairs =>
    cases pairs with
    | nil => exact h.indicator (by decide) _ _
    | cons e rest =>
      obtain ⟨k, v⟩ := e
      exact clean_writePairs _ _ rest _ (clean_writeNode _ _ _ v _ (clean_writeKey h _ _ _))

theorem clean_writeItems (unicode : Bool) (here : Nat) (xs : List Tree) (p : Page) (h : p.Clean) :
    (writeItems unicode here xs p).Clean := by
  cases xs with
  | nil => exact h
  | cons x xs =>
    exact clean_writeItems _ _ xs _ (clean_writeNode _ _ _ x _ ((h.indentTo _).indicator (by decide) _ _))

theorem clean_writePairs (unicode : Bool) (here : Nat) (ps : List (String × Tree)) (p : Page) (h : p.Clean) :
    (writePairs unicode here ps p).Clean := by
  cases ps with
  | nil => exact h
  | cons e rest =>
    obtain ⟨k, v⟩ := e
    exact clean_writePairs _ _ rest _ (clean_writeNode _ _ _ v _ (clean_writeKey h _ _ _))

end

/-- **Written documents have no carriage returns.** -/
theorem return_not_mem_write (unicode : Bool) (t : Tree) : '\r' ∉ (write unicode t).toList := by
  have hclean : Page.Clean {} := by simp [Page.Clean]
  have hpage := (clean_writeNode unicode none false t {} hclean).indentTo 0
  rw [write, String.toList_ofList, List.mem_reverse]
  exact hpage

end Stencil.Yaml
