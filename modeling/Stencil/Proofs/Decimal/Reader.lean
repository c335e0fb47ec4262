import Mathlib.Algebra.Group.Nat.Defs
import Stencil.Decimal.Reader
import Stencil.Proofs.Text.Pieces

namespace Stencil

/-!
# Reading numbers

Numbers are read as they are written, and texts are integers by a grammar that does not say how they are read: digits
of any script, single underscores between them, a sign in front, and blanks around it all.

* `Decimal.readInt?_toDigits` — the text of a number reads as the number;
* `Decimal.readBounded?_toString_iff` — so it does where lengths are bounded, unless it is too long;
* `Decimal.Grouped`, `Decimal.Signed`, `Decimal.IsNumeral` — the grammar of integers;
* `Decimal.readInt?_eq_some`, `Decimal.readBounded?_eq_some` — a text reads as a number exactly if the grammar gives it
  this number.
-/

namespace Decimal

open Text

variable {s : List Char} {c : Char}

/-! ### Digits -/

theorem toNat_of_isDigit (h : c.isDigit = true) : 48 ≤ c.toNat ∧ c.toNat ≤ 57 :=
  Char.isDigit_iff_toNat.mp h

theorem ne_of_isDigit {other : Char} (h : c.isDigit = true) (ho : other.isDigit = false) : c ≠ other := by
  rintro rfl
  rw [h] at ho
  cases ho

theorem isBlank_of_isDigit (h : c.isDigit = true) : isBlank c = false := by
  obtain ⟨hlow, hhigh⟩ := toNat_of_isDigit h
  simp [isBlank]
  omega

theorem isDecimal_of_isDigit (h : c.isDigit = true) : isDecimal c = true := by
  obtain ⟨-, hhigh⟩ := toNat_of_isDigit h
  rw [isDecimal, if_pos (by omega), h]

theorem digitValue?_of_isDigit (h : c.isDigit = true) : digitValue? 10 c = some (c.toNat - 48) := by
  obtain ⟨-, hhigh⟩ := toNat_of_isDigit h
  have hbelow : c.toNat - 48 < 10 := by omega
  simp [digitValue?, isDecimal_of_isDigit h, decimalValue, h, Option.filter, hbelow]

/-! ### Runs of digits -/

theorem groupedDigits?_of_isDigit (hne : s ≠ []) (h : ∀ c ∈ s, c.isDigit = true) :
    groupedDigits? 10 s = some (s.map fun c => c.toNat - 48) := by
  induction s with
  | nil => exact absurd rfl hne
  | cons c s ih =>
    rw [List.forall_mem_cons] at h
    cases s with
    | nil => simp [groupedDigits?, digitValue?_of_isDigit h.1]
    | cons d s =>
      have hd : d ≠ '_' := ne_of_isDigit (h.2 d List.mem_cons_self) rfl
      have hrest := ih (List.cons_ne_nil d s) h.2
      rw [groupedDigits?.eq_4 _ _ _ (by simp) (by simpa using hd), digitValue?_of_isDigit h.1, hrest]
      rfl

theorem splitSign_of_isDigit (h : ∀ c ∈ s, c.isDigit = true) : splitSign s = (false, s) := by
  cases s with
  | nil => rfl
  | cons c s =>
    have hc := h c List.mem_cons_self
    have hminus : c ≠ '-' := ne_of_isDigit hc rfl
    have hplus : c ≠ '+' := ne_of_isDigit hc rfl
    unfold splitSign
    split <;> simp_all

theorem ofDigits_map (s : List Char) : ofDigits 10 (s.map fun c => c.toNat - 48) = Nat.ofDigitChars 10 s 0 := by
  rw [ofDigits, List.foldl_map, Nat.ofDigitChars_eq_foldl]
  rfl

/-! ### Texts of numbers -/

theorem isDigit_of_mem_toDigits {n : Nat} : ∀ c ∈ Nat.toDigits 10 n, c.isDigit = true :=
  fun _ hc => Nat.isDigit_of_mem_toDigits (by decide) (by decide) hc

theorem trim_toDigits (n : Nat) : trim (Nat.toDigits 10 n) = Nat.toDigits 10 n :=
  trim_of_not_isBlank fun c hc => isBlank_of_isDigit (isDigit_of_mem_toDigits c hc)

theorem unpadded_toDigits (n : Nat) : unpadded (Nat.toDigits 10 n) = Nat.toDigits 10 n :=
  trimOf_of_not fun c hc => by rw [mayPad, isBlank_of_isDigit (isDigit_of_mem_toDigits c hc), Bool.false_and]

theorem toList_toString (n : Nat) : (toString n).toList = Nat.toDigits 10 n := by
  rw [Nat.toString_eq_ofList_toDigits, String.toList_ofList]

/-- The text of a number reads as the number. -/
theorem readInt?_toDigits (n : Nat) : readInt? (Nat.toDigits 10 n) = some (n : Int) := by
  rw [readInt?, readIntIn?, unpadded_toDigits, splitSign_of_isDigit isDigit_of_mem_toDigits]
  simp [groupedDigits?_of_isDigit Nat.toDigits_ne_nil isDigit_of_mem_toDigits, ofDigits_map]

/-- The text of a number reads as the number where lengths are bounded, unless it is too long. -/
theorem readBounded?_toString_iff {n : Nat} :
    readBounded? (toString n).toList = some (n : Int) ↔ n < 10 ^ maxDigits := by
  have hcount : (Nat.toDigits 10 n).countP isDecimal = (Nat.toDigits 10 n).length :=
    List.countP_eq_length.mpr fun c hc => isDecimal_of_isDigit (isDigit_of_mem_toDigits c hc)
  have hlength : (Nat.toDigits 10 n).length ≤ maxDigits ↔ n < 10 ^ maxDigits :=
    Nat.length_toDigits_le_iff (by decide) (by decide)
  rw [toList_toString, readBounded?, hcount, readInt?_toDigits, ← hlength]
  by_cases h : maxDigits < (Nat.toDigits 10 n).length
  · simp [h]
  · simp [h]
    omega

/-! ### The grammar -/

/-- A run of digits, with single underscores between them, and the values of the digits. -/
inductive Grouped : List Char → List Nat → Prop where
  | last {c : Char} : isDecimal c = true → Grouped [c] [decimalValue c]
  | next {c : Char} {s : List Char} {ds : List Nat} : isDecimal c = true → Grouped s ds →
    Grouped (c :: s) (decimalValue c :: ds)
  | grouped {c : Char} {s : List Char} {ds : List Nat} : isDecimal c = true → Grouped s ds →
    Grouped (c :: '_' :: s) (decimalValue c :: ds)

/-- A run of digits that may have a sign, and its number. -/
inductive Signed : List Char → Int → Prop where
  | plain {s : List Char} {ds : List Nat} : Grouped s ds → Signed s (ofDigits 10 ds)
  | plus {s : List Char} {ds : List Nat} : Grouped s ds → Signed ('+' :: s) (ofDigits 10 ds)
  | minus {s : List Char} {ds : List Nat} : Grouped s ds → Signed ('-' :: s) (-(ofDigits 10 ds : Int))

/-- A text is an integer: a run of digits that may have a sign, with blanks around it. -/
def IsNumeral (s : List Char) (n : Int) : Prop :=
  ∃ before core after, s = before ++ core ++ after ∧ (∀ c ∈ before, mayPad c = true) ∧
    (∀ c ∈ after, mayPad c = true) ∧ Signed core n

/-! ### Grouped digits -/

theorem decimalValue_lt (c : Char) : decimalValue c < 10 := by
  unfold decimalValue
  split
  · have := toNat_of_isDigit ‹_›
    omega
  · split <;> omega

/-- In base ten, the digits are the decimal ones. -/
theorem digitValue?_eq_some {c : Char} {d : Nat} :
    digitValue? 10 c = some d ↔ isDecimal c = true ∧ decimalValue c = d := by
  unfold digitValue?
  by_cases h : isDecimal c = true
  · simp [h, Option.filter, decimalValue_lt]
  · -- The values of letters are too large.
    have hlower : 'a' ≤ c → 97 ≤ c.toNat := id
    have hupper : 'A' ≤ c → 65 ≤ c.toNat := id
    simp only [h, Bool.false_eq_true, if_false, false_and, iff_false]
    split
    · rename_i hc
      simp [Option.filter] at hc ⊢
      have := hlower hc.1
      omega
    · split
      · rename_i hc
        simp [Option.filter] at hc ⊢
        have := hupper hc.1
        omega
      · simp

theorem Grouped.head {s : List Char} {ds : List Nat} (h : Grouped s ds) :
    ∃ c rest, s = c :: rest ∧ isDecimal c = true := by
  cases h with
  | last hc | next hc | grouped hc => exact ⟨_, _, rfl, hc⟩

theorem Grouped.last_digit {s : List Char} {ds : List Nat} (h : Grouped s ds) :
    ∃ front c, s = front ++ [c] ∧ isDecimal c = true := by
  induction h with
  | last hc => exact ⟨[], _, rfl, hc⟩
  | @next c _ _ _ _ ih =>
    obtain ⟨front, d, rfl, hd⟩ := ih
    exact ⟨c :: front, d, rfl, hd⟩
  | @grouped c _ _ _ _ ih =>
    obtain ⟨front, d, rfl, hd⟩ := ih
    exact ⟨c :: '_' :: front, d, rfl, hd⟩

theorem not_grouped_nil {ds : List Nat} : ¬ Grouped [] ds := nofun

theorem not_grouped_underscore {s : List Char} {ds : List Nat} : ¬ Grouped ('_' :: s) ds := fun h => by
  obtain ⟨c, rest, heq, hc⟩ := h.head
  obtain ⟨rfl, -⟩ := List.cons.inj heq
  exact absurd hc (by decide)

theorem groupedDigits?_eq_some {s : List Char} {ds : List Nat} : groupedDigits? 10 s = some ds ↔ Grouped s ds := by
  -- The cases are those of the reader: nothing, a last digit, a digit before an underscore, and any other digit.
  fun_induction groupedDigits? 10 s generalizing ds with
  | case1 => simp [not_grouped_nil]
  | case2 c =>
    simp only [Option.map_eq_some_iff, digitValue?_eq_some]
    constructor
    · rintro ⟨_, ⟨hc, rfl⟩, rfl⟩
      exact .last hc
    · intro h
      cases h with
      | last hc => exact ⟨_, ⟨hc, rfl⟩, rfl⟩
      | next _ h => exact absurd h not_grouped_nil
  | case3 c rest ih =>
    simp only [Option.bind_eq_bind, Option.bind_eq_some_iff, digitValue?_eq_some, ih, Option.pure_def,
      Option.some.injEq]
    constructor
    · rintro ⟨_, ⟨hc, rfl⟩, _, h, rfl⟩
      exact .grouped hc h
    · intro h
      cases h with
      | next _ h => exact absurd h not_grouped_underscore
      | grouped hc h => exact ⟨_, ⟨hc, rfl⟩, _, h, rfl⟩
  | case4 c rest hne hunderscore ih =>
    simp only [Option.bind_eq_bind, Option.bind_eq_some_iff, digitValue?_eq_some, ih, Option.pure_def,
      Option.some.injEq]
    constructor
    · rintro ⟨_, ⟨hc, rfl⟩, _, h, rfl⟩
      exact .next hc h
    · intro h
      cases h with
      | last => exact absurd rfl hne
      | next hc h => exact ⟨_, ⟨hc, rfl⟩, _, h, rfl⟩
      | grouped => exact absurd rfl (hunderscore _)

/-! ### Integers -/

/-- The number of a run of digits that may have a sign, as it is read. -/
def readSigned? (core : List Char) : Option Int :=
  (groupedDigits? 10 (splitSign core).2).map fun ds =>
    if (splitSign core).1 then -(ofDigits 10 ds : Int) else ofDigits 10 ds

theorem readInt?_eq (s : List Char) : readInt? s = readSigned? (unpadded s) := by
  rw [readInt?, readIntIn?, readSigned?]
  rcases splitSign (unpadded s) with ⟨negative, body⟩
  cases h : groupedDigits? 10 body <;> simp [h]

theorem not_grouped_sign {c : Char} {s : List Char} {ds : List Nat} (hc : isDecimal c = false) :
    ¬ Grouped (c :: s) ds :=
  fun h => by
    obtain ⟨d, rest, heq, hd⟩ := h.head
    obtain ⟨rfl, -⟩ := List.cons.inj heq
    exact absurd (hc.symm.trans hd) (by decide)

theorem readSigned?_eq_some {core : List Char} {n : Int} : readSigned? core = some n ↔ Signed core n := by
  simp only [readSigned?, Option.map_eq_some_iff, groupedDigits?_eq_some]
  -- Only one sign is taken off, so what follows it must not have one: digits never start with a sign.
  fun_cases splitSign core with
  | case1 rest =>
    constructor
    · rintro ⟨ds, h, rfl⟩
      exact .minus h
    · intro h
      cases h with
      | plain h => exact absurd h (not_grouped_sign (by decide))
      | minus h => exact ⟨_, h, rfl⟩
  | case2 rest =>
    constructor
    · rintro ⟨ds, h, rfl⟩
      exact .plus h
    · intro h
      cases h with
      | plain h => exact absurd h (not_grouped_sign (by decide))
      | plus h => exact ⟨_, h, rfl⟩
  | case3 s hminus hplus =>
    constructor
    · rintro ⟨ds, h, rfl⟩
      exact .plain h
    · intro h
      cases h with
      | plain h => exact ⟨_, h, rfl⟩
      | plus => exact absurd rfl (hplus _)
      | minus => exact absurd rfl (hminus _)

/-- No digit is a blank. -/
theorem isBlank_of_isDecimal {c : Char} (h : isDecimal c = true) : isBlank c = false := by
  by_cases hc : c.toNat < 128
  · exact isBlank_of_isDigit (by simpa [isDecimal, hc] using h)
  · rw [isDecimal, if_neg hc, inRanges, ← Array.any_toList] at h
    obtain ⟨⟨low, high⟩, hmem, hrange⟩ := List.any_eq_true.mp h
    simp only [Bool.and_eq_true, decide_eq_true_eq] at hrange
    -- The ranges of digits lie between the blanks.
    have hbetween : ∀ r ∈ decimalRanges.toList, (0xA0 < r.1 ∧ r.2 < 0x1680) ∨ (0x1680 < r.1 ∧ r.2 < 0x2000) ∨
        0x3000 < r.1 := by decide
    have := hbetween _ hmem
    simp [isBlank]
    omega

theorem mayPad_of_isDecimal {c : Char} (h : isDecimal c = true) : mayPad c = false := by
  rw [mayPad, isBlank_of_isDecimal h, Bool.false_and]

/-- Neither the sign nor a digit pads a number. -/
theorem Signed.ends {core : List Char} {n : Int} (h : Signed core n) :
    (∃ c rest, core = c :: rest ∧ mayPad c = false) ∧ ∃ front c, core = front ++ [c] ∧ mayPad c = false := by
  have hlast : ∀ {s : List Char} {ds : List Nat}, Grouped s ds → ∃ front c, s = front ++ [c] ∧ mayPad c = false :=
    fun h => by
      obtain ⟨front, c, heq, hc⟩ := h.last_digit
      exact ⟨front, c, heq, mayPad_of_isDecimal hc⟩
  cases h with
  | plain h =>
    obtain ⟨c, rest, heq, hc⟩ := h.head
    exact ⟨⟨c, rest, heq, mayPad_of_isDecimal hc⟩, hlast h⟩
  | plus h | minus h =>
    obtain ⟨front, c, rfl, hc⟩ := hlast h
    exact ⟨⟨_, _, rfl, by decide⟩, _ :: front, c, rfl, hc⟩

/-- What is read is the number that the grammar gives. -/
theorem readInt?_eq_some {s : List Char} {n : Int} : readInt? s = some n ↔ IsNumeral s n := by
  rw [readInt?_eq, readSigned?_eq_some]
  constructor
  · intro h
    obtain ⟨before, after, heq, hbefore, hafter⟩ := exists_padding mayPad s
    exact ⟨before, _, after, heq, hbefore, hafter, h⟩
  · rintro ⟨before, core, after, rfl, hbefore, hafter, h⟩
    obtain ⟨hhead, hlast⟩ := h.ends
    rwa [unpadded, trimOf_padded hbefore hafter hhead hlast]

/-- Where lengths are bounded, a text with more digits is no number. -/
theorem readBounded?_eq_some {s : List Char} {n : Int} :
    readBounded? s = some n ↔ IsNumeral s n ∧ s.countP isDecimal ≤ maxDigits := by
  rw [readBounded?, ← readInt?_eq_some]
  by_cases h : maxDigits < s.countP isDecimal
  · simp [h]
  · simp [h, Nat.not_lt.mp h]

end Decimal

end Stencil
