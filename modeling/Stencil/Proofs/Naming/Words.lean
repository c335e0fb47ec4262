import Mathlib.Data.List.Chain
import Stencil.Naming
import Stencil.Proofs.Text.Pieces

namespace Stencil.Naming

open Text

/-!
# The words of names

A slug is made of words of basic Latin letters and digits. Snake case cuts these words further, at the changes of
case, and leaves words of small letters and digits.

* `Naming.IsRun`, `Naming.IsWord` — words of letters and digits, and those without capitals;
* `Naming.plainLatin_of_isPlain` — a text of letters, digits and separators has nothing to be replaced;
* `Naming.slug_join` — the slug of words with a separator between them;
* `Naming.cutWhere` — underscores at some places of a text, of which both cuts of snake case are cases;
* `Naming.Spaced` — single underscores between words;
* `Naming.exists_words` — every snake case is a list of words with underscores between them.
-/

/-! ### Characters -/

/-- What holds of each of the first 128 characters holds of every basic Latin character. -/
theorem forall_latin {P : Char → Prop} (h : ∀ n < 128, P (Char.ofNat n)) {c : Char} (hc : c.toNat < 128) : P c := by
  have hn := h c.toNat hc
  rwa [Char.ofNat_toNat] at hn

/-- A small letter or a digit. -/
def isSmall (c : Char) : Bool :=
  c.isLower || c.isDigit

/-- A character that separates words. -/
def isSeparator (c : Char) : Bool :=
  c = '_' || c = '-' || c = ' '

/-- A letter, a digit or a separator. -/
def isPlain (c : Char) : Bool :=
  isSlugChar c || isSeparator c

theorem lt_of_isSlugChar {c : Char} (h : isSlugChar c = true) : c.toNat < 128 := by
  have hranges : isSlugChar c = (decide ('A'.val ≤ c.val ∧ c.val ≤ 'Z'.val) ||
      (decide ('a'.val ≤ c.val) && decide (c.val ≤ 'z'.val)) ||
      (decide ('0'.val ≤ c.val) && decide (c.val ≤ '9'.val))) := rfl
  simp only [hranges, Bool.or_eq_true, Bool.and_eq_true, decide_eq_true_eq, UInt32.le_iff_toNat_le] at h
  have hc : c.toNat = c.val.toNat := rfl
  have hz : 'z'.val.toNat = 122 := rfl
  have hZ : 'Z'.val.toNat = 90 := rfl
  have h9 : '9'.val.toNat = 57 := rfl
  omega

theorem lt_of_isPlain {c : Char} (h : isPlain c = true) : c.toNat < 128 := by
  simp only [isPlain, isSeparator, Bool.or_eq_true, decide_eq_true_eq] at h
  rcases h with h | (rfl | rfl) | rfl
  · exact lt_of_isSlugChar h
  all_goals decide

section Small

variable {c : Char} (h : isSmall c = true)
include h

theorem isSlugChar_of_isSmall : isSlugChar c = true := by
  have hclasses : isSlugChar c = (c.isUpper || isSmall c) := Bool.or_assoc _ _ _
  rw [hclasses, h, Bool.or_true]

/-- What holds of each of the first 128 characters that are small letters or digits holds of all of them. -/
theorem forall_small {P : Char → Prop} (hall : ∀ n < 128, isSmall (Char.ofNat n) = true → P (Char.ofNat n)) : P c :=
  forall_latin (P := fun c => isSmall c = true → P c) hall (lt_of_isSlugChar (isSlugChar_of_isSmall h)) h

theorem toLower_of_isSmall : c.toLower = c :=
  forall_small (P := fun c => c.toLower = c) h (by decide)

theorem toLower_toUpper : c.toUpper.toLower = c :=
  forall_small (P := fun c => c.toUpper.toLower = c) h (by decide)

theorem isSlugChar_toUpper : isSlugChar c.toUpper = true :=
  forall_small (P := fun c => isSlugChar c.toUpper = true) h (by decide)

theorem isUpper_toUpper : c.toUpper.isUpper = c.isAlpha :=
  forall_small (P := fun c => c.toUpper.isUpper = c.isAlpha) h (by decide)

theorem isLower_toUpper : c.toUpper.isLower = false :=
  forall_small (P := fun c => c.toUpper.isLower = false) h (by decide)

theorem isSmall_toUpper : isSmall c.toUpper = c.isDigit :=
  forall_small (P := fun c => isSmall c.toUpper = c.isDigit) h (by decide)

theorem not_isUpper_of_isSmall : c.isUpper = false :=
  forall_small (P := fun c => c.isUpper = false) h (by decide)

end Small

theorem not_isSeparator_of_isSlugChar {c : Char} (h : isSlugChar c = true) : isSeparator c = false :=
  forall_latin (P := fun c => isSlugChar c = true → isSeparator c = false) (by decide) (lt_of_isSlugChar h) h

theorem isSmall_toLower {c : Char} (h : isSlugChar c = true) : isSmall c.toLower = true :=
  forall_latin (P := fun c => isSlugChar c = true → isSmall c.toLower = true) (by decide) (lt_of_isSlugChar h) h

theorem ne_underscore {c : Char} (h : isSlugChar c = true) : c ≠ '_' := by
  rintro rfl
  exact absurd h (by decide)

theorem not_isSlugChar_of_isSeparator {c : Char} (h : isSeparator c = true) : isSlugChar c = false := by
  by_contra hc
  rw [not_isSeparator_of_isSlugChar (by simpa using hc)] at h
  cases h

/-! ### Texts in which nothing is replaced -/

theorem hyphenateQuotes_of_not_mem {s : List Char} (h : '\x27' ∉ s) : hyphenateQuotes s = s := by
  induction s with
  | nil => rfl
  | cons c s ih =>
    rw [List.mem_cons, not_or] at h
    unfold hyphenateQuotes
    split <;> simp_all

/-- Nothing is left to decompose in basic Latin. -/
theorem decompose_of_latin {s : List Char} (h : ∀ c ∈ s, c.toNat < 128) : decompose s = s := by
  induction s with
  | nil => rfl
  | cons c s ih =>
    obtain ⟨hc, hs⟩ := List.forall_mem_cons.mp h
    have hchar : decomposeChar c = [c] := by simp [decomposeChar, hc]
    rw [decompose, List.flatMap_cons, hchar]
    exact congrArg (c :: ·) (ih hs)

theorem transliterate_of_latin {s : List Char} (h : ∀ c ∈ s, c.toNat < 128) : transliterate s = s := by
  rw [transliterate, decompose_of_latin h]
  induction s with
  | nil => rfl
  | cons c s ih =>
    obtain ⟨hc, hs⟩ := List.forall_mem_cons.mp h
    have hchar : spell c = [c] := by simp [spell, hc]
    rw [List.flatMap_cons, hchar, ih hs, List.singleton_append]

section References

variable {read : ReferenceReader} (hread : ∀ c rest, c ≠ '&' → read (c :: rest) = none) {s : List Char} (h : '&' ∉ s)
include hread h

/-- A text without an ampersand has no references to be replaced. -/
theorem resolve_of_not_mem : resolve read 0 s = s := by
  induction s with
  | nil => rfl
  | cons c s ih =>
    rw [List.mem_cons, not_or] at h
    simp [resolve, hread c s (Ne.symm h.1), ih h.2]

theorem resolveNumbers_of_not_mem : resolveNumbers read s = s := by
  rw [resolveNumbers, resolve_of_not_mem hread h, ite_self]

end References

theorem dropGrouping_of_not_mem {s : List Char} (h : ',' ∉ s) (before : Option Char) : dropGrouping before s = s := by
  induction s generalizing before with
  | nil => rfl
  | cons c s ih =>
    rw [List.mem_cons, not_or] at h
    simp [dropGrouping, ih h.2, Ne.symm h.1]

/-- A text of letters, digits and separators is its own Latin form. -/
theorem plainLatin_of_isPlain {s : List Char} (h : ∀ c ∈ s, isPlain c = true) : plainLatin s = s := by
  have hlatin : ∀ c ∈ s, c.toNat < 128 := fun c hc => lt_of_isPlain (h c hc)
  have hnot : ∀ {c : Char}, isPlain c = false → c ∉ s := fun hc hmem => by simp [h _ hmem] at hc
  have hamp : '&' ∉ s := hnot (by decide)
  have hquote : '\x27' ∉ s := hnot (by decide)
  have hfilter : s.filter (· != '\x27') = s :=
    List.filter_eq_self.mpr fun c hc => by
      have hne : c ≠ '\x27' := fun heq => hquote (heq ▸ hc)
      simpa using hne
  simp only [plainLatin]
  rw [hyphenateQuotes_of_not_mem hquote, transliterate_of_latin hlatin,
    resolve_of_not_mem (fun c _ hc => by simp [namedReference, hc]) hamp,
    resolveNumbers_of_not_mem (fun c _ hc => by simp [decimalReference, hc]) hamp,
    resolveNumbers_of_not_mem (fun c _ hc => by simp [hexReference, hc]) hamp,
    decompose_of_latin hlatin, hfilter, dropGrouping_of_not_mem (hnot (by decide))]

/-! ### Slugs -/

/-- A word of basic Latin letters and digits. -/
def IsRun (w : List Char) : Prop :=
  w ≠ [] ∧ ∀ c ∈ w, isSlugChar c = true

/-- A word of small letters and digits. -/
def IsWord (w : List Char) : Prop :=
  w ≠ [] ∧ ∀ c ∈ w, isSmall c = true

theorem IsWord.isRun {w : List Char} (h : IsWord w) : IsRun w :=
  ⟨h.1, fun c hc => isSlugChar_of_isSmall (h.2 c hc)⟩

theorem isWord_cons {c : Char} {w : List Char} :
    IsWord (c :: w) ↔ isSmall c = true ∧ ∀ d ∈ w, isSmall d = true := by
  simp [IsWord]

/-- The word at the start of a text, and the words after it. -/
def runs (s : List Char) : List Char × List (List Char) :=
  s.foldr (fun c (word, done) =>
    if isSlugChar c then (c :: word, done) else ([], if word.isEmpty then done else word :: done)) ([], [])

theorem asciiWords_eq (s : List Char) :
    asciiWords s = if (runs s).1.isEmpty then (runs s).2 else (runs s).1 :: (runs s).2 :=
  rfl

theorem runs_cons_of_isSlugChar {c : Char} (h : isSlugChar c = true) (s : List Char) :
    runs (c :: s) = (c :: (runs s).1, (runs s).2) := by
  simp only [runs, List.foldr_cons, h, if_true]

theorem runs_cons_of_not {c : Char} (h : isSlugChar c = false) (s : List Char) :
    runs (c :: s) = ([], asciiWords s) := by
  simp only [asciiWords, runs, List.foldr_cons, h, Bool.false_eq_true, if_false]

theorem runs_append {w : List Char} (h : ∀ c ∈ w, isSlugChar c = true) (s : List Char) :
    runs (w ++ s) = (w ++ (runs s).1, (runs s).2) := by
  induction w with
  | nil => rfl
  | cons c w ih =>
    obtain ⟨hc, hw⟩ := List.forall_mem_cons.mp h
    rw [List.cons_append, runs_cons_of_isSlugChar hc, ih hw, List.cons_append]

theorem IsRun.asciiWords_append_cons {w : List Char} (h : IsRun w) {sep : Char} (hsep : isSlugChar sep = false)
    (s : List Char) : asciiWords (w ++ sep :: s) = w :: asciiWords s := by
  rw [asciiWords_eq, runs_append h.2, runs_cons_of_not hsep, List.append_nil, if_neg (by simpa using h.1)]

theorem IsRun.asciiWords_self {w : List Char} (h : IsRun w) : asciiWords w = [w] := by
  have hw := runs_append h.2 []
  rw [List.append_nil] at hw
  rw [asciiWords_eq, hw]
  simp [runs, h.1]

/-- Words with separators between them are found again. -/
theorem asciiWords_join {sep : Char} (hsep : isSlugChar sep = false) {ws : List (List Char)}
    (h : ∀ w ∈ ws, IsRun w) : asciiWords (join [sep] ws) = ws := by
  induction ws with
  | nil => rfl
  | cons w ws ih =>
    obtain ⟨hw, hws⟩ := List.forall_mem_cons.mp h
    cases ws with
    | nil => exact hw.asciiWords_self
    | cons v vs =>
      rw [join_cons_cons, List.append_assoc, List.singleton_append, hw.asciiWords_append_cons hsep, ih hws]

theorem isRun_of_mem_asciiWords {s w : List Char} (h : w ∈ asciiWords s) : IsRun w := by
  -- The word at the start may still be empty.
  have hruns : (∀ c ∈ (runs s).1, isSlugChar c = true) ∧ ∀ w ∈ asciiWords s, IsRun w := by
    clear h
    induction s with
    | nil => exact ⟨nofun, nofun⟩
    | cons c s ih =>
      rw [asciiWords_eq]
      by_cases hc : isSlugChar c = true
      · have hdone : ∀ w ∈ (runs s).2, IsRun w := fun w hw => by
          refine ih.2 w ?_
          rw [asciiWords_eq]
          split
          · exact hw
          · exact List.mem_cons_of_mem _ hw
        have hword : ∀ d ∈ c :: (runs s).1, isSlugChar d = true := List.forall_mem_cons.mpr ⟨hc, ih.1⟩
        rw [runs_cons_of_isSlugChar hc]
        exact ⟨hword, List.forall_mem_cons.mpr ⟨⟨by simp, hword⟩, hdone⟩⟩
      · rw [runs_cons_of_not (by simpa using hc)]
        exact ⟨nofun, ih.2⟩
  exact hruns.2 w h

/-- The slug of words with a separator between them. -/
theorem slug_join {sep : Char} (hsep : isSeparator sep = true) {ws : List (List Char)} (h : ∀ w ∈ ws, IsRun w) :
    slug (join [sep] ws) = join ['_'] ws := by
  have hplain : ∀ c ∈ join [sep] ws, isPlain c = true := fun c hc => by
    rw [isPlain, Bool.or_eq_true]
    rcases mem_join hc with hc | ⟨w, hw, hc⟩
    · rw [List.mem_singleton.mp hc]
      exact .inr hsep
    · exact .inl ((h w hw).2 c hc)
  rw [slug, plainLatin_of_isPlain hplain, asciiWords_join (not_isSlugChar_of_isSeparator hsep) h]

theorem slug_self {s : List Char} (h : ∀ c ∈ s, isSlugChar c = true) : slug s = s := by
  cases s with
  | nil => rfl
  | cons c s =>
    change slug (join ['_'] [c :: s]) = join ['_'] [c :: s]
    exact slug_join rfl (List.forall_mem_singleton.mpr ⟨by simp, h⟩)

/-! ### Cuts -/

/-- A text with an underscore after each character at which the text goes on in some way. -/
def cutWhere (p : Char → List Char → Bool) : List Char → List Char
  | [] => []
  | c :: rest => if p c rest then c :: '_' :: cutWhere p rest else c :: cutWhere p rest

/-- A capital before another one that a small letter follows. -/
def endsCapitals : Char → List Char → Bool
  | a, b :: c :: _ => a.isUpper && b.isUpper && c.isLower
  | _, _ => false

/-- A small letter or digit before a capital. -/
def startsHump : Char → List Char → Bool
  | a, b :: _ => isSmall a && b.isUpper
  | _, _ => false

theorem splitCapitals_eq (s : List Char) : splitCapitals s = cutWhere endsCapitals s := by
  induction s with
  | nil => rfl
  | cons a s ih =>
    match s with
    | [] | [_] => rfl
    | b :: c :: rest =>
      rw [splitCapitals, ih]
      rfl

theorem splitHumps_eq (s : List Char) : splitHumps s = cutWhere startsHump s := by
  induction s with
  | nil => rfl
  | cons a s ih =>
    match s with
    | [] => rfl
    | b :: rest =>
      rw [splitHumps, ih]
      rfl

section Cuts

variable {p : Char → List Char → Bool} {s : List Char}

/-- A text is cut nowhere exactly if it stays as it is. -/
theorem cutWhere_eq_self (h : ∀ c rest, c :: rest <:+ s → p c rest = false) : cutWhere p s = s := by
  induction s with
  | nil => rfl
  | cons c s ih =>
    rw [cutWhere, h c s (List.suffix_refl _), ih fun d rest hd => h d rest (hd.trans (List.suffix_cons c s))]
    rfl

theorem length_le_cutWhere (p : Char → List Char → Bool) (s : List Char) : s.length ≤ (cutWhere p s).length := by
  induction s with
  | nil => exact le_rfl
  | cons c s ih =>
    rw [cutWhere]
    split <;> simp <;> omega

theorem length_lt_cutWhere {c : Char} {rest : List Char} (hs : c :: rest <:+ s) (h : p c rest = true) :
    s.length < (cutWhere p s).length := by
  obtain ⟨before, rfl⟩ := hs
  -- One cut is made where the suffix starts, and none takes anything away.
  induction before with
  | nil =>
    have := length_le_cutWhere p rest
    rw [List.nil_append, cutWhere, if_pos h]
    simp
    omega
  | cons d before ih =>
    rw [List.cons_append, cutWhere]
    split <;> simp only [List.length_cons] <;> omega

theorem cutWhere_eq_self_of_length (h : (cutWhere p s).length = s.length) : cutWhere p s = s := by
  refine cutWhere_eq_self fun c rest hsuffix => ?_
  by_contra hp
  have hlength := length_lt_cutWhere hsuffix (by simpa using hp)
  omega

theorem mem_cutWhere {c : Char} (h : c ∈ cutWhere p s) : c ∈ s ∨ c = '_' := by
  induction s with
  | nil => cases h
  | cons d s ih =>
    rw [cutWhere] at h
    split at h <;> grind

end Cuts

/-! ### Spaced texts -/

/-- A text with single underscores between other characters. -/
inductive Spaced : List Char → Prop
  | single {c : Char} : c ≠ '_' → Spaced [c]
  | next {c : Char} {s : List Char} : c ≠ '_' → Spaced s → Spaced (c :: s)
  | gap {c : Char} {s : List Char} : c ≠ '_' → Spaced s → Spaced (c :: '_' :: s)

namespace Spaced

variable {s : List Char}

theorem of_run {w : List Char} (h : IsRun w) : Spaced w := by
  obtain ⟨hne, hw⟩ := h
  induction w with
  | nil => exact absurd rfl hne
  | cons c w ih =>
    obtain ⟨hc, hw⟩ := List.forall_mem_cons.mp hw
    cases w with
    | nil => exact .single (ne_underscore hc)
    | cons d w => exact .next (ne_underscore hc) (ih (by simp) hw)

theorem run_append {w : List Char} (h : IsRun w) (hs : Spaced s) : Spaced (w ++ '_' :: s) := by
  obtain ⟨hne, hw⟩ := h
  induction w with
  | nil => exact absurd rfl hne
  | cons c w ih =>
    obtain ⟨hc, hw⟩ := List.forall_mem_cons.mp hw
    cases w with
    | nil => exact .gap (ne_underscore hc) hs
    | cons d w => exact .next (ne_underscore hc) (ih (by simp) hw)

theorem of_join {ws : List (List Char)} (hne : ws ≠ []) (h : ∀ w ∈ ws, IsRun w) : Spaced (join ['_'] ws) := by
  induction ws with
  | nil => exact absurd rfl hne
  | cons w ws ih =>
    obtain ⟨hw, hws⟩ := List.forall_mem_cons.mp h
    cases ws with
    | nil => exact of_run hw
    | cons v vs =>
      rw [join_cons_cons, List.append_assoc, List.singleton_append]
      exact run_append hw (ih (by simp) hws)

/-- Cuts that are made neither next to an underscore nor at the end leave single underscores. -/
theorem cutWhere {p : Char → List Char → Bool} (hend : ∀ c, p c [] = false)
    (hbefore : ∀ c rest, p c ('_' :: rest) = false) (hafter : ∀ rest, p '_' rest = false) (hs : Spaced s) :
    Spaced (cutWhere p s) := by
  induction hs with
  | single hc =>
    rw [Naming.cutWhere, hend, if_neg (by simp)]
    exact .single hc
  | next hc _ ih =>
    rw [Naming.cutWhere]
    split
    · exact .gap hc ih
    · exact .next hc ih
  | gap hc _ ih =>
    rw [Naming.cutWhere, hbefore, if_neg (by simp), Naming.cutWhere, hafter, if_neg (by simp)]
    exact .gap hc ih

/-- Underscores stay where they are if they alone become underscores. -/
theorem map {f : Char → Char} (hs : Spaced s) (h : ∀ c ∈ s, f c = '_' ↔ c = '_') : Spaced (s.map f) := by
  have hne : ∀ {c : Char}, c ≠ '_' → (f c = '_' ↔ c = '_') → f c ≠ '_' := fun hc hf heq => hc (hf.mp heq)
  induction hs with
  | single hc => exact .single (hne hc (h _ (by simp)))
  | next hc _ ih => exact .next (hne hc (h _ (by simp))) (ih fun d hd => h d (by simp [hd]))
  | @gap c s hc _ ih =>
    have hmark : f '_' = '_' := (h '_' (by simp)).mpr rfl
    rw [List.map_cons, List.map_cons, hmark]
    exact .gap (hne hc (h _ (by simp))) (ih fun d hd => h d (by simp [hd]))

/-- What stands between the underscores is a list of words. -/
theorem exists_words (hs : Spaced s) :
    ∃ ws, ws ≠ [] ∧ s = join ['_'] ws ∧ ∀ w ∈ ws, w ≠ [] ∧ ∀ c ∈ w, c ∈ s ∧ c ≠ '_' := by
  induction hs with
  | @single c hc => exact ⟨[[c]], by simp, rfl, by simp [hc]⟩
  | @next c s hc _ ih =>
    obtain ⟨_ | ⟨w, ws⟩, hne, rfl, hws⟩ := ih
    · exact absurd rfl hne
    · -- The character belongs to the first word.
      refine ⟨(c :: w) :: ws, by simp, by cases ws <;> rfl, fun v hv => ?_⟩
      rcases List.mem_cons.mp hv with rfl | hv
      · refine ⟨by simp, List.forall_mem_cons.mpr ⟨⟨by simp, hc⟩, fun d hd => ?_⟩⟩
        obtain ⟨hmem, hd⟩ := (hws w (by simp)).2 d hd
        exact ⟨List.mem_cons_of_mem c hmem, hd⟩
      · obtain ⟨hne, hv⟩ := hws v (List.mem_cons_of_mem w hv)
        exact ⟨hne, fun d hd => ⟨List.mem_cons_of_mem c (hv d hd).1, (hv d hd).2⟩⟩
  | @gap c s hc _ ih =>
    obtain ⟨_ | ⟨w, ws⟩, hne, rfl, hws⟩ := ih
    · exact absurd rfl hne
    · -- The character is a word of its own.
      refine ⟨[c] :: w :: ws, by simp, rfl, List.forall_mem_cons.mpr ⟨by simp [hc], fun v hv => ?_⟩⟩
      obtain ⟨hne, hv⟩ := hws v hv
      exact ⟨hne, fun d hd => ⟨by simp [(hv d hd).1], (hv d hd).2⟩⟩

end Spaced

/-! ### Snake case -/

/-- What becomes of a character that is neither cut off nor dropped. -/
def lowered (c : Char) : Char :=
  if c = '-' then '_' else c.toLower

theorem lowered_of_isSlugChar {c : Char} (h : isSlugChar c = true) : lowered c = c.toLower := by
  have hne : c ≠ '-' := by
    rintro rfl
    exact absurd h (by decide)
  rw [lowered, if_neg hne]

/-- Snake case is the slug with cuts at the changes of case, in lower case. -/
theorem snakeCase_eq (s : List Char) :
    snakeCase s = (cutWhere startsHump (cutWhere endsCapitals (slug s))).map lowered := by
  rw [snakeCase, underscore, splitHumps_eq, splitCapitals_eq]
  rfl

theorem spaced_cuts {s : List Char} (hs : Spaced s) : Spaced (cutWhere startsHump (cutWhere endsCapitals s)) := by
  have hcapitals : Spaced (cutWhere endsCapitals s) := by
    refine hs.cutWhere (fun _ => rfl) (fun c rest => ?_) fun rest => ?_
    · cases rest <;> simp [endsCapitals]
    · match rest with
      | [] | [_] | _ :: _ :: _ => rfl
  refine hcapitals.cutWhere (fun _ => rfl) (fun c rest => ?_) fun rest => ?_
  · simp [startsHump]
  · cases rest <;> rfl

/-- **The words of a name.** Every snake case is a list of words of small letters and digits, with single underscores
between them. -/
theorem exists_words (s : List Char) : ∃ ws, (∀ w ∈ ws, IsWord w) ∧ snakeCase s = join ['_'] ws := by
  rw [snakeCase_eq, slug]
  have hruns : ∀ w ∈ asciiWords (plainLatin s), IsRun w := fun w hw => isRun_of_mem_asciiWords hw
  generalize asciiWords (plainLatin s) = runs at hruns
  rcases eq_or_ne runs [] with rfl | hne
  · exact ⟨[], nofun, rfl⟩
  · have hchars : ∀ c ∈ cutWhere startsHump (cutWhere endsCapitals (join ['_'] runs)),
        isSlugChar c = true ∨ c = '_' := by
      intro c hc
      rcases mem_cutWhere hc with hc | rfl
      · rcases mem_cutWhere hc with hc | rfl
        · rcases mem_join hc with hc | ⟨w, hw, hc⟩
          · exact .inr (List.mem_singleton.mp hc)
          · exact .inl ((hruns w hw).2 c hc)
        · exact .inr rfl
      · exact .inr rfl
    have hlowered : ∀ c, isSlugChar c = true → isSmall (lowered c) = true := fun c hc => by
      rw [lowered_of_isSlugChar hc]
      exact isSmall_toLower hc
    have hspaced := (spaced_cuts (Spaced.of_join hne hruns)).map (f := lowered) fun c hc => by
      rcases hchars c hc with h | rfl
      · have hl := ne_underscore (isSlugChar_of_isSmall (hlowered c h))
        exact ⟨fun heq => absurd heq hl, fun heq => absurd heq (ne_underscore h)⟩
      · decide
    obtain ⟨ws, -, heq, hws⟩ := hspaced.exists_words
    refine ⟨ws, fun w hw => ⟨(hws w hw).1, fun d hd => ?_⟩, heq⟩
    obtain ⟨hmem, hd⟩ := (hws w hw).2 d hd
    obtain ⟨c, hc, rfl⟩ := List.mem_map.mp hmem
    rcases hchars c hc with h | rfl
    · exact hlowered c h
    · exact absurd rfl hd

end Stencil.Naming
