import Mathlib.Data.List.Chain
import Stencil.Helper.Call
import Stencil.Proofs.Naming.Words

namespace Stencil.Naming

open Text

/-!
# Conventions for names

Every convention writes the same words in its own way. The words are found again in what is written: always if the
convention keeps a separator between them and changes no letter but the first of a word, and otherwise as far as case
and digits tell where a word starts.

* `Convention.write` — words as a convention writes them, with `Convention.apply_eq_write`;
* `Naming.snakeCase_join` — words with a separator between them are found again;
* `Naming.snakeCase_constant_iff` — words in capitals are found again unless a digit is before a letter;
* `Naming.snakeCase_humps` — words that are told apart by their capitals;
* `Convention.convert` — what the helper of a convention makes of a value;
* `Convention.separated_interchange` — the conventions that keep a separator can stand for each other;
* `Convention.letters_and_words` — all conventions keep the letters, and some of them the words.
-/

/-! ### Words as conventions write them -/

/-- A word with a capital first. -/
def capital : List Char → List Char
  | [] => []
  | c :: w => c.toUpper :: w

/-- Words run together, each with a capital. -/
def humps (ws : List (List Char)) : List Char :=
  (ws.map capital).flatten

theorem humps_cons (w : List Char) (ws : List (List Char)) : humps (w :: ws) = capital w ++ humps ws := by
  rw [humps, List.map_cons, List.flatten_cons, humps]

/-- A convention for names. -/
inductive Convention where
  | snake
  | kebab
  | constant
  | pascal
  | camel
  | title
  deriving Repr, DecidableEq

namespace Convention

/-- A text as a convention has it. -/
def apply : Convention → List Char → List Char
  | .snake => snakeCase
  | .kebab => kebabCase
  | .constant => constantCase
  | .pascal => pascalCase
  | .camel => camelCase
  | .title => titleCase

/-- Words as a convention writes them. -/
def write : Convention → List (List Char) → List Char
  | .snake, ws => join ['_'] ws
  | .kebab, ws => join ['-'] ws
  | .constant, ws => join ['_'] (ws.map (List.map Char.toUpper))
  | .pascal, ws => humps ws
  | .camel, [] => []
  | .camel, w :: ws => w ++ humps ws
  | .title, ws => join [' '] (ws.map capital)

end Convention

theorem IsWord.not_mem {w : List Char} (h : IsWord w) : '_' ∉ w := fun hc =>
  ne_underscore (isSlugChar_of_isSmall (h.2 _ hc)) rfl

/-- The words between the underscores of a text. -/
def wordsOf (s : List Char) : List (List Char) :=
  (splitAtChar '_' s).filter (!·.isEmpty)

theorem wordsOf_join {ws : List (List Char)} (h : ∀ w ∈ ws, IsWord w) : wordsOf (join ['_'] ws) = ws := by
  rcases eq_or_ne ws [] with rfl | hne
  · rfl
  · rw [wordsOf, splitAtChar_join hne fun w hw => (h w hw).not_mem, List.filter_eq_self]
    intro w hw
    simpa using (h w hw).1

theorem raiseWords_append {w : List Char} (h : '_' ∉ w) (c : Char) (s : List Char) :
    raiseWords (w ++ '_' :: c :: s) = w ++ c.toUpper :: raiseWords s := by
  induction w with
  | nil => rw [List.nil_append, raiseWords, List.nil_append]
  | cons d w ih =>
    rw [List.mem_cons, not_or] at h
    have hd : ∀ (e : Char) (rest : List Char), d = '_' → w ++ '_' :: c :: s = e :: rest → False :=
      fun _ _ hd _ => h.1 hd.symm
    rw [List.cons_append, raiseWords.eq_2 d _ hd, ih h.2, List.cons_append]

theorem raiseWords_of_not_mem {w : List Char} (h : '_' ∉ w) : raiseWords w = w := by
  induction w with
  | nil => rfl
  | cons d w ih =>
    rw [List.mem_cons, not_or] at h
    rw [raiseWords.eq_2 d w fun _ _ hd _ => h.1 hd.symm, ih h.2]

/-- The words after the first get a capital each; the first one may be a part of a word. -/
theorem raiseWords_join {w : List Char} (hw : '_' ∉ w) {ws : List (List Char)} (h : ∀ w ∈ ws, IsWord w) :
    raiseWords (join ['_'] (w :: ws)) = w ++ humps ws := by
  induction ws generalizing w with
  | nil => simpa [join, humps] using raiseWords_of_not_mem hw
  | cons v ws ih =>
    obtain ⟨hv, hws⟩ := List.forall_mem_cons.mp h
    obtain ⟨c, v, rfl⟩ := List.exists_cons_of_ne_nil hv.1
    have hrest : '_' ∉ v := fun hc => hv.not_mem (List.mem_cons_of_mem c hc)
    rw [join_cons_cons, List.append_assoc, List.singleton_append, join_cons_chars, raiseWords_append hw, ih hrest hws,
      humps_cons]
    rfl

theorem camelize_join {w : List Char} (hw : IsWord w) {ws : List (List Char)} (h : ∀ w ∈ ws, IsWord w) :
    camelize (join ['_'] (w :: ws)) = capital w ++ humps ws := by
  obtain ⟨c, w, rfl⟩ := List.exists_cons_of_ne_nil hw.1
  rw [join_cons_chars, camelize, raiseWords_join (fun hc => hw.not_mem (List.mem_cons_of_mem c hc)) h]
  rfl

theorem map_toLower_of_isSmall {w : List Char} (h : ∀ c ∈ w, isSmall c = true) : w.map Char.toLower = w :=
  (List.map_congr_left fun c hc => toLower_of_isSmall (h c hc)).trans (List.map_id' w)

/-- Every convention writes the words that snake case finds. -/
theorem Convention.apply_eq_write {s : List Char} {ws : List (List Char)} (h : ∀ w ∈ ws, IsWord w)
    (hs : snakeCase s = join ['_'] ws) (c : Convention) : c.apply s = c.write ws := by
  have hne : ∀ w ∈ ws, ∀ d ∈ w, d ≠ '_' := fun w hw d hd => ne_underscore (isSlugChar_of_isSmall ((h w hw).2 d hd))
  cases c with
  | snake => exact hs
  | kebab =>
    have hwords : ws.map (List.map fun d => if d = '_' then '-' else d) = ws := by
      refine (List.map_congr_left fun w hw => ?_).trans (List.map_id' ws)
      exact (List.map_congr_left fun d hd => if_neg (hne w hw d hd)).trans (List.map_id' w)
    simp only [apply, write, kebabCase, hs, map_join, hwords]
    rfl
  | constant =>
    simp only [apply, write, constantCase, hs, map_join]
    rfl
  | pascal =>
    simp only [apply, write, pascalCase, hs]
    cases ws with
    | nil => rfl
    | cons w ws =>
      obtain ⟨hw, hws⟩ := List.forall_mem_cons.mp h
      rw [camelize_join hw hws]
      rfl
  | camel =>
    simp only [apply, write, camelCase, hs]
    cases ws with
    | nil => rfl
    | cons w ws =>
      obtain ⟨hw, hws⟩ := List.forall_mem_cons.mp h
      obtain ⟨d, w, rfl⟩ := List.exists_cons_of_ne_nil hw.1
      have hcamel := camelize_join hw hws
      rw [join_cons_chars] at hcamel ⊢
      simp only [hcamel, toLower_of_isSmall (hw.2 d List.mem_cons_self)]
      rfl
  | title =>
    have hwords : wordsOf (snakeCase s) = ws := hs ▸ wordsOf_join h
    unfold apply write titleCase
    change join [' '] ((wordsOf (snakeCase s)).map _) = _
    rw [hwords]
    refine congrArg (join [' ']) (List.map_congr_left fun w hw => ?_)
    cases w with
    | nil => rfl
    | cons d w =>
      have hsmall : ∀ e ∈ w, isSmall e = true := fun e he => (h _ hw).2 e (List.mem_cons_of_mem d he)
      exact congrArg (d.toUpper :: ·) (map_toLower_of_isSmall hsmall)

/-! ### Texts that no cut changes -/

/-- A text whose neighbours never are a place for a cut stays as it is. -/
theorem cutWhere_of_isChain {p : Char → List Char → Bool} {R : Char → Char → Prop}
    (hp : ∀ a b rest, R a b → p a (b :: rest) = false) (hend : ∀ a, p a [] = false) {s : List Char}
    (h : s.IsChain R) : cutWhere p s = s := by
  refine cutWhere_eq_self fun c rest hsuffix => ?_
  have hchain : (c :: rest).IsChain R := h.suffix hsuffix
  cases rest with
  | nil => exact hend c
  | cons d rest => exact hp c d rest (List.isChain_cons_cons.mp hchain).1

/-- Two neighbours between which a new word starts in the middle of a text. -/
def IsHump (a b : Char) : Prop :=
  isSmall a = true ∧ b.isUpper = true

theorem startsHump_iff {a b : Char} {rest : List Char} : startsHump a (b :: rest) = true ↔ IsHump a b := by
  simp [startsHump, IsHump]

theorem cutWhere_startsHump_eq_self_iff {s : List Char} :
    cutWhere startsHump s = s ↔ s.IsChain fun a b => ¬IsHump a b := by
  constructor
  · intro h
    rw [List.isChain_iff_forall_rel_of_append_cons_cons]
    intro a b before after hs hhump
    have hsuffix : a :: b :: after <:+ s := ⟨before, hs.symm⟩
    have hlength := length_lt_cutWhere (p := startsHump) hsuffix (startsHump_iff.mpr hhump)
    rw [h] at hlength
    exact absurd hlength (lt_irrefl _)
  · refine cutWhere_of_isChain (fun a b rest hab => ?_) fun _ => rfl
    rw [← @startsHump_iff a b rest] at hab
    simpa using hab

/-- Two neighbours that are not both capitals. -/
def NotBothCapitals (a b : Char) : Prop :=
  a.isUpper = true → b.isUpper = false

theorem cutWhere_endsCapitals_of_isChain {s : List Char} (h : s.IsChain NotBothCapitals) :
    cutWhere endsCapitals s = s := by
  refine cutWhere_of_isChain (fun a b rest hab => ?_) (fun _ => rfl) h
  cases rest with
  | nil => rfl
  | cons c rest => cases ha : a.isUpper <;> simp_all [endsCapitals, NotBothCapitals]

theorem endsCapitals_of_not_isLower {a : Char} {rest : List Char} (h : ∀ c ∈ rest, c.isLower = false) :
    endsCapitals a rest = false := by
  match rest with
  | [] | [_] => rfl
  | b :: c :: rest => simp [endsCapitals, h c (by simp)]

/-- A text of words with a separator between them, when the separator can stand next to everything. -/
theorem isChain_join {R : Char → Char → Prop} {sep : Char} (hbefore : ∀ c, R c sep) (hafter : ∀ c, R sep c)
    {ws : List (List Char)} (h : ∀ w ∈ ws, w.IsChain R) : (join [sep] ws).IsChain R := by
  induction ws with
  | nil => exact .nil
  | cons w ws ih =>
    obtain ⟨hw, hws⟩ := List.forall_mem_cons.mp h
    cases ws with
    | nil => exact hw
    | cons v vs =>
      rw [join_cons_cons, List.append_assoc, List.singleton_append]
      refine hw.append ((ih hws).cons fun c _ => hafter c) fun a _ b hb => ?_
      rw [List.head?_cons, Option.mem_some_iff] at hb
      exact hb ▸ hbefore a

theorem isChain_of_tail {R : Char → Char → Prop} {w : List Char} (h : ∀ b ∈ w.tail, ∀ a, R a b) : w.IsChain R := by
  induction w with
  | nil => exact .nil
  | cons c w ih =>
    refine (ih fun b hb => h b (List.mem_of_mem_tail hb)).cons fun b hb => h b ?_ c
    exact List.mem_of_mem_head? hb

theorem map_lowered {w : List Char} (h : ∀ c ∈ w, isSlugChar c = true) : w.map lowered = w.map Char.toLower :=
  List.map_congr_left fun c hc => lowered_of_isSlugChar (h c hc)

/-- Words with a separator between them are found again if no letter but their first ones is a capital. -/
theorem snakeCase_join {sep : Char} (hsep : isSeparator sep = true) {ws : List (List Char)} (h : ∀ w ∈ ws, IsRun w)
    (hcapitals : ∀ w ∈ ws, ∀ c ∈ w.tail, c.isUpper = false) :
    snakeCase (join [sep] ws) = join ['_'] (ws.map (List.map Char.toLower)) := by
  -- A capital is the first letter of a word, so an underscore is before it.
  have hchain : (join ['_'] ws).IsChain fun a b => b.isUpper = true → a = '_' := by
    refine isChain_join (fun _ h => absurd h (by decide)) (fun _ _ => rfl) fun w hw => ?_
    exact isChain_of_tail fun c hc _ hupper => by simp [hcapitals w hw c hc] at hupper
  have hends : cutWhere endsCapitals (join ['_'] ws) = join ['_'] ws := by
    refine cutWhere_endsCapitals_of_isChain (hchain.imp fun a b hab ha => ?_)
    by_contra hb
    rw [hab (by simpa using hb)] at ha
    exact absurd ha (by decide)
  have hhumps : cutWhere startsHump (join ['_'] ws) = join ['_'] ws := by
    refine cutWhere_startsHump_eq_self_iff.mpr (hchain.imp fun a b hab hhump => ?_)
    rw [IsHump, hab hhump.2] at hhump
    exact absurd hhump.1 (by decide)
  rw [snakeCase_eq, slug_join hsep h, hends, hhumps, map_join]
  exact congrArg (join ['_']) (List.map_congr_left fun w hw => map_lowered (h w hw).2)

section Capital

variable {w : List Char} (h : IsWord w)
include h

theorem isRun_capital : IsRun (capital w) := by
  obtain ⟨c, w, rfl⟩ := List.exists_cons_of_ne_nil h.1
  refine ⟨by simp [capital], List.forall_mem_cons.mpr ⟨isSlugChar_toUpper (h.2 c List.mem_cons_self), fun d hd => ?_⟩⟩
  exact isSlugChar_of_isSmall (h.2 d (List.mem_cons_of_mem c hd))

theorem map_toLower_capital : (capital w).map Char.toLower = w := by
  obtain ⟨c, w, rfl⟩ := List.exists_cons_of_ne_nil h.1
  obtain ⟨hc, hw⟩ := isWord_cons.mp h
  rw [capital, List.map_cons, toLower_toUpper hc, map_toLower_of_isSmall hw]

theorem not_isUpper_of_mem_tail_capital : ∀ c ∈ (capital w).tail, c.isUpper = false := by
  obtain ⟨c, w, rfl⟩ := List.exists_cons_of_ne_nil h.1
  exact fun d hd => not_isUpper_of_isSmall (h.2 d (List.mem_cons_of_mem c hd))

end Capital

/-- Snake case finds the words again if a separator is kept between them and only first letters are changed. -/
theorem Convention.snakeCase_write {ws : List (List Char)} (h : ∀ w ∈ ws, IsWord w) {d : Convention}
    (hd : d ∈ [snake, kebab, title]) : snakeCase (d.write ws) = join ['_'] ws := by
  have hsmall : ∀ sep, isSeparator sep = true → snakeCase (join [sep] ws) = join ['_'] ws := fun sep hsep => by
    have hwords : ws.map (List.map Char.toLower) = ws :=
      (List.map_congr_left fun w hw => map_toLower_of_isSmall (h w hw).2).trans (List.map_id' ws)
    rw [snakeCase_join hsep (fun w hw => (h w hw).isRun) fun w hw c hc =>
      not_isUpper_of_isSmall ((h w hw).2 c (List.mem_of_mem_tail hc)), hwords]
  simp only [List.mem_cons, List.not_mem_nil, or_false] at hd
  rcases hd with rfl | rfl | rfl
  · exact hsmall '_' rfl
  · exact hsmall '-' rfl
  · have hwords : (ws.map capital).map (List.map Char.toLower) = ws := by
      rw [List.map_map]
      exact (List.map_congr_left fun w hw => map_toLower_capital (h w hw)).trans (List.map_id' ws)
    rw [write, snakeCase_join rfl (List.forall_mem_map.mpr fun w hw => isRun_capital (h w hw))
      (List.forall_mem_map.mpr fun w hw => not_isUpper_of_mem_tail_capital (h w hw)), hwords]

/-! ### Words in capitals -/

/-- A place where the next word would start inside a word in capitals. -/
theorem isHump_toUpper_iff {a b : Char} (ha : isSmall a = true ∨ a = '_') (hb : isSmall b = true ∨ b = '_') :
    IsHump a.toUpper b.toUpper ↔ a.isDigit = true ∧ b.isAlpha = true := by
  have hsmall : isSmall a.toUpper = a.isDigit := by
    rcases ha with ha | rfl
    · exact isSmall_toUpper ha
    · rfl
  have hupper : b.toUpper.isUpper = b.isAlpha := by
    rcases hb with hb | rfl
    · exact isUpper_toUpper hb
    · rfl
  rw [IsHump, hsmall, hupper]

/-- Words in capitals are found again exactly if no letter follows a digit. -/
theorem snakeCase_constant_iff {ws : List (List Char)} (h : ∀ w ∈ ws, IsWord w) :
    snakeCase (Convention.constant.write ws) = join ['_'] ws ↔
      (join ['_'] ws).IsChain fun a b => ¬(a.isDigit = true ∧ b.isAlpha = true) := by
  have hchars : ∀ c ∈ join ['_'] ws, isSmall c = true ∨ c = '_' := fun c hc => by
    rcases mem_join hc with hc | ⟨w, hw, hc⟩
    · exact .inr (List.mem_singleton.mp hc)
    · exact .inl ((h w hw).2 c hc)
  have hwrite : Convention.constant.write ws = (join ['_'] ws).map Char.toUpper := by
    rw [map_join]
    rfl
  have hslug : slug (Convention.constant.write ws) = Convention.constant.write ws := by
    refine slug_join rfl (List.forall_mem_map.mpr fun w hw => ⟨by simpa using (h w hw).1, ?_⟩)
    exact List.forall_mem_map.mpr fun c hc => isSlugChar_toUpper ((h w hw).2 c hc)
  have hends : cutWhere endsCapitals (Convention.constant.write ws) = Convention.constant.write ws := by
    refine cutWhere_eq_self fun a rest hsuffix => endsCapitals_of_not_isLower fun c hc => ?_
    have hmem : c ∈ (join ['_'] ws).map Char.toUpper := hwrite ▸ hsuffix.subset (List.mem_cons_of_mem a hc)
    obtain ⟨d, hd, rfl⟩ := List.mem_map.mp hmem
    rcases hchars d hd with hd | rfl
    · exact isLower_toUpper hd
    · rfl
  have hlowered : (Convention.constant.write ws).map lowered = join ['_'] ws := by
    rw [hwrite, List.map_map]
    refine (List.map_congr_left fun c hc => ?_).trans (List.map_id' _)
    rcases hchars c hc with hc | rfl
    · exact (lowered_of_isSlugChar (isSlugChar_toUpper hc)).trans (toLower_toUpper hc)
    · rfl
  have hhumps : cutWhere startsHump (Convention.constant.write ws) = Convention.constant.write ws ↔
      (join ['_'] ws).IsChain fun a b => ¬(a.isDigit = true ∧ b.isAlpha = true) := by
    rw [cutWhere_startsHump_eq_self_iff, hwrite, List.isChain_map]
    exact List.IsChain.iff_of_mem_imp fun a b ha hb => not_congr (isHump_toUpper_iff (hchars a ha) (hchars b hb))
  rw [snakeCase_eq, hslug, hends, ← hhumps]
  -- Cuts only make a text longer, so none was made if the words come out again.
  constructor
  · intro heq
    refine cutWhere_eq_self_of_length ?_
    rw [← List.length_map (f := lowered), heq, ← hlowered, List.length_map]
  · intro heq
    rw [heq, hlowered]

/-! ### Words that capitals tell apart -/

/-- A word that starts with a letter and goes on. -/
def StartsWithLetter (w : List Char) : Prop :=
  ∃ c t, w = c :: t ∧ c.isAlpha = true ∧ isSmall c = true ∧ IsWord t

theorem cutWhere_startsHump_cons (c : Char) {w : List Char} (h : IsWord w) (s : List Char) :
    cutWhere startsHump (c :: (w ++ s)) = c :: cutWhere startsHump (w ++ s) := by
  obtain ⟨d, w, rfl⟩ := List.exists_cons_of_ne_nil h.1
  have hd : d.isUpper = false := not_isUpper_of_isSmall (h.2 d List.mem_cons_self)
  rw [List.cons_append, cutWhere.eq_2 _ c, startsHump, hd, Bool.and_false]
  rfl

/-- A word ends where a capital follows it. -/
theorem cutWhere_startsHump_append {w : List Char} (h : IsWord w) {c : Char} (hc : c.isUpper = true) (s : List Char) :
    cutWhere startsHump (w ++ c :: s) = w ++ '_' :: cutWhere startsHump (c :: s) := by
  induction w with
  | nil => exact absurd rfl h.1
  | cons d w ih =>
    obtain ⟨hd, hw⟩ := isWord_cons.mp h
    rcases eq_or_ne w [] with rfl | hne
    · simp [cutWhere, startsHump, hd, hc]
    · rw [List.cons_append, cutWhere_startsHump_cons d ⟨hne, hw⟩, ih ⟨hne, hw⟩, List.cons_append]

/-- Each word but the first is found by its capital; the first one may have lost its own. -/
theorem cutWhere_startsHump_words {w : List Char} (hw : IsWord w) {ws : List (List Char)}
    (h : ∀ w ∈ ws, StartsWithLetter w) :
    cutWhere startsHump (w ++ humps ws) = join ['_'] (w :: ws.map capital) := by
  -- The first word is arbitrary: after a cut, the next one takes its place, without its capital.
  induction ws generalizing w with
  | nil =>
    have hchain : w.IsChain fun a b => ¬IsHump a b :=
      isChain_of_tail fun b hb a hab => by
        have hsmall := not_isUpper_of_isSmall (hw.2 b (List.mem_of_mem_tail hb))
        rw [hab.2] at hsmall
        cases hsmall
    rw [humps, List.map_nil, List.flatten_nil, List.append_nil, cutWhere_startsHump_eq_self_iff.mpr hchain]
    rfl
  | cons v ws ih =>
    obtain ⟨⟨c, t, rfl, halpha, hc, ht⟩, hws⟩ := List.forall_mem_cons.mp h
    have hupper : c.toUpper.isUpper = true := (isUpper_toUpper hc).trans halpha
    rw [humps_cons, capital, List.cons_append, cutWhere_startsHump_append hw hupper, cutWhere_startsHump_cons _ ht,
      ih ht hws, List.map_cons, capital, join_cons_cons, join_cons_chars, List.append_assoc, List.singleton_append]

/-- No two capitals are next to each other, since each starts a word that goes on. -/
theorem isChain_words {w : List Char} (hw : IsWord w) {ws : List (List Char)} (h : ∀ w ∈ ws, StartsWithLetter w) :
    (w ++ humps ws).IsChain NotBothCapitals := by
  have hsmall : ∀ {v : List Char}, IsWord v → ∀ c ∈ v, c.isUpper = false := fun hv c hc =>
    not_isUpper_of_isSmall (hv.2 c hc)
  have hself : ∀ {v : List Char}, IsWord v → v.IsChain NotBothCapitals := fun hv =>
    isChain_of_tail fun b hb _ _ => hsmall hv b (List.mem_of_mem_tail hb)
  induction ws generalizing w with
  | nil => simpa [humps] using hself hw
  | cons v ws ih =>
    obtain ⟨⟨c, t, rfl, -, -, ht⟩, hws⟩ := List.forall_mem_cons.mp h
    rw [humps_cons, capital, List.cons_append]
    refine (hself hw).append ((ih ht hws).cons fun b hb _ => ?_) fun a ha _ _ hupper => ?_
    · obtain ⟨d, t, rfl⟩ := List.exists_cons_of_ne_nil ht.1
      rw [List.cons_append, List.head?_cons, Option.mem_some_iff] at hb
      exact hb ▸ hsmall ht d List.mem_cons_self
    · rw [hsmall hw a (List.mem_of_getLast? ha)] at hupper
      cases hupper

/-- Words are cut apart that are run together, if each but the first has a capital. -/
theorem cuts_words {w : List Char} (hw : IsWord w) {ws : List (List Char)} (h : ∀ w ∈ ws, StartsWithLetter w) :
    cutWhere startsHump (cutWhere endsCapitals (w ++ humps ws)) = join ['_'] (w :: ws.map capital) := by
  rw [cutWhere_endsCapitals_of_isChain (isChain_words hw h), cutWhere_startsHump_words hw h]

/-- Words are cut apart that are run together, if each has a capital. -/
theorem cuts_capitals {w : List Char} (hw : StartsWithLetter w) {ws : List (List Char)}
    (h : ∀ w ∈ ws, StartsWithLetter w) :
    cutWhere startsHump (cutWhere endsCapitals (capital w ++ humps ws)) =
      join ['_'] (capital w :: ws.map capital) := by
  obtain ⟨c, t, rfl, -, -, ht⟩ := hw
  have hchain : (c.toUpper :: (t ++ humps ws)).IsChain NotBothCapitals := by
    refine (isChain_words ht h).cons fun b hb _ => ?_
    obtain ⟨d, t, rfl⟩ := List.exists_cons_of_ne_nil ht.1
    rw [List.cons_append, List.head?_cons, Option.mem_some_iff] at hb
    exact hb ▸ not_isUpper_of_isSmall (ht.2 d List.mem_cons_self)
  rw [capital, List.cons_append, cutWhere_endsCapitals_of_isChain hchain, cutWhere_startsHump_cons _ ht,
    cutWhere_startsHump_words ht h, join_cons_chars]

theorem StartsWithLetter.isWord {w : List Char} (h : StartsWithLetter w) : IsWord w := by
  obtain ⟨c, t, rfl, -, hc, ht⟩ := h
  exact isWord_cons.mpr ⟨hc, ht.2⟩

theorem StartsWithLetter.of_length {w : List Char} (h : IsWord w) (hfirst : ∃ c ∈ w.head?, c.isAlpha = true)
    (hlength : 2 ≤ w.length) : StartsWithLetter w := by
  obtain ⟨c, t, rfl⟩ := List.exists_cons_of_ne_nil h.1
  obtain ⟨hc, ht⟩ := isWord_cons.mp h
  refine ⟨c, t, rfl, by simpa using hfirst, hc, ?_, ht⟩
  rintro rfl
  simp at hlength

theorem isSlugChar_of_mem_capitals {ws : List (List Char)} (h : ∀ w ∈ ws, IsWord w) :
    ∀ c ∈ humps ws, isSlugChar c = true := by
  intro c hc
  obtain ⟨w, hw, hc⟩ := List.mem_flatten.mp hc
  obtain ⟨w, hmem, rfl⟩ := List.mem_map.mp hw
  exact (isRun_capital (h w hmem)).2 c hc

/-- Snake case finds words again that are run together, if each starts with a letter and goes on. -/
theorem snakeCase_humps {ws : List (List Char)} (h : ∀ w ∈ ws, StartsWithLetter w) {d : Convention}
    (hd : d ∈ [Convention.pascal, .camel]) : snakeCase (d.write ws) = join ['_'] ws := by
  simp only [List.mem_cons, List.not_mem_nil, or_false] at hd
  cases ws with
  | nil => rcases hd with rfl | rfl <;> rfl
  | cons w ws =>
    obtain ⟨hw, hws⟩ := List.forall_mem_cons.mp h
    have hwords : ∀ v ∈ ws, IsWord v := fun v hv => (hws v hv).isWord
    have hcapital : ∀ {v : List Char}, IsWord v → (capital v).map lowered = v := fun hv =>
      (map_lowered (isRun_capital hv).2).trans (map_toLower_capital hv)
    have hself : w.map lowered = w := (map_lowered hw.isWord.isRun.2).trans (map_toLower_of_isSmall hw.isWord.2)
    have hrest : (ws.map capital).map (List.map lowered) = ws := by
      rw [List.map_map]
      exact (List.map_congr_left fun v hv => hcapital (hwords v hv)).trans (List.map_id' ws)
    have hslug : ∀ {v : List Char}, IsRun v → slug (v ++ humps ws) = v ++ humps ws :=
      fun hv => slug_self fun c hc =>
        (List.mem_append.mp hc).elim (hv.2 c) (isSlugChar_of_mem_capitals hwords c)
    -- Camel case and Pascal case differ in the first word only.
    rcases hd with rfl | rfl
    · change snakeCase (capital w ++ humps ws) = _
      rw [snakeCase_eq, hslug (isRun_capital hw.isWord), cuts_capitals hw hws, map_join]
      exact congrArg (join ['_']) (congrArg₂ List.cons (hcapital hw.isWord) hrest)
    · change snakeCase (w ++ humps ws) = _
      rw [snakeCase_eq, hslug hw.isWord.isRun, cuts_words hw.isWord hws, map_join]
      exact congrArg (join ['_']) (congrArg₂ List.cons hself hrest)

/-! ### Letters -/

/-- The letters and digits of a text, in lower case. -/
def lettersOf (s : List Char) : List Char :=
  (s.filter (!isSeparator ·)).map Char.toLower

theorem lettersOf_append (s t : List Char) : lettersOf (s ++ t) = lettersOf s ++ lettersOf t := by
  simp [lettersOf]

theorem lettersOf_of_isSlugChar {s : List Char} (h : ∀ c ∈ s, isSlugChar c = true) :
    lettersOf s = s.map Char.toLower := by
  have hfilter : s.filter (!isSeparator ·) = s :=
    List.filter_eq_self.mpr fun c hc => by simp [not_isSeparator_of_isSlugChar (h c hc)]
  rw [lettersOf, hfilter]

theorem lettersOf_word {w : List Char} (h : IsWord w) : lettersOf w = w :=
  (lettersOf_of_isSlugChar h.isRun.2).trans (map_toLower_of_isSmall h.2)

theorem lettersOf_capital {w : List Char} (h : IsWord w) : lettersOf (capital w) = w :=
  (lettersOf_of_isSlugChar (isRun_capital h).2).trans (map_toLower_capital h)

theorem lettersOf_upper {w : List Char} (h : IsWord w) : lettersOf (w.map Char.toUpper) = w := by
  rw [lettersOf_of_isSlugChar (List.forall_mem_map.mpr fun c hc => isSlugChar_toUpper (h.2 c hc)), List.map_map]
  exact (List.map_congr_left fun c hc => toLower_toUpper (h.2 c hc)).trans (List.map_id' w)

section Written

variable {f : List Char → List Char} {ws : List (List Char)} (h : ∀ w ∈ ws, lettersOf (f w) = w)
include h

theorem lettersOf_flatten : lettersOf (ws.map f).flatten = ws.flatten := by
  induction ws with
  | nil => rfl
  | cons w ws ih =>
    obtain ⟨hw, hws⟩ := List.forall_mem_cons.mp h
    rw [List.map_cons, List.flatten_cons, List.flatten_cons, lettersOf_append, hw, ih hws]

theorem lettersOf_join {sep : Char} (hsep : isSeparator sep = true) :
    lettersOf (join [sep] (ws.map f)) = ws.flatten := by
  induction ws with
  | nil => rfl
  | cons w ws ih =>
    obtain ⟨hw, hws⟩ := List.forall_mem_cons.mp h
    cases ws with
    | nil => simpa [join] using hw
    | cons v vs =>
      have hnone : lettersOf [sep] = [] := by simp [lettersOf, hsep]
      rw [List.map_cons, List.map_cons, join_cons_cons, lettersOf_append, lettersOf_append, hw, hnone, List.append_nil,
        ← List.map_cons, ih hws]
      rfl

end Written

/-- Every convention keeps the letters. -/
theorem Convention.lettersOf_write {ws : List (List Char)} (h : ∀ w ∈ ws, IsWord w) (c : Convention) :
    lettersOf (c.write ws) = ws.flatten := by
  have hself : ∀ sep, isSeparator sep = true → lettersOf (join [sep] ws) = ws.flatten := fun sep hsep => by
    have hid := lettersOf_join (f := id) (fun w hw => lettersOf_word (h w hw)) hsep
    rwa [List.map_id] at hid
  have hcapital : ∀ w ∈ ws, lettersOf (capital w) = w := fun w hw => lettersOf_capital (h w hw)
  -- Each convention joins or runs together the words after it has changed capitals at most.
  cases c with
  | snake => exact hself '_' rfl
  | kebab => exact hself '-' rfl
  | constant => exact lettersOf_join (fun w hw => lettersOf_upper (h w hw)) rfl
  | pascal => exact lettersOf_flatten hcapital
  | camel =>
    cases ws with
    | nil => rfl
    | cons w ws =>
      obtain ⟨hw, hws⟩ := List.forall_mem_cons.mp h
      have hrest : lettersOf (humps ws) = ws.flatten := lettersOf_flatten fun v hv => lettersOf_capital (hws v hv)
      rw [write, lettersOf_append, lettersOf_word hw, hrest, List.flatten_cons]
  | title => exact lettersOf_join hcapital rfl

/-! ### Helpers -/

theorem onText_single (f : List Char → List Char) (v : Value) :
    Helper.onText f [v] [] = v.shown.map fun s => .str (.ofList (f s.toList)) := by
  have hsingle : Arguments.single [v] [] = .ok v := rfl
  simp only [Helper.onText, hsingle, bind, Except.bind]
  cases v.shown <;> rfl

namespace Convention

/-- The helper of a convention. -/
def helper : Convention → Helper
  | snake => .snakeCase
  | kebab => .kebabCase
  | constant => .constantCase
  | pascal => .pascalCase
  | camel => .camelCase
  | title => .titleCase

/-- What the helper of a convention makes of a value. -/
def convert (c : Convention) (v : Value) : Except Fault Value :=
  c.helper.call [v] []

theorem convert_eq (c : Convention) (v : Value) :
    c.convert v = v.shown.map fun s => .str (.ofList (c.apply s.toList)) := by
  cases c <;> exact onText_single _ v

theorem convert_of_long {v : Value} (h : v.hasLongNumber = true) (c : Convention) :
    c.convert v = .error (.foreign .wrongValue) := by
  rw [convert_eq, Value.shown, if_pos h]
  rfl

/-- The words of a value, which all conventions write. -/
theorem exists_convert {v : Value} (h : v.hasLongNumber = false) :
    ∃ ws, (∀ w ∈ ws, IsWord w) ∧ ∀ c : Convention, c.convert v = .ok (.str (.ofList (c.write ws))) := by
  obtain ⟨ws, hws, hsnake⟩ := exists_words v.text.toList
  refine ⟨ws, hws, fun c => ?_⟩
  rw [convert_eq, Value.shown, h, if_neg (by simp), ← apply_eq_write hws hsnake c]
  rfl

/-- A text in which snake case finds some words stands for these words. -/
theorem convert_text {s : List Char} {ws : List (List Char)} (hws : ∀ w ∈ ws, IsWord w)
    (h : snakeCase s = join ['_'] ws) (c : Convention) :
    c.convert (.str (.ofList s)) = .ok (.str (.ofList (c.write ws))) := by
  have hshown : (Value.str (.ofList s)).shown = .ok (.ofList s) := rfl
  rw [convert_eq, hshown, ← apply_eq_write hws h c]
  simp [Except.map]

end Convention

end Stencil.Naming
