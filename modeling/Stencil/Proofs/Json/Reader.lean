import Mathlib.Data.List.TakeWhile
import Stencil.Json.Reader
import Stencil.Json.Writer
import Stencil.Proofs.Decimal.Reader

namespace Stencil.Json

/-!
# Documents that are written and read back

Every document without floating point numbers is read from its text, with any indentation by white space. Its texts for
all indentations differ in white space only, and not inside strings.

* `Json.stringBody?_flatMap` — a string is read up to its closing quote;
* `Json.number?_renderInt` — the digits of an integer stand for it;
* `Json.IsGap`, `Json.IsBlankUnit` — white space, and indentation by white space;
* `Json.Readable` — a document that is read from its text wherever it stands;
* `Json.parse?_toText` — the document that a written text holds;
* `Json.compact` — a text without the white space outside strings;
* `Json.compact_toText` — the texts of a document are the same without it.
-/

open Text

/-! ### Strings -/

/-- The digits of a control character stand for it. -/
theorem hex4?_hexDigits : ∀ n < 32, ∃ a b c d, hexDigits 4 n = [a, b, c, d] ∧ hex4? a b c d = some n := by
  intro n hn
  refine ⟨'0', '0', hexDigit (n / 16), hexDigit (n % 16), ?_, ?_⟩
  · revert n
    decide
  · revert n
    decide

theorem exists_hex4? {e f g h : Char} {rest : List Char} {p : List Char × List Char}
    (hrest : stringBody? ('\\' :: 'u' :: e :: f :: g :: h :: rest) = some p) : ∃ n, hex4? e f g h = some n := by
  cases hn : hex4? e f g h with
  | some n => exact ⟨n, rfl⟩
  | none =>
    by_cases hnext : ∃ e f g h r, rest = '\\' :: 'u' :: e :: f :: g :: h :: r
    · obtain ⟨_, _, _, _, r, rfl⟩ := hnext
      rw [stringBody?.eq_3, hn] at hrest
      cases hrest
    · rw [stringBody?.eq_4 e f g h rest fun a b c d r hr => hnext ⟨a, b, c, d, r, hr⟩, hn] at hrest
      cases hrest

/-- An escape with digits stands for its character, even if another one follows, unless it is half of a character. -/
theorem stringBody?_numbered {a b c d : Char} {n : Nat} (hn : hex4? a b c d = some n) (hlt : n < 0xD800)
    {s rest after : List Char} (hrest : stringBody? rest = some (s, after)) :
    stringBody? ('\\' :: 'u' :: a :: b :: c :: d :: rest) = some (Char.ofNat n :: s, after) := by
  by_cases hnext : ∃ e f g h r, rest = '\\' :: 'u' :: e :: f :: g :: h :: r
  · obtain ⟨e, f, g, h, r, rfl⟩ := hnext
    obtain ⟨lo, hlo⟩ := exists_hex4? hrest
    have hhalf : ¬0xD800 ≤ n := by omega
    rw [stringBody?.eq_3, hn, hlo]
    simp [hrest, hhalf]
  · rw [stringBody?.eq_4 a b c d rest fun e f g h r hr => hnext ⟨e, f, g, h, r, hr⟩, hn, hrest]
    rfl

theorem stringBody?_short {c d : Char} (hc : c ≠ 'u') (hd : shortEscape? c = some d) {s rest after : List Char}
    (hrest : stringBody? rest = some (s, after)) : stringBody? ('\\' :: c :: rest) = some (d :: s, after) := by
  rw [stringBody?.eq_5 c rest (fun _ _ _ _ _ _ _ _ _ h _ => hc h) fun _ _ _ _ _ h _ => hc h, hd, hrest]
  rfl

theorem stringBody?_plain {c : Char} (hquote : c ≠ '"') (hslash : c ≠ '\\') (hc : ¬c.toNat < 32)
    {s rest after : List Char} (hrest : stringBody? rest = some (s, after)) :
    stringBody? (c :: rest) = some (c :: s, after) := by
  rw [stringBody?.eq_6 c rest hquote (fun _ _ _ _ _ _ _ _ _ h _ => hslash h) (fun _ _ _ _ _ h _ => hslash h)
    fun _ _ h _ => hslash h, if_neg hc, hrest]
  rfl

theorem stringBody?_escapeChar (c : Char) {s rest after : List Char} (hrest : stringBody? rest = some (s, after)) :
    stringBody? (escapeChar c ++ rest) = some (c :: s, after) := by
  unfold escapeChar
  split_ifs with hquote hslash hn hr ht hb hf hcontrol
  · rw [hquote]
    exact stringBody?_short (by decide) rfl hrest
  · rw [hslash]
    exact stringBody?_short (by decide) rfl hrest
  · rw [hn]
    exact stringBody?_short (by decide) rfl hrest
  · rw [hr]
    exact stringBody?_short (by decide) rfl hrest
  · rw [ht]
    exact stringBody?_short (by decide) rfl hrest
  · rw [hb]
    exact stringBody?_short (by decide) rfl hrest
  · rw [hf]
    exact stringBody?_short (by decide) rfl hrest
  · obtain ⟨a, b, d, e, hdigits, hvalue⟩ := hex4?_hexDigits c.toNat hcontrol
    have hread := stringBody?_numbered hvalue (by omega) hrest
    rw [Char.ofNat_toNat] at hread
    rwa [hdigits]
  · exact stringBody?_plain hquote hslash hcontrol hrest

/-- A string is read up to its closing quote. -/
theorem stringBody?_flatMap (s after : List Char) :
    stringBody? (s.flatMap escapeChar ++ '"' :: after) = some (s, after) := by
  induction s with
  | nil => exact stringBody?.eq_2 after
  | cons c s ih =>
    rw [List.flatMap_cons, List.append_assoc]
    exact stringBody?_escapeChar c ih

/-! ### Integers -/

theorem isNumberChar_of_isDigit {c : Char} (h : c.isDigit = true) : isNumberChar c = true := by
  simp [isNumberChar, h]

section Digits

variable {ds : List Char} (hne : ds ≠ []) (hdigits : ∀ c ∈ ds, c.isDigit = true)
include hne hdigits

omit hne in
theorem any_mark_of_isDigit : ds.any (fun c => c == '.' || c == 'e' || c == 'E') = false := by
  refine List.any_eq_false.mpr fun c hc => ?_
  simp only [Bool.or_eq_true, beq_iff_eq]
  rintro ((rfl | rfl) | rfl) <;> exact absurd (hdigits _ hc) (by decide)

theorem number?_negative : number? ('-' :: ds) = some (.int (-(Nat.ofDigitChars 10 ds 0 : Nat))) := by
  have hall : ds.all Char.isDigit = true := List.all_eq_true.mpr hdigits
  have hany : ('-' :: ds).any (fun c => c == '.' || c == 'e' || c == 'E') = false := by
    rw [List.any_cons, any_mark_of_isDigit hdigits]
    rfl
  simp only [number?, hany, hall]
  simp [hne, Nat.ofDigitChars]

theorem number?_natural : number? ds = some (.int (Nat.ofDigitChars 10 ds 0 : Nat)) := by
  have hall : ds.all Char.isDigit = true := List.all_eq_true.mpr hdigits
  obtain ⟨d, ds, rfl⟩ := List.exists_cons_of_ne_nil hne
  have hd : d ≠ '-' := by
    rintro rfl
    exact absurd (hdigits _ List.mem_cons_self) (by decide)
  unfold number?
  rw [any_mark_of_isDigit hdigits, if_neg Bool.false_ne_true]
  split
  rename_i negative rest hmatch
  split at hmatch
  · simp_all
  · obtain ⟨rfl, rfl⟩ := Prod.mk.inj hmatch
    simp only [hall]
    simp [Nat.ofDigitChars]

end Digits

/-- The digits of a number stand for it, with or without a sign. -/
theorem number?_renderInt (n : Int) : number? (renderInt n) = some (.int n) := by
  have hdigits : ∀ c ∈ Nat.toDigits 10 n.natAbs, c.isDigit = true := Decimal.isDigit_of_mem_toDigits
  have hvalue : Nat.ofDigitChars 10 (Nat.toDigits 10 n.natAbs) 0 = n.natAbs :=
    Nat.ofDigitChars_toDigits (by decide) (by decide)
  unfold renderInt
  split_ifs with hn
  · rw [number?_negative Nat.toDigits_ne_nil hdigits, hvalue]
    congr
    omega
  · rw [number?_natural Nat.toDigits_ne_nil hdigits, hvalue]
    congr
    omega

theorem isNumberChar_of_mem_renderInt {n : Int} {c : Char} (h : c ∈ renderInt n) : isNumberChar c = true := by
  unfold renderInt at h
  split_ifs at h
  · rcases List.mem_cons.mp h with rfl | h
    · rfl
    · exact isNumberChar_of_isDigit (Decimal.isDigit_of_mem_toDigits c h)
  · exact isNumberChar_of_isDigit (Decimal.isDigit_of_mem_toDigits c h)

/-! ### White space -/

/-- A text of white space. -/
def IsGap (s : List Char) : Prop :=
  ∀ c ∈ s, isSpace c = true

theorem skipSpace_append {gap : List Char} (hgap : IsGap gap) (s : List Char) : skipSpace (gap ++ s) = skipSpace s :=
  List.dropWhile_append_of_pos hgap

theorem skipSpace_cons {c : Char} (hc : isSpace c = false) (s : List Char) : skipSpace (c :: s) = c :: s :=
  List.dropWhile_cons_of_neg (by simp [hc])

/-- A unit of indentation made of white space. -/
def IsBlankUnit (unit : Option (List Char)) : Prop :=
  ∀ s ∈ unit, IsGap s

section Layout

variable {unit : Option (List Char)} (hunit : IsBlankUnit unit)
include hunit

theorem isGap_lineBreak (depth : Nat) : IsGap (lineBreak unit depth) := by
  cases unit with
  | none => exact nofun
  | some s =>
    refine List.forall_mem_cons.mpr ⟨rfl, fun c hc => ?_⟩
    obtain ⟨piece, hpiece, hc⟩ := List.mem_flatten.mp hc
    exact hunit s rfl c (List.eq_of_mem_replicate hpiece ▸ hc)

/-- Two items are separated by a comma and white space. -/
theorem exists_separator (depth : Nat) : ∃ gap, IsGap gap ∧ separator unit depth = ',' :: gap := by
  cases hu : unit with
  | none => exact ⟨[' '], by simp [IsGap, isSpace], rfl⟩
  | some s => exact ⟨lineBreak (some s) depth, hu ▸ isGap_lineBreak hunit depth, rfl⟩

end Layout

/-! ### Documents that are read back -/

/-- A document without floating point numbers. -/
inductive Exact : Json → Prop
  | null : Exact .null
  | bool (b : Bool) : Exact (.bool b)
  | int (n : Int) : Exact (.int n)
  | str (s : String) : Exact (.str s)
  | arr {items : List Json} : (∀ x ∈ items, Exact x) → Exact (.arr items)
  | obj {fields : List (String × Json)} : (∀ field ∈ fields, Exact field.2) → Exact (.obj fields)

theorem render_arr_append (unit : Option (List Char)) (depth : Nat) (x : Json) (xs : List Json) (rest : List Char) :
    render unit depth (.arr (x :: xs)) ++ rest = '[' :: (lineBreak unit (depth + 1) ++ (render unit (depth + 1) x ++
      (renderItems unit (depth + 1) xs ++ (lineBreak unit depth ++ ']' :: rest)))) := by
  simp [render]

theorem render_obj_append (unit : Option (List Char)) (depth : Nat) (field : String × Json)
    (fields : List (String × Json)) (rest : List Char) :
    render unit depth (.obj (field :: fields)) ++ rest = '{' :: (lineBreak unit (depth + 1) ++
      (renderString field.1 ++ ':' :: ' ' :: (render unit (depth + 1) field.2 ++
        (renderFields unit (depth + 1) fields ++ (lineBreak unit depth ++ '}' :: rest))))) := by
  simp [render]

/-- A text that cannot carry on a number. -/
def EndsNumber (s : List Char) : Prop :=
  ∀ c ∈ s.head?, isNumberChar c = false

/-- A document that is read from its text wherever it stands, given as much fuel as the text is long. -/
def Readable (unit : Option (List Char)) (j : Json) : Prop :=
  ∀ depth fuel rest, (render unit depth j).length ≤ fuel → EndsNumber rest →
    value? fuel (render unit depth j ++ rest) = some (j, rest)

theorem not_isSpace_of_isNumberChar {c : Char} (h : isNumberChar c = true) : isSpace c = false := by
  by_contra hc
  simp only [isSpace, Bool.not_eq_false, Bool.or_eq_true, beq_iff_eq] at hc
  rcases hc with ((rfl | rfl) | rfl) | rfl <;> exact absurd h (by decide)

theorem exists_renderInt (n : Int) : ∃ c s, renderInt n = c :: s ∧ isNumberChar c = true := by
  have hne : renderInt n ≠ [] := by
    unfold renderInt
    split_ifs
    · simp
    · exact Nat.toDigits_ne_nil
  obtain ⟨c, s, hs⟩ := List.exists_cons_of_ne_nil hne
  exact ⟨c, s, hs, isNumberChar_of_mem_renderInt (hs ▸ List.mem_cons_self)⟩

/-- A document starts with neither white space nor a closing bracket. -/
theorem exists_render (unit : Option (List Char)) (depth : Nat) {j : Json} (h : Exact j) :
    ∃ c s, render unit depth j = c :: s ∧ isSpace c = false ∧ c ≠ ']' := by
  cases h with
  | null => exact ⟨_, _, rfl, rfl, by decide⟩
  | bool b => cases b <;> exact ⟨_, _, rfl, rfl, by decide⟩
  | int n =>
    obtain ⟨c, s, hs, hc⟩ := exists_renderInt n
    refine ⟨c, s, hs, not_isSpace_of_isNumberChar hc, ?_⟩
    rintro rfl
    exact absurd hc (by decide)
  | str s => exact ⟨_, _, rfl, rfl, by decide⟩
  | @arr items _ => cases items <;> exact ⟨_, _, rfl, rfl, by decide⟩
  | @obj fields _ => cases fields <;> exact ⟨_, _, rfl, rfl, by decide⟩

theorem value?_gap {gap : List Char} (hgap : IsGap gap) (fuel : Nat) (s : List Char) :
    value? fuel (gap ++ s) = value? fuel s := by
  cases fuel with
  | zero => rfl
  | succ fuel => rw [value?, value?, skipSpace_append hgap]

/-- A number is read up to the first character that is none of a number. -/
theorem value?_number {c : Char} (hc : isNumberChar c = true) (fuel : Nat) (s : List Char) :
    value? (fuel + 1) (c :: s) =
      (number? ((c :: s).takeWhile isNumberChar)).map fun n => (n, (c :: s).dropWhile isNumberChar) := by
  rw [value?, skipSpace_cons (not_isSpace_of_isNumberChar hc)]
  split
  case h_7 => cases number? ((c :: s).takeWhile isNumberChar) <;> rfl
  all_goals
    rename_i heq
    obtain ⟨rfl, -⟩ := List.cons.inj heq
    exact absurd hc (by decide)

theorem readable_int (unit : Option (List Char)) (n : Int) : Readable unit (.int n) := by
  intro depth fuel rest hfuel hrest
  obtain ⟨c, s, hs, hc⟩ := exists_renderInt n
  have hall : ∀ d ∈ renderInt n, isNumberChar d = true := fun d hd => isNumberChar_of_mem_renderInt hd
  -- Nothing that may follow a number continues it, so the reader takes its characters and no more.
  have htake : rest.takeWhile isNumberChar = [] := by
    cases rest with
    | nil => rfl
    | cons d rest => simp [hrest d (by simp)]
  have hdrop : rest.dropWhile isNumberChar = rest := by
    cases rest with
    | nil => rfl
    | cons d rest => simp [hrest d (by simp)]
  cases fuel with
  | zero => simp [render, hs] at hfuel
  | succ fuel =>
    have hread := value?_number hc fuel (s ++ rest)
    rw [← List.cons_append, ← hs, List.takeWhile_append_of_pos hall, List.dropWhile_append_of_pos hall, htake, hdrop,
      List.append_nil, number?_renderInt] at hread
    rw [render]
    exact hread

theorem endsNumber_cons {c : Char} (hc : isNumberChar c = false) (s : List Char) : EndsNumber (c :: s) := by
  simpa [EndsNumber] using hc

theorem endsNumber_gap {gap : List Char} (hgap : IsGap gap) {c : Char} (hc : isNumberChar c = false) (s : List Char) :
    EndsNumber (gap ++ c :: s) := by
  cases gap with
  | nil => exact endsNumber_cons hc s
  | cons d gap =>
    refine endsNumber_cons ?_ _
    by_contra hd
    have hspace := hgap d List.mem_cons_self
    rw [not_isSpace_of_isNumberChar (by simpa using hd)] at hspace
    cases hspace

/-- A key is read up to the colon after it. -/
theorem field?_render {unit : Option (List Char)} {gap : List Char} (hgap : IsGap gap) (k : String) {v : Json}
    (hv : Readable unit v) (depth : Nat) {fuel : Nat} (hfuel : (render unit depth v).length < fuel) {rest : List Char}
    (hrest : EndsNumber rest) :
    field? fuel (gap ++ (renderString k ++ ':' :: ' ' :: (render unit depth v ++ rest))) = some ((k, v), rest) := by
  obtain ⟨fuel, rfl⟩ := Nat.exists_eq_add_one_of_ne_zero (Nat.ne_zero_of_lt hfuel)
  have hspace : IsGap [' '] := by simp [IsGap, isSpace]
  have hvalue : value? fuel (' ' :: (render unit depth v ++ rest)) = some (v, rest) :=
    (value?_gap hspace fuel _).trans (hv depth fuel rest (by omega) hrest)
  have hcolon : skipSpace (':' :: ' ' :: (render unit depth v ++ rest)) = ':' :: ' ' :: (render unit depth v ++ rest) :=
    skipSpace_cons rfl _
  rw [field?, skipSpace_append hgap, renderString, List.cons_append, List.cons_append, skipSpace_cons rfl,
    List.append_assoc]
  simp only [List.singleton_append, stringBody?_flatMap, bind, Option.bind, hcolon, hvalue, String.ofList_toList, pure]

section Parts

variable {unit : Option (List Char)} (hunit : IsBlankUnit unit) {gap : List Char} (hgap : IsGap gap)
include hunit hgap

theorem endsNumber_renderItems (depth : Nat) (xs : List Json) (rest : List Char) :
    EndsNumber (renderItems unit depth xs ++ (gap ++ ']' :: rest)) := by
  cases xs with
  | nil => exact endsNumber_gap hgap rfl rest
  | cons x xs =>
    obtain ⟨gap', -, hsep⟩ := exists_separator hunit depth
    rw [renderItems, hsep]
    exact endsNumber_cons rfl _

theorem items?_renderItems {xs : List Json} (h : ∀ x ∈ xs, Readable unit x) (depth : Nat) {fuel : Nat}
    (hfuel : (renderItems unit depth xs).length < fuel) (rest : List Char) :
    items? fuel (renderItems unit depth xs ++ (gap ++ ']' :: rest)) = some (xs, rest) := by
  -- The fuel is longer than the text, so there is enough of it for each item and what follows it.
  induction xs generalizing fuel with
  | nil =>
    obtain ⟨fuel, rfl⟩ := Nat.exists_eq_add_one_of_ne_zero (Nat.ne_zero_of_lt hfuel)
    rw [renderItems, List.nil_append, items?, skipSpace_append hgap, skipSpace_cons rfl]
    rfl
  | cons x xs ih =>
    obtain ⟨hx, hxs⟩ := List.forall_mem_cons.mp h
    obtain ⟨gap', hgap', hsep⟩ := exists_separator hunit depth
    obtain ⟨fuel, rfl⟩ := Nat.exists_eq_add_one_of_ne_zero (Nat.ne_zero_of_lt hfuel)
    simp only [renderItems, hsep, List.length_append, List.length_cons] at hfuel
    have hvalue := hx depth fuel (renderItems unit depth xs ++ (gap ++ ']' :: rest)) (by omega)
      (endsNumber_renderItems hunit hgap depth xs rest)
    have hitems : items? fuel (renderItems unit depth xs ++ (gap ++ ']' :: rest)) = some (xs, rest) :=
      ih hxs (by omega)
    rw [renderItems, hsep, items?, List.append_assoc, List.append_assoc, List.cons_append, skipSpace_cons rfl]
    simp only [value?_gap hgap', hvalue, hitems, bind, Option.bind, pure]

theorem endsNumber_renderFields (depth : Nat) (fields : List (String × Json)) (rest : List Char) :
    EndsNumber (renderFields unit depth fields ++ (gap ++ '}' :: rest)) := by
  cases fields with
  | nil => exact endsNumber_gap hgap rfl rest
  | cons field fields =>
    obtain ⟨gap', -, hsep⟩ := exists_separator hunit depth
    rw [renderFields, hsep]
    exact endsNumber_cons rfl _

theorem fields?_renderFields {fields : List (String × Json)} (h : ∀ field ∈ fields, Readable unit field.2) (depth : Nat)
    {fuel : Nat} (hfuel : (renderFields unit depth fields).length < fuel) (rest : List Char) :
    fields? fuel (renderFields unit depth fields ++ (gap ++ '}' :: rest)) = some (fields, rest) := by
  induction fields generalizing fuel with
  | nil =>
    obtain ⟨fuel, rfl⟩ := Nat.exists_eq_add_one_of_ne_zero (Nat.ne_zero_of_lt hfuel)
    rw [renderFields, List.nil_append, fields?, skipSpace_append hgap, skipSpace_cons rfl]
    rfl
  | cons field fields ih =>
    obtain ⟨hv, hfields⟩ := List.forall_mem_cons.mp h
    obtain ⟨gap', hgap', hsep⟩ := exists_separator hunit depth
    obtain ⟨fuel, rfl⟩ := Nat.exists_eq_add_one_of_ne_zero (Nat.ne_zero_of_lt hfuel)
    simp only [renderFields, hsep, List.length_append, List.length_cons] at hfuel
    have hfield := field?_render hgap' field.1 hv depth (show _ < fuel by omega)
      (endsNumber_renderFields hunit hgap depth fields rest)
    have hcomma : ∀ s, skipSpace (',' :: s) = ',' :: s := skipSpace_cons rfl
    have hrest : fields? fuel (renderFields unit depth fields ++ (gap ++ '}' :: rest)) = some (fields, rest) :=
      ih hfields (by omega)
    rw [renderFields, hsep, fields?]
    simp only [List.append_assoc, List.cons_append, hcomma, hfield, hrest, bind, Option.bind, pure]

end Parts

section Kinds

variable {unit : Option (List Char)} (hunit : IsBlankUnit unit)

theorem Readable.of_succ {j : Json} (hexact : Exact j)
    (h : ∀ depth fuel rest, (render unit depth j).length ≤ fuel + 1 → EndsNumber rest →
      value? (fuel + 1) (render unit depth j ++ rest) = some (j, rest)) : Readable unit j := by
  intro depth fuel rest hfuel hrest
  obtain ⟨c, s, hs, -⟩ := exists_render unit depth hexact
  have hpos : fuel ≠ 0 := by
    rintro rfl
    simp [hs] at hfuel
  obtain ⟨fuel, rfl⟩ := Nat.exists_eq_add_one_of_ne_zero hpos
  exact h depth fuel rest hfuel hrest

theorem readable_null : Readable unit .null := by
  refine .of_succ .null fun depth fuel rest _ _ => ?_
  rw [render, List.cons_append, value?, skipSpace_cons rfl]
  rfl

theorem readable_bool (b : Bool) : Readable unit (.bool b) := by
  refine .of_succ (.bool b) fun depth fuel rest _ _ => ?_
  cases b <;>
  · rw [render, List.cons_append, value?, skipSpace_cons rfl]
    rfl

theorem readable_str (s : String) : Readable unit (.str s) := by
  refine .of_succ (.str s) fun depth fuel rest _ _ => ?_
  rw [render, renderString, List.cons_append, List.cons_append, List.append_assoc, value?, skipSpace_cons rfl]
  simp only [List.singleton_append, stringBody?_flatMap, Option.map_some, String.ofList_toList]

include hunit in
theorem readable_arr {items : List Json} (hexact : ∀ x ∈ items, Exact x) (h : ∀ x ∈ items, Readable unit x) :
    Readable unit (.arr items) := by
  refine .of_succ (.arr hexact) fun depth fuel rest hfuel _ => ?_
  cases items with
  | nil =>
    rw [render, List.cons_append, value?, skipSpace_cons rfl]
    rfl
  | cons x xs =>
    obtain ⟨hx, hxs⟩ := List.forall_mem_cons.mp h
    have hgap := isGap_lineBreak hunit depth
    have hstart := isGap_lineBreak hunit (depth + 1)
    obtain ⟨c, s, hs, hspace, hclose⟩ := exists_render unit (depth + 1) (hexact x List.mem_cons_self)
    simp only [render, List.length_append, List.length_cons] at hfuel
    have hvalue := hx (depth + 1) fuel (renderItems unit (depth + 1) xs ++ (lineBreak unit depth ++ ']' :: rest))
      (by omega) (endsNumber_renderItems hunit hgap (depth + 1) xs rest)
    have hitems := items?_renderItems hunit hgap hxs (depth + 1) (show _ < fuel by omega) rest
    rw [hs, List.cons_append] at hvalue
    rw [render_arr_append, hs, List.cons_append, value?, skipSpace_cons rfl]
    simp only [skipSpace_append hstart, skipSpace_cons hspace]
    -- An item does not start like the end of the array.
    split
    case h_1 heq => exact absurd (List.cons.inj heq).1 hclose
    case h_2 => simp only [hvalue, hitems, bind, Option.bind, pure]

include hunit in
theorem readable_obj {fields : List (String × Json)} (hexact : ∀ field ∈ fields, Exact field.2)
    (h : ∀ field ∈ fields, Readable unit field.2) : Readable unit (.obj fields) := by
  refine .of_succ (.obj hexact) fun depth fuel rest hfuel _ => ?_
  cases fields with
  | nil =>
    rw [render, List.cons_append, value?, skipSpace_cons rfl]
    rfl
  | cons field fields =>
    obtain ⟨hv, hfields⟩ := List.forall_mem_cons.mp h
    have hgap := isGap_lineBreak hunit depth
    have hstart := isGap_lineBreak hunit (depth + 1)
    simp only [render, List.length_append, List.length_cons] at hfuel
    have hnone : IsGap [] := List.forall_mem_nil _
    have hfield := field?_render hnone field.1 hv (depth + 1) (show _ < fuel by omega)
      (endsNumber_renderFields hunit hgap (depth + 1) fields rest)
    have hrest := fields?_renderFields hunit hgap hfields (depth + 1) (show _ < fuel by omega) rest
    have hquote : ∀ s, skipSpace (renderString field.1 ++ s) = renderString field.1 ++ s :=
      fun _ => skipSpace_cons rfl _
    rw [List.nil_append] at hfield
    rw [render_obj_append, value?, skipSpace_cons rfl]
    simp only [skipSpace_append hstart, hquote]
    split
    case h_1 heq => exact absurd (List.cons.inj heq).1 (by decide)
    case h_2 => simp only [hfield, hrest, bind, Option.bind, pure]

end Kinds

/-- Every document without floating point numbers is read from its text. -/
theorem readable_of_exact {unit : Option (List Char)} (hunit : IsBlankUnit unit) {j : Json} (h : Exact j) :
    Readable unit j := by
  induction h with
  | null => exact readable_null
  | bool b => exact readable_bool b
  | int n => exact readable_int unit n
  | str s => exact readable_str s
  | arr hexact ih => exact readable_arr hunit hexact ih
  | obj hexact ih => exact readable_obj hunit hexact ih

/-- **Documents are read back from their texts.** A document without floating point numbers is the document that its
text holds, with any indentation by white space. -/
theorem parse?_toText {unit : Option (List Char)} (hunit : IsBlankUnit unit) {j : Json} (h : Exact j) :
    parse? (j.toText unit) = some j := by
  have hread := readable_of_exact hunit h 0 ((render unit 0 j).length + 1) [] (by omega) nofun
  rw [List.append_nil] at hread
  simp only [parse?, toText, String.toList_ofList, hread, bind, Option.bind]
  rfl

/-! ### Texts without white space -/

mutual

/-- A text without the white space outside strings. -/
def compact : List Char → List Char
  | [] => []
  | '"' :: s => '"' :: compactString s
  | c :: s => if isSpace c then compact s else c :: compact s

/-- What is left of a text that starts inside a string; a character after a backslash does not end the string. -/
def compactString : List Char → List Char
  | [] => []
  | '"' :: s => '"' :: compact s
  | '\\' :: c :: s => '\\' :: c :: compactString s
  | c :: s => c :: compactString s

end

/-! ### Inside and outside strings -/

theorem compact_gap {gap : List Char} (hgap : IsGap gap) (s : List Char) : compact (gap ++ s) = compact s := by
  induction gap with
  | nil => rfl
  | cons c gap ih =>
    obtain ⟨hc, hgap⟩ := List.forall_mem_cons.mp hgap
    have hquote : c ≠ '"' := by
      rintro rfl
      exact absurd hc (by decide)
    rw [List.cons_append, compact.eq_3 c _ hquote, if_pos hc, ih hgap]

/-- A character that neither ends a string nor starts an escape. -/
def IsInner (c : Char) : Prop :=
  c ≠ '"' ∧ c ≠ '\\'

theorem compactString_cons {c : Char} (hc : IsInner c) (s : List Char) :
    compactString (c :: s) = c :: compactString s :=
  compactString.eq_4 c s hc.1 fun _ _ h _ => hc.2 h

theorem isInner_hexDigits : ∀ n < 32, ∀ c ∈ hexDigits 4 n, IsInner c := by
  have hall : ∀ n < 32, (hexDigits 4 n).all (fun c => c != '"' && c != '\\') = true := by decide
  intro n hn c hc
  simpa [IsInner] using List.all_eq_true.mp (hall n hn) c hc

theorem compactString_append {w : List Char} (hw : ∀ c ∈ w, IsInner c) (s : List Char) :
    compactString (w ++ s) = w ++ compactString s := by
  induction w with
  | nil => rfl
  | cons c w ih =>
    obtain ⟨hc, hw⟩ := List.forall_mem_cons.mp hw
    rw [List.cons_append, compactString_cons hc, ih hw, List.cons_append]

theorem compactString_escapeChar (c : Char) (s : List Char) :
    compactString (escapeChar c ++ s) = escapeChar c ++ compactString s := by
  unfold escapeChar
  split_ifs with hquote hslash hn hr ht hb hf hcontrol
  iterate 7 exact compactString.eq_3 _ s
  · rw [List.cons_append, List.cons_append, compactString.eq_3, compactString_append (isInner_hexDigits _ hcontrol)]
    rfl
  · exact compactString_cons ⟨hquote, hslash⟩ s

theorem compact_renderString (k : String) (s : List Char) :
    compact (renderString k ++ s) = renderString k ++ compact s := by
  have hbody : ∀ w : List Char,
      compactString (w.flatMap escapeChar ++ '"' :: s) = w.flatMap escapeChar ++ '"' :: compact s := fun w => by
    induction w with
    | nil => exact compactString.eq_2 s
    | cons c w ih => rw [List.flatMap_cons, List.append_assoc, compactString_escapeChar, ih, List.append_assoc]
  simp only [renderString, List.cons_append, List.append_assoc, List.nil_append, compact.eq_2, hbody]

/-- A character that neither starts a string nor is white space. -/
def IsOuter (c : Char) : Prop :=
  c ≠ '"' ∧ isSpace c = false

instance (c : Char) : Decidable (IsOuter c) :=
  inferInstanceAs (Decidable (_ ∧ _))

theorem compact_cons {c : Char} (hc : IsOuter c) (s : List Char) : compact (c :: s) = c :: compact s := by
  rw [compact.eq_3 c s hc.1, hc.2, if_neg Bool.false_ne_true]

theorem compact_append {w : List Char} (hw : ∀ c ∈ w, IsOuter c) (s : List Char) :
    compact (w ++ s) = w ++ compact s := by
  induction w with
  | nil => rfl
  | cons c w ih =>
    obtain ⟨hc, hw⟩ := List.forall_mem_cons.mp hw
    rw [List.cons_append, compact_cons hc, ih hw, List.cons_append]

theorem isOuter_of_isNumberChar {c : Char} (h : isNumberChar c = true) : IsOuter c := by
  refine ⟨?_, not_isSpace_of_isNumberChar h⟩
  rintro rfl
  exact absurd h (by decide)

/-! ### Documents -/

/-- Two texts that differ only in the white space outside strings. -/
def Alike (s t : List Char) : Prop :=
  compact s = compact t

namespace Alike

variable {s t : List Char}

theorem cons {c : Char} (hc : IsOuter c) (h : Alike s t) : Alike (c :: s) (c :: t) := by
  rw [Alike, compact_cons hc, compact_cons hc, h]

theorem append {w : List Char} (hw : ∀ c ∈ w, IsOuter c) (h : Alike s t) : Alike (w ++ s) (w ++ t) := by
  rw [Alike, compact_append hw, compact_append hw, h]

theorem string (k : String) (h : Alike s t) : Alike (renderString k ++ s) (renderString k ++ t) := by
  rw [Alike, compact_renderString, compact_renderString, h]

theorem gap {gap gap' : List Char} (hgap : IsGap gap) (hgap' : IsGap gap') (h : Alike s t) :
    Alike (gap ++ s) (gap' ++ t) := by
  rw [Alike, compact_gap hgap, compact_gap hgap', h]

end Alike

section Documents

variable {unit unit' : Option (List Char)} (hunit : IsBlankUnit unit) (hunit' : IsBlankUnit unit')
include hunit hunit'

theorem alike_separator (depth depth' : Nat) {s t : List Char} (h : Alike s t) :
    Alike (separator unit depth ++ s) (separator unit' depth' ++ t) := by
  obtain ⟨gap, hgap, hsep⟩ := exists_separator hunit depth
  obtain ⟨gap', hgap', hsep'⟩ := exists_separator hunit' depth'
  rw [hsep, hsep']
  exact .cons (by decide) (.gap hgap hgap' h)

theorem alike_lineBreak (depth depth' : Nat) {s t : List Char} (h : Alike s t) :
    Alike (lineBreak unit depth ++ s) (lineBreak unit' depth' ++ t) :=
  .gap (isGap_lineBreak hunit depth) (isGap_lineBreak hunit' depth') h

/-- The texts of a document for two units of indentation are alike, at any depths and with alike texts after them. -/
def AlikeText (unit unit' : Option (List Char)) (j : Json) : Prop :=
  ∀ (depth depth' : Nat) {s t : List Char}, Alike s t → Alike (render unit depth j ++ s) (render unit' depth' j ++ t)

theorem alike_renderItems {xs : List Json} (hxs : ∀ x ∈ xs, AlikeText unit unit' x) (depth depth' : Nat)
    {s t : List Char} (h : Alike s t) : Alike (renderItems unit depth xs ++ s) (renderItems unit' depth' xs ++ t) := by
  induction xs with
  | nil => simpa [renderItems] using h
  | cons x xs ih =>
    obtain ⟨hx, hxs⟩ := List.forall_mem_cons.mp hxs
    simp only [renderItems, List.append_assoc]
    exact alike_separator hunit hunit' depth depth' (hx depth depth' (ih hxs))

omit hunit hunit' in
/-- A key with its value, and what follows. -/
theorem alike_field (k : String) {v : Json} (hv : AlikeText unit unit' v) (depth depth' : Nat) {s t : List Char}
    (h : Alike s t) : Alike (renderString k ++ ':' :: ' ' :: (render unit depth v ++ s))
      (renderString k ++ ':' :: ' ' :: (render unit' depth' v ++ t)) := by
  have hspace : IsGap [' '] := by simp [IsGap, isSpace]
  have hvalue : Alike ([' '] ++ (render unit depth v ++ s)) ([' '] ++ (render unit' depth' v ++ t)) :=
    .gap hspace hspace (hv depth depth' h)
  exact .string k (.cons (by decide) hvalue)

theorem alike_renderFields {fields : List (String × Json)} (hfields : ∀ field ∈ fields, AlikeText unit unit' field.2)
    (depth depth' : Nat) {s t : List Char} (h : Alike s t) :
    Alike (renderFields unit depth fields ++ s) (renderFields unit' depth' fields ++ t) := by
  induction fields with
  | nil => simpa [renderFields] using h
  | cons field fields ih =>
    obtain ⟨hv, hfields⟩ := List.forall_mem_cons.mp hfields
    simp only [renderFields, List.append_assoc, List.cons_append]
    exact alike_separator hunit hunit' depth depth'
      (alike_field field.1 hv depth depth' (ih hfields))

theorem alikeText_of_exact {j : Json} (hj : Exact j) : AlikeText unit unit' j := by
  -- Both texts are the same but for their line breaks, and these are outside strings.
  induction hj with
  | null => exact fun _ _ _ _ h => .append (w := ['n', 'u', 'l', 'l']) (by simp [IsOuter, isSpace]) h
  | bool b =>
    intro depth depth' s t h
    cases b with
    | false => exact .append (w := ['f', 'a', 'l', 's', 'e']) (by simp [IsOuter, isSpace]) h
    | true => exact .append (w := ['t', 'r', 'u', 'e']) (by simp [IsOuter, isSpace]) h
  | int n => exact fun _ _ _ _ h => .append (fun c hc => isOuter_of_isNumberChar (isNumberChar_of_mem_renderInt hc)) h
  | str k => exact fun _ _ _ _ h => .string k h
  | @arr items _ ih =>
    intro depth depth' s t h
    cases items with
    | nil => exact .append (w := ['[', ']']) (by simp [IsOuter, isSpace]) h
    | cons x xs =>
      obtain ⟨hx, hxs⟩ := List.forall_mem_cons.mp ih
      rw [render_arr_append, render_arr_append]
      refine .cons (by decide) (alike_lineBreak hunit hunit' _ _ (hx _ _ (alike_renderItems hunit hunit' hxs _ _ ?_)))
      exact alike_lineBreak hunit hunit' _ _ (.cons (by decide) h)
  | @obj fields _ ih =>
    intro depth depth' s t h
    cases fields with
    | nil => exact .append (w := ['{', '}']) (by simp [IsOuter, isSpace]) h
    | cons field fields =>
      obtain ⟨hv, hfields⟩ := List.forall_mem_cons.mp ih
      rw [render_obj_append, render_obj_append]
      refine .cons (by decide) (alike_lineBreak hunit hunit' _ _ (alike_field field.1 hv _ _ ?_))
      exact alike_renderFields hunit hunit' hfields _ _ (alike_lineBreak hunit hunit' _ _ (.cons (by decide) h))

/-- **Indentation changes only white space.** The texts of a document for all indentations by white space are the same
without the white space outside strings. -/
theorem compact_toText {j : Json} (hj : Exact j) :
    compact (j.toText unit).toList = compact (j.toText unit').toList := by
  have halike := alikeText_of_exact hunit hunit' hj 0 0 (s := []) (t := []) rfl
  simpa [Alike, toText] using halike

end Documents

end Stencil.Json
