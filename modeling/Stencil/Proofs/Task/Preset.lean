import Mathlib.Data.List.Forall2
import Stencil.Proofs.OrderedMap
import Stencil.Proofs.Text.Pieces
import Stencil.Task.Preset

namespace Stencil.Preset

/-!
# Pairs of keys and answers

A pair is a key, an equals sign and an answer. The key has no equals sign, so the first one ends it; the answer may have
more of them. Blanks around the key do not matter. Commas make an answer a list, and blanks around its items do not
matter either; an answer without a comma is taken as it is.

* `IsKey`, `IsItem`, `Padded` — what pairs are put together from;
* `Malformed`, `parse_cases` — a pair is read, or it has no key;
* `parse_pair`, `answer_of_not_mem`, `answer_of_mem` — what is read from a pair;
* `answer_joined`, `answer_eq_of_comma` — the items of a list are read back, empty ones too;
* `mapM_parse_cases` — several pairs are read, or the first one without a key fails all;
* `pairs_read_back` — pairs are read as they were put together.
-/

/-! ### Parts of pairs -/

/-- A text that can be a key: it is not empty, it has no equals sign, and there are no blanks around it. -/
structure IsKey (key : String) : Prop where
  ne_empty : key ≠ ""
  no_sign : '=' ∉ key.toList
  trimmed : Text.IsTrimmed key.toList

/-- A text that can be an item of a list: it has no comma, and there are no blanks around it. -/
structure IsItem (item : String) : Prop where
  no_comma : ',' ∉ item.toList
  trimmed : Text.IsTrimmed item.toList

/-- A text with any blanks around it. -/
def Padded (core text : String) : Prop :=
  ∃ before after, text.toList = before ++ core.toList ++ after ∧ (∀ c ∈ before, Text.isBlank c = true) ∧
    ∀ c ∈ after, Text.isBlank c = true

/-- A text that is no pair: it has no equals sign, or nothing but blanks in front of its first one. -/
def Malformed (pair : String) : Prop :=
  '=' ∉ pair.toList ∨ ∃ blanks answer, pair.toList = blanks ++ '=' :: answer ∧ ∀ c ∈ blanks, Text.isBlank c = true

theorem padded_self (text : String) : Padded text text :=
  ⟨[], [], by simp, by simp, by simp⟩

theorem Padded.trim_eq {core text : String} (h : Padded core text) (hcore : Text.IsTrimmed core.toList) :
    Text.trim text.toList = core.toList := by
  obtain ⟨before, after, htext, hbefore, hafter⟩ := h
  rw [htext, Text.trim_padded hbefore hafter hcore]

/-- A character that is no blank is in the padded text only if it is in the text itself. -/
theorem Padded.not_mem {core text : String} {c : Char} (h : Padded core text) (hblank : Text.isBlank c = false)
    (hcore : c ∉ core.toList) : c ∉ text.toList := by
  obtain ⟨before, after, htext, hbefore, hafter⟩ := h
  rw [htext, List.mem_append, List.mem_append]
  rintro ((hc | hc) | hc)
  · cases hblank.symm.trans (hbefore c hc)
  · exact hcore hc
  · cases hblank.symm.trans (hafter c hc)

/-! ### Keys -/

/-- A pair with a key is read as the key, without blanks around it, and the answer that follows the equals sign. -/
theorem parse_of_toList {pair : String} {key value : List Char} (hpair : pair.toList = key ++ '=' :: value)
    (hkey : '=' ∉ key) (hne : Text.trim key ≠ []) : parse pair = .ok (.ofList (Text.trim key), answer value) := by
  rw [parse, hpair, Text.cut_of_not_mem hkey]
  cases htrim : Text.trim key with
  | nil => exact absurd htrim hne
  | cons c trimmed => simp only [htrim]

theorem parse_pair {key value : List Char} (hkey : '=' ∉ key) (hne : Text.trim key ≠ []) :
    parse (.ofList (key ++ '=' :: value)) = .ok (.ofList (Text.trim key), answer value) :=
  parse_of_toList String.toList_ofList hkey hne

/-- A text is read as a pair, or it is none. -/
theorem parse_cases (pair : String) :
    (Malformed pair ∧ parse pair = .error (invalid pair)) ∨ (¬ Malformed pair ∧ ∃ e, parse pair = .ok e) := by
  by_cases hsign : '=' ∈ pair.toList
  · obtain ⟨key, value, hpair, hkey⟩ := List.eq_append_cons_of_mem hsign
    by_cases hblank : Text.trim key = []
    · left
      refine ⟨.inr ⟨key, value, hpair, Text.trim_eq_nil.mp hblank⟩, ?_⟩
      simp only [parse, hpair, Text.cut_of_not_mem hkey, hblank]
    · right
      refine ⟨?_, _, parse_of_toList hpair hkey hblank⟩
      rintro (hnone | ⟨blanks, value', hpair', hblanks⟩)
      · exact hnone hsign
      · -- The blanks have no equals sign, so they are what stands before the first one.
        have hnot : '=' ∉ blanks := fun hmem => absurd (hblanks '=' hmem) (by decide)
        have hcut := Text.cut_of_not_mem hnot value'
        rw [← hpair', hpair, Text.cut_of_not_mem hkey] at hcut
        obtain ⟨rfl, -⟩ := Prod.mk.inj hcut
        exact hblank (Text.trim_eq_nil.mpr hblanks)
  · left
    refine ⟨.inl hsign, ?_⟩
    simp only [parse, Text.cut_eq_self hsign]

/-- Exactly the malformed texts are refused. -/
theorem parse_eq_error {pair : String} {f : Fault} : parse pair = .error f ↔ Malformed pair ∧ f = invalid pair := by
  rcases parse_cases pair with ⟨hmalformed, herror⟩ | ⟨hformed, e, hok⟩
  · rw [herror, Except.error.injEq]
    exact ⟨fun h => ⟨hmalformed, h.symm⟩, fun h => h.2.symm⟩
  · rw [hok]
    exact ⟨nofun, fun h => absurd h.1 hformed⟩

/-! ### Answers -/

theorem answer_of_not_mem {value : List Char} (h : ',' ∉ value) : answer value = .str (.ofList value) := by
  rw [answer, Text.splitAtChar_of_not_mem h]

/-- An answer with a comma is the list of its trimmed pieces. -/
theorem answer_of_mem {value : List Char} (h : ',' ∈ value) :
    answer value = .list ((Text.splitAtChar ',' value).map fun item => .str (.ofList (Text.trim item))) := by
  have hlength := Text.length_splitAtChar ',' value
  have hcount : 0 < value.count ',' := List.count_pos_iff.mpr h
  rw [answer]
  split
  · next piece heq =>
    -- There are two pieces at least.
    rw [heq, List.length_singleton] at hlength
    omega
  · rfl

/-- Commas with nothing but blanks around them are a list of empty texts, one more than there are commas. -/
theorem answer_eq_of_comma {value : List Char} (hcomma : ',' ∈ value)
    (hvalue : ∀ c ∈ value, Text.isBlank c = true ∨ c = ',') :
    answer value = .list (List.replicate (value.count ',' + 1) (.str "")) := by
  rw [answer_of_mem hcomma, ← Text.length_splitAtChar]
  congr 1
  refine List.map_eq_replicate_iff.mpr fun piece hpiece => ?_
  have hblanks : ∀ c ∈ piece, Text.isBlank c = true := by
    intro c hc
    obtain ⟨hmem, hne⟩ := Text.mem_of_mem_splitAtChar hpiece c hc
    exact (hvalue c hmem).resolve_right hne
  rw [Text.trim_eq_nil.mpr hblanks]

/-- What is put between commas has no comma, and is trimmed to the items. -/
theorem pieces_padded {items texts : List String} (hitems : ∀ item ∈ items, IsItem item)
    (h : List.Forall₂ Padded items texts) :
    (∀ piece ∈ texts.map String.toList, ',' ∉ piece) ∧
      (texts.map String.toList).map (fun piece => Value.str (.ofList (Text.trim piece))) = items.map .str := by
  induction h with
  | nil => simp
  | @cons item text items texts hpadded _ ih =>
    obtain ⟨hitem, hrest⟩ := List.forall_mem_cons.mp hitems
    obtain ⟨hcommas, hvalues⟩ := ih hrest
    have hcomma : ',' ∉ text.toList := hpadded.not_mem (by decide) hitem.no_comma
    refine ⟨List.forall_mem_cons.mpr ⟨hcomma, hcommas⟩, ?_⟩
    simp only [List.map_cons, hpadded.trim_eq hitem.trimmed, String.ofList_toList, hvalues]

/-- The items of a list are read back, whatever blanks are put around them. -/
theorem answer_joined {items texts : List String} (hlength : 2 ≤ items.length) (hitems : ∀ item ∈ items, IsItem item)
    (hpadded : List.Forall₂ Padded items texts) :
    answer (Text.joined "," texts).toList = .list (items.map .str) := by
  obtain ⟨hpieces, hvalues⟩ := pieces_padded hitems hpadded
  have hjoined : (Text.joined "," texts).toList = Text.join [','] (texts.map String.toList) := String.toList_ofList
  rw [hpadded.length_eq] at hlength
  rw [hjoined]
  match texts with
  | first :: second :: rest =>
    have hcomma : ',' ∈ Text.join [','] ((first :: second :: rest).map String.toList) := by
      simp [Text.join_cons_cons]
    rw [answer_of_mem hcomma, Text.splitAtChar_join (by simp) hpieces, hvalues]

/-! ### Several pairs -/

/-- Several pairs are all read, or there is a first one that is refused. -/
theorem mapM_parse_cases (pairs : List String) :
    ((∀ pair ∈ pairs, ¬ Malformed pair) ∧ ∃ entries, List.Forall₂ (fun pair e => parse pair = .ok e) pairs entries ∧
      pairs.mapM parse = .ok entries) ∨
    ∃ before pair after, pairs = before ++ pair :: after ∧ (∀ p ∈ before, ¬ Malformed p) ∧ Malformed pair ∧
      pairs.mapM parse = .error (invalid pair) := by
  -- The first pair that is refused ends the reading, however many are behind it.
  induction pairs with
  | nil => exact .inl ⟨by simp, [], .nil, rfl⟩
  | cons pair pairs ih =>
    rcases parse_cases pair with ⟨hmalformed, herror⟩ | ⟨hformed, e, hok⟩
    · refine .inr ⟨[], pair, pairs, rfl, by simp, hmalformed, ?_⟩
      rw [List.mapM_cons, herror]
      rfl
    · rcases ih with ⟨hall, entries, hentries, hmap⟩ | ⟨before, refused, after, rfl, hbefore, hmalformed, hmap⟩
      · refine .inl ⟨List.forall_mem_cons.mpr ⟨hformed, hall⟩, e :: entries, .cons hok hentries, ?_⟩
        rw [List.mapM_cons, hok, hmap]
        rfl
      · refine .inr ⟨pair :: before, refused, after, rfl, List.forall_mem_cons.mpr ⟨hformed, hbefore⟩, hmalformed, ?_⟩
        rw [List.mapM_cons, hok, hmap]
        rfl

/-- **Pairs are read as they were put together.** A key and items without commas, at least two, are read back from the
pair of them, whatever blanks are put around the key and the items; an answer without a comma is read as it is. The texts
that are refused are those without an equals sign, or with nothing but blanks in front of the first one. If one of
several pairs is refused, the first such one fails all; else each key has the answer of its last pair, at the place of
its first one. -/
theorem pairs_read_back :
    (∀ key written, IsKey key → Padded key written →
      (∀ items texts, 2 ≤ items.length → (∀ item ∈ items, IsItem item) → List.Forall₂ Padded items texts →
        parse (written ++ "=" ++ Text.joined "," texts) = .ok (key, .list (items.map .str))) ∧
      ∀ value : String, ',' ∉ value.toList → parse (written ++ "=" ++ value) = .ok (key, .str value)) ∧
    (∀ pair f, parse pair = .error f ↔ Malformed pair ∧ f = invalid pair) ∧
    ∀ pairs,
      ((∀ pair ∈ pairs, ¬ Malformed pair) → ∃ entries m,
        List.Forall₂ (fun pair e => parse pair = .ok e) pairs entries ∧ parseAll pairs = .ok m ∧
          OrderedMap.Collects entries m) ∧
      ((∃ pair ∈ pairs, Malformed pair) → ∃ before pair after, pairs = before ++ pair :: after ∧
        (∀ p ∈ before, ¬ Malformed p) ∧ Malformed pair ∧ parseAll pairs = .error (invalid pair)) := by
  refine ⟨fun key written hkey hpadded => ?_, fun pair f => parse_eq_error, fun pairs => ?_⟩
  · have hsign : '=' ∉ written.toList := hpadded.not_mem (by decide) hkey.no_sign
    have htrim : Text.trim written.toList = key.toList := hpadded.trim_eq hkey.trimmed
    have hne : Text.trim written.toList ≠ [] := by
      rw [htrim]
      exact mt String.toList_eq_nil_iff.mp hkey.ne_empty
    have hparse : ∀ value : String, parse (written ++ "=" ++ value) = .ok (key, answer value.toList) := fun value => by
      have hpair : (written ++ "=" ++ value).toList = written.toList ++ '=' :: value.toList := by simp
      rw [parse_of_toList hpair hsign hne, htrim, String.ofList_toList]
    refine ⟨fun items texts hlength hitems hpadded => ?_, fun value hcomma => ?_⟩
    · rw [hparse, answer_joined hlength hitems hpadded]
    · rw [hparse, answer_of_not_mem hcomma, String.ofList_toList]
  · rcases mapM_parse_cases pairs with ⟨hall, entries, hentries, hmap⟩ | ⟨before, pair, after, hpairs, hbefore, hmalformed,
      hmap⟩
    · refine ⟨fun _ => ⟨entries, .ofEntries entries, hentries, ?_, OrderedMap.collects_ofEntries entries⟩, ?_⟩
      · rw [parseAll, hmap]
        rfl
      · rintro ⟨pair, hpair, hmalformed⟩
        exact absurd hmalformed (hall pair hpair)
    · refine ⟨fun hall => ?_, fun _ => ⟨before, pair, after, hpairs, hbefore, hmalformed, ?_⟩⟩
      · exact absurd hmalformed (hall pair (by simp [hpairs]))
      · rw [parseAll, hmap]
        rfl

theorem pairs_read_back_tags :
    IsKey "tags" ∧ Padded "tags" " tags" ∧
      parse (" tags" ++ "=" ++ Text.joined "," ["a", " b "]) = .ok ("tags", .list [.str "a", .str "b"]) ∧
      parse (" tags" ++ "=" ++ " x=1 ") = .ok ("tags", .str " x=1 ") ∧
      parseAll ["tags=a", "size=S", "tags=b,c"] = .ok [("tags", .list [.str "b", .str "c"]), ("size", .str "S")] ∧
      ∃ pair, Malformed pair ∧ parseAll ["tags=a", " =b", "size"] = .error (invalid pair) := by
  have hkey : IsKey "tags" := ⟨by decide, by decide, Text.isTrimmed_iff.mpr (by decide)⟩
  have hpadded : Padded "tags" " tags" := ⟨[' '], [], by decide, List.all_eq_true.mp (by decide), List.forall_mem_nil _⟩
  have hitems : ∀ item ∈ ["a", "b"], IsItem item := by
    simp only [List.forall_mem_cons, List.not_mem_nil, false_implies, implies_true, and_true]
    exact ⟨⟨by decide, Text.isTrimmed_iff.mpr (by decide)⟩, ⟨by decide, Text.isTrimmed_iff.mpr (by decide)⟩⟩
  have hwritten : List.Forall₂ Padded ["a", "b"] ["a", " b "] :=
    .cons (padded_self "a") (.cons ⟨[' '], [' '], by decide, List.all_eq_true.mp (by decide), List.all_eq_true.mp (by decide)⟩ .nil)
  obtain ⟨hread, -, hpairs⟩ := pairs_read_back
  obtain ⟨hlist, htext⟩ := hread "tags" " tags" hkey hpadded
  have hformed : ∀ pair ∈ ["tags=a", "size=S", "tags=b,c"], ¬ Malformed pair := by
    intro pair hpair hmalformed
    have herror : parse pair = .error (invalid pair) := parse_eq_error.mpr ⟨hmalformed, rfl⟩
    simp only [List.mem_cons, List.not_mem_nil, or_false] at hpair
    rcases hpair with rfl | rfl | rfl <;> cases herror
  obtain ⟨_, m, -, hm, -⟩ := (hpairs ["tags=a", "size=S", "tags=b,c"]).1 hformed
  have hlast : parseAll ["tags=a", "size=S", "tags=b,c"] =
      .ok [("tags", .list [.str "b", .str "c"]), ("size", .str "S")] := rfl
  obtain rfl := Except.ok.inj (hm.symm.trans hlast)
  obtain ⟨_, pair, _, -, -, hmalformed, herror⟩ := (hpairs ["tags=a", " =b", "size"]).2
    ⟨"size", by decide, .inl (by decide)⟩
  exact ⟨hkey, hpadded, hlist _ _ (by decide) hitems hwritten, htext " x=1 " (by decide), hm, pair, hmalformed, herror⟩

end Stencil.Preset
