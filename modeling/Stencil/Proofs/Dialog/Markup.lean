import Mathlib.Data.List.TakeWhile
import Stencil.Proofs.Dialog.Widgets

namespace Stencil.Dialog.Markup

/-!
# Legible texts

A console takes what it shows for markup. It fails at a tag that closes none, or whose handler has arguments that are no
constants, and at a color whose parts are no numbers. Whether a text is legible depends on its tags alone, and on which
of them are open where one is closed.

* `Markup.Failure`, `Markup.failsAtText_plain` — the ways in which a console fails at a text;
* `Markup.HasTags` — the tags of a text, with `append` for a tag that follows;
* `Markup.plain_map`, `Markup.legible_iff` — a text is legible exactly if its tags fit together;
* `Markup.IsPlainWord` — words for colors and the like, which tags may always open;
* `Markup.legible_opened`, `Markup.legible_inColor` — what is legible is so after such a tag, and between two.
-/

open Terminal (Legible)

/-! ### Failures -/

/-- The ways in which a console fails at a text. -/
inductive Failure : Fault → Prop
  | tag : Failure (.foreign .badMarkup)
  | color : Failure (.foreign .wrongValue)

/-- A computation fails as a console does at a text, if it fails at all. -/
def FailsAtText {α : Type} (x : Except Fault α) : Prop :=
  ∀ e, x = .error e → Failure e

namespace FailsAtText

variable {α β : Type}

theorem ok (a : α) : FailsAtText (.ok a) := nofun

theorem bind {x : Except Fault α} {f : α → Except Fault β} (h : FailsAtText x) (hf : ∀ a, FailsAtText (f a)) :
    FailsAtText (x >>= f) := by
  cases x with
  | ok a => exact hf a
  | error e =>
    intro e' he
    cases he
    exact h e rfl

theorem map {x : Except Fault α} (h : FailsAtText x) (f : α → β) : FailsAtText (f <$> x) := by
  rw [map_eq_pure_bind]
  exact h.bind fun _ => ok _

end FailsAtText

theorem failsAtText_isColor (word : String) : FailsAtText (isColor word) := by
  unfold isColor
  dsimp only
  split
  · exact .ok _
  · split
    · exact .ok _
    · split
      · exact .ok _
      · split
        · rintro _ ⟨⟩
          exact .color
        · exact .ok _
  · exact .ok _
  · exact .ok _

theorem failsAtText_addWords (s : Style) (words : List String) : FailsAtText (s.addWords words) := by
  fun_induction Style.addWords s words
  case case2 color _ ih =>
    refine (failsAtText_isColor color).bind fun isColor => ?_
    cases isColor
    · exact .ok _
    · exact ih
  case case10 word _ _ _ _ ih =>
    refine (failsAtText_isColor word).bind fun isColor => ?_
    cases isColor
    · exact .ok _
    · exact ih
  case case4 ih | case7 ih | case9 ih => exact ih
  case case1 | case3 | case5 | case6 | case8 => exact .ok _

theorem failsAtText_styleName (tag : List Char) : FailsAtText (styleName tag) := by
  unfold styleName
  split
  · exact .ok _
  · refine (failsAtText_addWords _ _).bind fun style => ?_
    cases style <;> exact .ok _

theorem failsAtText_close (t : OpenTag) : FailsAtText (close t) := by
  unfold close
  split
  · split
    · exact .ok _
    · rintro _ ⟨⟩
      exact .tag
  · exact .ok _

/-- The open tags after one is closed: the innermost of a style, or of all. -/
def closing (open_ : List OpenTag) (style : Option String) : Except Fault (List OpenTag) :=
  match open_.find? fun t => style.all (· = t.name) with
  | none => .error (.foreign .badMarkup)
  | some t => do
    close t
    return open_.eraseP fun t => style.all (· = t.name)

theorem failsAtText_closing (open_ : List OpenTag) (style : Option String) : FailsAtText (closing open_ style) := by
  unfold closing
  split
  · rintro _ ⟨⟩
    exact .tag
  · exact (failsAtText_close _).bind fun _ => .ok _

/-- Whatever is open, a tag closes what it names, or opens something. -/
theorem afterTag_cases (tag : List Char) :
    (∃ style : Except Fault (Option String), FailsAtText style ∧
        ∀ open_, afterTag open_ tag = style >>= closing open_) ∨
      ∃ opened : Except Fault OpenTag, FailsAtText opened ∧
        ∀ open_, afterTag open_ tag = opened >>= fun t => .ok (t :: open_) := by
  -- A tag whose name starts with a slash closes something; any other one opens a style.
  by_cases hname : ∃ closed, tag.takeWhile (· != '=') = '/' :: closed
  · obtain ⟨closed, hname⟩ := hname
    refine .inl ⟨if (Text.trim closed).isEmpty then pure none else some <$> styleName (Text.trim closed), ?_,
      fun open_ => ?_⟩
    · split
      · exact .ok _
      · exact (failsAtText_styleName _).map _
    · simp only [afterTag, hname]
      cases (Text.trim closed).isEmpty <;> rfl
  · let name := tag.takeWhile (· != '=')
    let parameters := if name.length = tag.length then none else some (tag.drop (name.length + 1))
    refine .inr ⟨(⟨·, parameters⟩) <$> styleName name, (failsAtText_styleName _).map _, fun open_ => ?_⟩
    simp only [afterTag]
    split
    · rename_i closed hclosed
      exact absurd ⟨closed, hclosed⟩ hname
    · rcases styleName (tag.takeWhile (· != '=')) with e | style <;> rfl

theorem failsAtText_afterTag (open_ : List OpenTag) (tag : List Char) : FailsAtText (afterTag open_ tag) := by
  rcases afterTag_cases tag with ⟨style, hstyle, heq⟩ | ⟨opened, hopened, heq⟩
  · rw [heq]
    exact hstyle.bind (failsAtText_closing open_)
  · rw [heq]
    exact hopened.bind fun _ => .ok _

theorem failsAtText_textOf (open_ : List OpenTag) (ps : List Piece) : FailsAtText (textOf open_ ps) := by
  induction ps generalizing open_ with
  | nil => exact .ok _
  | cons p ps ih =>
    cases p with
    | text s => exact (ih open_).bind fun _ => .ok _
    | tag t => exact (failsAtText_afterTag open_ t).bind fun _ => ih _

theorem failsAtText_plain (markup : String) : FailsAtText (plain markup) := by
  unfold plain
  dsimp only
  split
  · exact (failsAtText_textOf _ _).map _
  · exact .ok _

/-! ### The first tag -/

theorem drop_length_takeWhile (p : Char → Bool) (s : List Char) : s.drop (s.takeWhile p).length = s.dropWhile p := by
  induction s with
  | nil => rfl
  | cons c s ih => cases hc : p c <;> simp [hc, ih]

theorem firstTag_cons (c : Char) (rest : List Char) :
    (firstTag (c :: rest)).2 = match tagAt? ((c :: rest).dropWhile (· = '\\')) with
      | some (tag, after) => some (((c :: rest).takeWhile (· = '\\')).length, tag, after)
      | none => (firstTag rest).2 := by
  rw [firstTag, drop_length_takeWhile]
  cases tagAt? ((c :: rest).dropWhile (· = '\\')) <;> rfl

theorem tagAt?_of_not_mem {s : List Char} (h : '[' ∉ s) : tagAt? s = none := by
  match s with
  | [] => rfl
  | [c] => simp [tagAt?]
  | c :: d :: rest =>
    have hc : c ≠ '[' := fun hc => h (hc ▸ List.mem_cons_self)
    simp [tagAt?, hc]

theorem firstTag_of_not_mem {s : List Char} (h : '[' ∉ s) : (firstTag s).2 = none := by
  induction s with
  | nil => rfl
  | cons c s ih =>
    rw [firstTag_cons, tagAt?_of_not_mem fun hmem => h ((List.dropWhile_sublist _).mem hmem)]
    exact ih fun hmem => h (List.mem_cons_of_mem c hmem)

section

variable {s e tag rest after : List Char} {c : Char} {slashes : Nat}

theorem tagAt?_eq (hc : startsTag c = true) (htag : ∀ d ∈ tag, d ≠ '[' ∧ d ≠ ']') :
    tagAt? ('[' :: c :: (tag ++ ']' :: rest)) = some (c :: tag, rest) := by
  have hinside : ∀ d ∈ tag, (d != '[' && d != ']') = true := fun d hd => by simpa using htag d hd
  rw [tagAt?, List.dropWhile_append_of_pos hinside, List.takeWhile_append_of_pos hinside]
  simp [hc]

theorem firstTag_eq (hc : startsTag c = true) (htag : ∀ d ∈ tag, d ≠ '[' ∧ d ≠ ']') :
    (firstTag ('[' :: c :: (tag ++ ']' :: rest))).2 = some (0, c :: tag, rest) := by
  rw [firstTag_cons, List.dropWhile_cons_of_neg (by decide), tagAt?_eq hc htag]
  rfl

theorem tagAt?_length (h : tagAt? s = some (tag, after)) : after.length < s.length := by
  unfold tagAt? at h
  split at h
  · rename_i c rest
    dsimp only at h
    split at h
    · rename_i hdrop
      cases h
      have hle := List.length_dropWhile_le (fun c => c != '[' && c != ']') rest
      rw [hdrop] at hle
      simp only [List.length_cons] at hle ⊢
      omega
    · cases h
  · cases h

theorem firstTag_length (h : (firstTag s).2 = some (slashes, tag, after)) : after.length < s.length := by
  induction s with
  | nil => cases h
  | cons c s ih =>
    rw [firstTag_cons] at h
    cases hat : tagAt? ((c :: s).dropWhile (· = '\\')) with
    | none =>
      rw [hat] at h
      exact (ih h).trans (Nat.lt_succ_self _)
    | some found =>
      rw [hat] at h
      cases h
      exact (tagAt?_length hat).trans_le (List.length_dropWhile_le _ _)

/-- What follows a text does not complete a tag in it: no tag goes past an opening bracket. -/
theorem tagAt?_append (hs : s ≠ []) (e : List Char) :
    tagAt? (s ++ '[' :: e) = (tagAt? s).map fun (tag, after) => (tag, after ++ '[' :: e) := by
  match s, hs with
  | [c], _ =>
    by_cases hc : c = '['
    · subst hc
      rfl
    · simp [tagAt?, hc]
  | c :: d :: rest, _ =>
    by_cases hc : c = '['
    · subst hc
      rw [List.cons_append, List.cons_append, tagAt?, tagAt?, List.dropWhile_append, List.takeWhile_append]
      cases hdrop : rest.dropWhile fun c => c != '[' && c != ']' with
      | nil => cases startsTag d <;> simp
      | cons x after =>
        -- The text has a bracket inside, so the scan stops before it comes to what follows the text.
        have hshort : (rest.takeWhile fun c => c != '[' && c != ']').length ≠ rest.length := fun hlength => by
          have happend := List.takeWhile_append_dropWhile (p := fun c => c != '[' && c != ']') (l := rest)
          simpa [hdrop, hlength] using congrArg List.length happend
        rw [if_neg hshort]
        by_cases hx : x = ']' <;> cases startsTag d <;> simp [hx]
    · simp [tagAt?, hc]

/-- What follows a text does not change the first tag of the text. -/
theorem firstTag_append_of_some (h : (firstTag s).2 = some (slashes, tag, after)) :
    (firstTag (s ++ '[' :: e)).2 = some (slashes, tag, after ++ '[' :: e) := by
  induction s with
  | nil => cases h
  | cons c s ih =>
    by_cases hall : (c :: s).dropWhile (· = '\\') = []
    · -- Backslashes alone have no tag.
      rw [firstTag_of_not_mem fun hmem => by simpa using List.dropWhile_eq_nil_iff.mp hall '[' hmem] at h
      cases h
    · have hshort : ((c :: s).takeWhile (· = '\\')).length ≠ (c :: s).length := fun hlength => hall <| by
        rw [← drop_length_takeWhile, hlength, List.drop_length]
      rw [firstTag_cons] at h
      rw [List.cons_append, firstTag_cons, ← List.cons_append, List.dropWhile_append, List.takeWhile_append,
        if_neg (by simpa using hall), if_neg hshort, tagAt?_append hall]
      cases hat : tagAt? ((c :: s).dropWhile (· = '\\')) with
      | none =>
        rw [hat] at h
        exact ih h
      | some found =>
        rw [hat] at h
        cases h
        rfl

/-- The first tag after a text without tags. -/
theorem firstTag_append_of_none (h : (firstTag s).2 = none) (he : tagAt? ('[' :: e) = some (tag, [])) :
    ∃ slashes, (firstTag (s ++ '[' :: e)).2 = some (slashes, tag, []) := by
  induction s with
  | nil =>
    refine ⟨0, ?_⟩
    rw [List.nil_append, firstTag_cons, List.dropWhile_cons_of_neg (by decide), he]
    rfl
  | cons c s ih =>
    rw [firstTag_cons] at h
    rw [List.cons_append, firstTag_cons, ← List.cons_append, List.dropWhile_append]
    -- Backslashes at the end of the text stand right before the tag that follows.
    by_cases hall : (c :: s).dropWhile (· = '\\') = []
    · rw [if_pos (by simpa using hall), List.dropWhile_cons_of_neg (by decide), he]
      exact ⟨_, rfl⟩
    · rw [if_neg (by simpa using hall), tagAt?_append hall]
      cases hat : tagAt? ((c :: s).dropWhile (· = '\\')) with
      | none =>
        rw [hat] at h
        exact ih h
      | some found =>
        rw [hat] at h
        cases h

end

/-! ### All tags -/

/-- The tags of a text, from the first one on. A tag after an odd number of backslashes is none. -/
inductive HasTags : List Char → List (List Char) → Prop
  | none {s : List Char} : (firstTag s).2 = none → HasTags s []
  | escaped {s tag after : List Char} {slashes : Nat} {tags : List (List Char)} :
    (firstTag s).2 = some (slashes, tag, after) → slashes % 2 = 1 → HasTags after tags → HasTags s tags
  | tag {s tag after : List Char} {slashes : Nat} {tags : List (List Char)} :
    (firstTag s).2 = some (slashes, tag, after) → slashes % 2 ≠ 1 → HasTags after tags → HasTags s (tag :: tags)

theorem HasTags.unique {s : List Char} {tags tags' : List (List Char)} (h : HasTags s tags) (h' : HasTags s tags') :
    tags = tags' := by
  induction h generalizing tags' with
  | none hs => cases h' <;> simp_all
  | escaped hs hodd _ ih | tag hs hodd _ ih =>
    cases h' with
    | none hs' => simp_all
    | escaped hs' hodd' h' | tag hs' hodd' h' =>
      obtain ⟨rfl, rfl, rfl⟩ : _ ∧ _ ∧ _ := by simpa using hs.symm.trans hs'
      first | exact absurd hodd hodd' | exact absurd hodd' hodd | rw [ih h']

/-- A tag that follows a text comes after the tags of the text, or is none if the text ends in a backslash. -/
theorem HasTags.append {s e tag : List Char} {tags : List (List Char)} (h : HasTags s tags)
    (he : tagAt? ('[' :: e) = some (tag, [])) :
    HasTags (s ++ '[' :: e) tags ∨ HasTags (s ++ '[' :: e) (tags ++ [tag]) := by
  induction h with
  | none hs =>
    obtain ⟨slashes, hs⟩ := firstTag_append_of_none hs he
    -- An odd number of backslashes before the tag makes it a text.
    by_cases hodd : slashes % 2 = 1
    · exact .inl (.escaped hs hodd (.none rfl))
    · exact .inr (.tag hs hodd (.none rfl))
  | escaped hs hodd _ ih =>
    have hs := firstTag_append_of_some (e := e) hs
    exact ih.imp (.escaped hs hodd) (.escaped hs hodd)
  | tag hs hodd _ ih =>
    have hs := firstTag_append_of_some (e := e) hs
    exact ih.imp (.tag hs hodd) (.tag hs hodd)

/-- The tags among pieces. -/
def tagsOf (ps : List Piece) : List (List Char) :=
  ps.filterMap fun
    | .text _ => none
    | .tag t => some t

theorem tagsOf_tagPieces (slashes : Nat) (tag before : List Char) (ps : List Piece) :
    tagsOf (.text before :: tagPieces slashes tag ++ ps) = if slashes % 2 = 1 then tagsOf ps else tag :: tagsOf ps := by
  unfold tagPieces tagsOf
  by_cases hkept : slashes / 2 = 0 <;> by_cases hodd : slashes % 2 = 1 <;> simp [hkept, hodd]

theorem hasTags_piecesUpTo {n : Nat} {s : List Char} (h : s.length ≤ n) : HasTags s (tagsOf (piecesUpTo n s)) := by
  -- What is left behind a tag is shorter than the text, so one step less is enough for it.
  induction n generalizing s with
  | zero =>
    obtain rfl : s = [] := List.length_eq_zero_iff.mp (Nat.le_zero.mp h)
    exact .none rfl
  | succ n ih =>
    rw [piecesUpTo]
    rcases hfirst : firstTag s with ⟨before, _ | ⟨slashes, tag, after⟩⟩
    · exact .none (by rw [hfirst])
    · have hsnd : (firstTag s).2 = some (slashes, tag, after) := by rw [hfirst]
      have htail := ih (Nat.le_of_lt_succ ((firstTag_length hsnd).trans_le h))
      rw [tagsOf_tagPieces]
      by_cases hodd : slashes % 2 = 1
      · rw [if_pos hodd]
        exact .escaped hsnd hodd htail
      · rw [if_neg hodd]
        exact .tag hsnd hodd htail

/-- Every text has tags. -/
theorem exists_hasTags (s : List Char) : ∃ tags, HasTags s tags :=
  ⟨_, hasTags_piecesUpTo (Nat.le_refl s.length)⟩

/-- The open tags after some tags. -/
def afterTags (open_ : List OpenTag) (tags : List (List Char)) : Except Fault (List OpenTag) :=
  tags.foldlM afterTag open_

theorem afterTags_cons {open_ next : List OpenTag} {tag : List Char} (h : afterTag open_ tag = .ok next)
    (tags : List (List Char)) : afterTags open_ (tag :: tags) = afterTags next tags := by
  rw [afterTags, List.foldlM_cons, h]
  rfl

/-- Whether pieces can be shown depends on the tags alone. -/
theorem textOf_map (open_ : List OpenTag) (ps : List Piece) :
    ((textOf open_ ps).map fun _ => ()) = (afterTags open_ (tagsOf ps)).map fun _ => () := by
  induction ps generalizing open_ with
  | nil => rfl
  | cons p ps ih =>
    cases p with
    | text s =>
      rw [show tagsOf (.text s :: ps) = tagsOf ps from rfl, ← ih, textOf]
      cases textOf open_ ps <;> rfl
    | tag t =>
      rw [show tagsOf (.tag t :: ps) = t :: tagsOf ps from rfl, textOf, afterTags, List.foldlM_cons]
      cases afterTag open_ t with
      | error fault => rfl
      | ok next => exact ih next

/-- Whether a text can be shown depends on its tags alone. -/
theorem plain_map {text : String} {tags : List (List Char)} (h : HasTags text.toList tags) :
    ((plain text).map fun _ => ()) = (afterTags [] tags).map fun _ => () := by
  by_cases hmem : '[' ∈ text.toList
  · obtain rfl := (hasTags_piecesUpTo (Nat.le_refl text.toList.length)).unique h
    rw [← textOf_map, ← pieces, plain, if_pos (by simpa using hmem)]
    cases textOf [] (pieces text.toList) <;> rfl
  · obtain rfl := h.unique (.none (firstTag_of_not_mem hmem))
    rw [plain, if_neg (by simpa using hmem)]
    rfl

theorem plain_eq_error {text : String} {fault : Fault}
    (h : afterTags [] (tagsOf (pieces text.toList)) = .error fault) : plain text = .error fault := by
  have hmap := plain_map (hasTags_piecesUpTo (Nat.le_refl text.toList.length))
  rw [← pieces, h] at hmap
  generalize plain text = shown at hmap ⊢
  cases shown <;> cases hmap
  rfl

/-- A text is legible exactly if its tags fit together. -/
theorem legible_iff {text : String} {tags : List (List Char)} (h : HasTags text.toList tags) :
    Legible text ↔ ∃ last, afterTags [] tags = .ok last := by
  have hmap := plain_map h
  rw [Legible]
  generalize plain text = shown, afterTags [] tags = last at hmap ⊢
  cases shown <;> cases last
  · exact ⟨nofun, nofun⟩
  · cases hmap
  · cases hmap
  · exact ⟨fun _ => ⟨_, rfl⟩, fun _ => ⟨_, rfl⟩⟩

/-! ### Open tags -/

section

variable {open_ last more : List OpenTag}

theorem closing_append {style : Option String} (h : closing open_ style = .ok last) :
    closing (open_ ++ more) style = .ok (last ++ more) := by
  unfold closing at h ⊢
  rw [List.find?_append]
  cases hfind : open_.find? fun t => style.all (· = t.name) with
  | none =>
    rw [hfind] at h
    cases h
  | some t =>
    rw [hfind] at h
    obtain ⟨_, hclose, h⟩ := Action.except_bind_eq_ok.mp h
    cases h
    rw [Option.some_or, List.eraseP_append_left (List.find?_some hfind) _ (List.mem_of_find?_eq_some hfind)]
    exact Action.except_bind_eq_ok.mpr ⟨_, hclose, rfl⟩

theorem afterTag_append {tag : List Char} (h : afterTag open_ tag = .ok last) :
    afterTag (open_ ++ more) tag = .ok (last ++ more) := by
  rcases afterTag_cases tag with ⟨style, -, heq⟩ | ⟨opened, -, heq⟩ <;> rw [heq] at h ⊢
  · obtain ⟨s, hs, h⟩ := Action.except_bind_eq_ok.mp h
    exact Action.except_bind_eq_ok.mpr ⟨s, hs, closing_append h⟩
  · obtain ⟨t, ht, h⟩ := Action.except_bind_eq_ok.mp h
    cases h
    exact Action.except_bind_eq_ok.mpr ⟨t, ht, rfl⟩

/-- Tags that fit together do so, too, while more tags are open around them. -/
theorem afterTags_append {tags : List (List Char)} (h : afterTags open_ tags = .ok last) :
    afterTags (open_ ++ more) tags = .ok (last ++ more) := by
  induction tags generalizing open_ with
  | nil =>
    cases h
    rfl
  | cons tag tags ih =>
    rw [afterTags, List.foldlM_cons] at h ⊢
    obtain ⟨next, hnext, h⟩ := Action.except_bind_eq_ok.mp h
    exact Action.except_bind_eq_ok.mpr ⟨_, afterTag_append hnext, ih h⟩

end

/-! ### Colors -/

/-- A word that tags give no meaning but, perhaps, that of a color. -/
structure IsPlainWord (w : String) : Prop where
  starts : w.toList.head?.any (fun c => 'a' ≤ c && c ≤ 'z') = true
  inside : ∀ c ∈ w.toList, c ≠ '[' ∧ c ≠ ']' ∧ c ≠ '='
  trim_eq : Text.trim w.toList = w.toList
  words_eq : (Text.words w.toList).map String.ofList = [w]
  lowercase_eq : Text.lowercase w = w
  not_keyword : w ∉ ["none", "on", "not", "link"]
  no_attribute : attributeOf? w = none
  color : ∃ b, isColor w = .ok b

theorem isPlainWord_red : IsPlainWord "red" :=
  ⟨by decide, by simp, by decide, by decide, by decide, by decide, by decide, _, rfl⟩

theorem isPlainWord_yellow : IsPlainWord "yellow" :=
  ⟨by decide, by simp, by decide, by decide, by decide, by decide, by decide, _, rfl⟩

theorem isPlainWord_invalid : IsPlainWord "prompt.invalid" :=
  ⟨by decide, by simp, by decide, by decide, by decide, by decide, by decide, _, rfl⟩

theorem isPlainWord_invalidChoice : IsPlainWord "prompt.invalid.choice" :=
  ⟨by decide, by simp, by decide, by decide, by decide, by decide, by decide, _, rfl⟩

namespace IsPlainWord

variable {w : String}

theorem exists_cons (h : IsPlainWord w) : ∃ c rest, w.toList = c :: rest ∧ 'a' ≤ c ∧ c ≤ 'z' := by
  have hstarts := h.starts
  cases hw : w.toList with
  | nil => simp [hw] at hstarts
  | cons c rest => exact ⟨c, rest, rfl, by simpa [hw] using hstarts⟩

theorem takeWhile_eq (h : IsPlainWord w) : w.toList.takeWhile (· != '=') = w.toList :=
  List.takeWhile_eq_self_iff.mpr fun c hc => by simpa using (h.inside c hc).2.2

/-- The word stands for itself as a style, whether it is a color or not. -/
theorem styleName_eq (h : IsPlainWord w) : styleName w.toList = .ok w := by
  obtain ⟨b, hb⟩ := h.color
  obtain ⟨c, rest, hw, -⟩ := h.exists_cons
  obtain ⟨hnone, hon, hnot, hlink⟩ : w ≠ "none" ∧ w ≠ "on" ∧ w ≠ "not" ∧ w ≠ "link" := by simpa using h.not_keyword
  have hadd : ({} : Style).addWords [w] = .ok (if b then some { color := some w } else none) := by
    simp only [Style.addWords, h.lowercase_eq, if_neg hon, if_neg hnot, if_neg hlink, h.no_attribute, hb]
    cases b <;> rfl
  have hstart : ¬ (w.toList.isEmpty = true ∨ Text.trim w.toList = "none".toList) := by
    rw [h.trim_eq, String.toList_inj]
    simpa [hw] using hnone
  rw [styleName, if_neg (by simpa using hstart), h.words_eq, hadd]
  cases b with
  | true =>
    -- The style has the color alone, and its only word is the name of it.
    show Except.ok (Text.joined " " [w]) = .ok w
    rw [Text.joined, List.map_singleton, Text.join, String.ofList_toList]
  | false =>
    show Except.ok (Text.lowercase (.ofList (Text.trim w.toList))) = .ok w
    rw [h.trim_eq, String.ofList_toList, h.lowercase_eq]

theorem afterTag_open (h : IsPlainWord w) (open_ : List OpenTag) :
    afterTag open_ w.toList = .ok (⟨w, none⟩ :: open_) := by
  obtain ⟨c, rest, hw, hc⟩ := h.exists_cons
  simp only [afterTag, h.takeWhile_eq]
  split
  · rename_i closed hclosed
    obtain rfl : c = '/' := (List.cons.inj (hw.symm.trans hclosed)).1
    exact absurd hc (by decide)
  · simp only [h.styleName_eq, if_true]
    rfl

theorem close_eq {t : OpenTag} (h : IsPlainWord w) (ht : t.name = w) : close t = .ok () := by
  obtain ⟨c, rest, hw, hc⟩ := h.exists_cons
  unfold close
  split
  · rename_i name parameters hname _
    obtain rfl : c = '@' := (List.cons.inj (hw.symm.trans (ht ▸ hname))).1
    exact absurd hc (by decide)
  · rfl

theorem closing_of_mem (h : IsPlainWord w) {open_ : List OpenTag} (hmem : ⟨w, none⟩ ∈ open_) :
    ∃ last, closing open_ (some w) = .ok last := by
  unfold closing
  cases hfind : open_.find? fun t => (some w).all (· = t.name) with
  | none => exact absurd (List.find?_eq_none.mp hfind _ hmem) (by simp)
  | some t =>
    have ht : t.name = w := by simpa [eq_comm] using List.find?_some hfind
    exact ⟨_, Action.except_bind_eq_ok.mpr ⟨(), h.close_eq ht, rfl⟩⟩

/-- A tag with a slash closes the word if it is open. -/
theorem afterTag_slash (h : IsPlainWord w) (open_ : List OpenTag) :
    afterTag open_ ('/' :: w.toList) = closing open_ (some w) := by
  obtain ⟨c, rest, hw, -⟩ := h.exists_cons
  have hname : ('/' :: w.toList).takeWhile (· != '=') = '/' :: w.toList := by
    rw [List.takeWhile_cons_of_pos (by decide), h.takeWhile_eq]
  have hne : w.toList ≠ [] := by simp [hw]
  simp only [afterTag, hname, h.trim_eq, List.isEmpty_iff, hne, if_false, h.styleName_eq]
  rfl

/-- A tag for the word opens it, whatever follows. -/
theorem firstTag_opened (h : IsPlainWord w) (rest : List Char) :
    (firstTag ('[' :: (w.toList ++ ']' :: rest))).2 = some (0, w.toList, rest) := by
  obtain ⟨c, tail, hw, hc⟩ := h.exists_cons
  have htail : ∀ d ∈ tail, d ≠ '[' ∧ d ≠ ']' := fun d hd =>
    have hinside := h.inside d (hw ▸ List.mem_cons_of_mem c hd)
    ⟨hinside.1, hinside.2.1⟩
  rw [hw]
  exact firstTag_eq (by simp [startsTag, hc]) htail

theorem tagAt?_closed (h : IsPlainWord w) :
    tagAt? ('[' :: '/' :: (w.toList ++ [']'])) = some ('/' :: w.toList, []) :=
  tagAt?_eq (by decide) fun d hd => ⟨(h.inside d hd).1, (h.inside d hd).2.1⟩

end IsPlainWord

/-- What is legible is so after a tag that opens a style. -/
theorem legible_opened {w text : String} (h : IsPlainWord w) (hl : Legible text) :
    Legible ("[" ++ w ++ "]" ++ text) := by
  obtain ⟨tags, htags⟩ := exists_hasTags text.toList
  obtain ⟨last, hlast⟩ := (legible_iff htags).mp hl
  have hopened : (firstTag ("[" ++ w ++ "]" ++ text).toList).2 = some (0, w.toList, text.toList) := by
    simpa using h.firstTag_opened text.toList
  refine (legible_iff (.tag hopened (by decide) htags)).mpr ⟨last ++ [⟨w, none⟩], ?_⟩
  rw [afterTags_cons (h.afterTag_open [])]
  exact afterTags_append hlast

/-- What is legible is so in a color. -/
theorem legible_inColor {w text : String} (h : IsPlainWord w) (hl : Legible text) :
    Legible ("[" ++ w ++ "]" ++ text ++ "[/" ++ w ++ "]") := by
  obtain ⟨tags, htags⟩ := exists_hasTags text.toList
  obtain ⟨last, hlast⟩ := (legible_iff htags).mp hl
  have hopened : (firstTag ("[" ++ w ++ "]" ++ text ++ "[/" ++ w ++ "]").toList).2 =
      some (0, w.toList, text.toList ++ '[' :: '/' :: (w.toList ++ [']'])) := by
    simpa using h.firstTag_opened (text.toList ++ '[' :: '/' :: (w.toList ++ [']']))
  have hinner : afterTags [] (w.toList :: tags) = .ok (last ++ [⟨w, none⟩]) := by
    rw [afterTags_cons (h.afterTag_open [])]
    exact afterTags_append hlast
  -- The tag at the end closes the color, unless a backslash before it makes it a text.
  rcases htags.append h.tagAt?_closed with htags | htags
  · exact (legible_iff (.tag hopened (by decide) htags)).mpr ⟨_, hinner⟩
  · obtain ⟨closed, hclosed⟩ := h.closing_of_mem (List.mem_append_right last List.mem_cons_self)
    rw [← h.afterTag_slash] at hclosed
    refine (legible_iff (.tag hopened (by decide) htags)).mpr ⟨closed, ?_⟩
    rw [← List.cons_append, afterTags, List.foldlM_append]
    exact Action.except_bind_eq_ok.mpr ⟨_, hinner, Action.except_bind_eq_ok.mpr ⟨_, hclosed, rfl⟩⟩

end Stencil.Dialog.Markup
