import Mathlib.Data.List.Forall2
import Mathlib.Data.List.Nodup
import Mathlib.Data.List.Perm.Basic
import Stencil.Dialog.Terminal
import Stencil.Proofs.Action
import Stencil.Proofs.Decimal.Reader
import Stencil.Proofs.Text.Pieces

namespace Stencil.Dialog

/-!
# The widgets of a terminal

A widget reads lines until one fits. What it gives, and which lines it leaves, is told by a relation; a widget performs
a relation if it does what the relation says, and runs out of lines where the relation holds of no result.

* `Terminal.Performs` — an action that performs a relation, with `bind` and the like for composed ones;
* `Terminal.ReadsTo` — lines are read up to the first that fits;
* `Terminal.readFrom_found`, `Terminal.readFrom_runsOut` — everything that happens meanwhile;
* `Terminal.Says`, `Terminal.IsNumber`, `Terminal.IsNumbers`, `Terminal.IsOrder` — the lines that fit the widgets;
* `Terminal.Selects` — the positions that are selected, and reordered if wanted;
* `Terminal.performs_confirm`, `Terminal.performs_select`, `Terminal.performs_multiSelect` — what the widgets do;
* `Terminal.Accepts`, `Terminal.accepts_iff` — terminals that read the numbers of all choices.
-/

namespace Terminal

variable {α β : Type}

/-- A prompt can be shown: its tags, if it has any, fit together. -/
def Legible (prompt : String) : Prop :=
  ∃ text, Markup.plain prompt = .ok text

theorem legible_of_not_mem {prompt : String} (h : '[' ∉ prompt.toList) : Legible prompt :=
  ⟨_, by rw [Markup.plain, if_neg (by simpa using h)]⟩

/-! ### Actions that perform relations -/

/-- An action shows something first, and then does what a relation between the lines that are there, the result and the
lines that are left says. Where the relation holds of no result, the lines run out. -/
structure Performs (shown : List Event) (act : Action Terminal α) (R : List String → α → List String → Prop) :
    Prop where
  returns : ∀ {t : Terminal} {a : α} {rest : List String}, R t.lines a rest →
    ∃ events, t.events ++ shown <+: events ∧ act t = (.ok a, ⟨rest, events⟩)
  runsOut : ∀ {t : Terminal}, (∀ a rest, ¬ R t.lines a rest) →
    ∃ events, t.events ++ shown <+: events ∧ act t = (.error (.foreign .endOfInput), ⟨[], events⟩)

namespace Performs

variable {shown : List Event} {act act' : Action Terminal α} {R R' : List String → α → List String → Prop}

theorem congr (h : Performs shown act R) (hr : ∀ lines a rest, R lines a rest ↔ R' lines a rest) :
    Performs shown act R' where
  returns hr' := h.returns ((hr _ _ _).mpr hr')
  runsOut hnone := h.runsOut fun a rest hr' => hnone a rest ((hr _ _ _).mp hr')

theorem of_eq (h : Performs shown act' R) (heq : ∀ t, act t = act' t) : Performs shown act R where
  returns hr := by
    rw [heq]
    exact h.returns hr
  runsOut hnone := by
    rw [heq]
    exact h.runsOut hnone

/-- It may be left open what is shown first. -/
theorem nothing_shown (h : Performs shown act R) : Performs [] act R where
  returns hr := by
    obtain ⟨events, hprefix, heq⟩ := h.returns hr
    exact ⟨events, by simpa using (List.prefix_append _ _).trans hprefix, heq⟩
  runsOut hnone := by
    obtain ⟨events, hprefix, heq⟩ := h.runsOut hnone
    exact ⟨events, by simpa using (List.prefix_append _ _).trans hprefix, heq⟩

theorem pure (a : α) : Performs [] (Pure.pure a) fun lines b rest => b = a ∧ rest = lines where
  returns := by
    rintro t _ _ ⟨rfl, rfl⟩
    exact ⟨t.events, by simp, rfl⟩
  runsOut hnone := absurd ⟨rfl, rfl⟩ (hnone a _)

/-- One action after another one. -/
theorem bind {f : α → Action Terminal β} {S : α → List String → β → List String → Prop} (h : Performs shown act R)
    (hf : ∀ {a lines rest}, R lines a rest → Performs [] (f a) (S a)) :
    Performs shown (act >>= f) fun lines b rest => ∃ a mid, R lines a mid ∧ S a mid b rest where
  returns := by
    rintro t b rest ⟨a, mid, hr, hs⟩
    obtain ⟨events, hprefix, heq⟩ := h.returns hr
    obtain ⟨more, hmore, heq'⟩ := (hf hr).returns (t := ⟨mid, events⟩) hs
    exact ⟨more, hprefix.trans (by simpa using hmore), by rw [Action.bind_apply, heq]; exact heq'⟩
  runsOut := by
    intro t hnone
    by_cases hr : ∃ a mid, R t.lines a mid
    · obtain ⟨a, mid, hr⟩ := hr
      obtain ⟨events, hprefix, heq⟩ := h.returns hr
      obtain ⟨more, hmore, heq'⟩ := (hf hr).runsOut (t := ⟨mid, events⟩) fun b rest hs => hnone b rest ⟨a, mid, hr, hs⟩
      exact ⟨more, hprefix.trans (by simpa using hmore), by rw [Action.bind_apply, heq]; exact heq'⟩
    · obtain ⟨events, hprefix, heq⟩ := h.runsOut fun a mid hr' => hr ⟨a, mid, hr'⟩
      exact ⟨events, hprefix, by rw [Action.bind_apply, heq]⟩

theorem pure_inj {a b : α} : (Pure.pure a : Action Terminal α) = Pure.pure b ↔ a = b :=
  ⟨fun h => Except.ok.inj (congrArg Prod.fst (congrFun h ⟨[], []⟩)), fun h => h ▸ rfl⟩

/-- A result is turned into another one by something that does nothing else. -/
theorem returning {f : α → Action Terminal β} (h : Performs shown act R)
    (hf : ∀ {lines a rest}, R lines a rest → ∃ b, f a = Pure.pure b) :
    Performs shown (act >>= f) fun lines b rest => ∃ a, R lines a rest ∧ f a = Pure.pure b := by
  refine .congr (h.bind (S := fun a lines b rest => f a = Pure.pure b ∧ rest = lines) fun hr => ?_)
    fun lines b rest => ?_
  · obtain ⟨b, hb⟩ := hf hr
    rw [hb]
    exact (pure b).congr fun _ _ _ => by rw [pure_inj, eq_comm]
  · constructor
    · rintro ⟨a, mid, hr, hb, rfl⟩
      exact ⟨a, hr, hb⟩
    · rintro ⟨a, hr, hb⟩
      exact ⟨a, rest, hr, hb, rfl⟩

theorem map (h : Performs shown act R) (g : α → β) :
    Performs shown (g <$> act) fun lines b rest => ∃ a, R lines a rest ∧ g a = b := by
  rw [map_eq_pure_bind]
  exact (h.returning fun _ => ⟨_, rfl⟩).congr fun _ _ _ => by simp only [pure_inj]

/-- What is recorded first is shown first. -/
theorem after_record (h : Performs [] act R) (e : Event) : Performs [e] (modify (record e) >>= fun _ => act) R where
  returns {t a rest} hr := by
    obtain ⟨events, hprefix, heq⟩ := h.returns (t := record e t) hr
    exact ⟨events, by simpa [record] using hprefix, heq⟩
  runsOut {t} hnone := by
    obtain ⟨events, hprefix, heq⟩ := h.runsOut (t := record e t) hnone
    exact ⟨events, by simpa [record] using hprefix, heq⟩

/-- A prompt that can be shown is shown. -/
theorem after_shown {f : String → Action Terminal α} {prompt addition : String} (hp : Legible prompt)
    (h : ∀ p, Performs shown (f p) R) : Performs shown (Terminal.shown prompt addition >>= f) R := by
  obtain ⟨text, hp⟩ := hp
  exact (h (text ++ addition ++ ": ")).of_eq fun t => by
    rw [Action.bind_apply, Terminal.shown, hp]
    rfl

end Performs

/-! ### Reading lines -/

/-- Lines are read up to the first that fits, which says what is read; the lines after it are left. -/
def ReadsTo (Fits : String → α → Prop) (lines : List String) (a : α) (rest : List String) : Prop :=
  ∃ skipped line, lines = skipped ++ line :: rest ∧ (∀ l ∈ skipped, ∀ b, ¬ Fits l b) ∧ Fits line a

theorem ReadsTo.fits {Fits : String → α → Prop} {lines rest : List String} {a : α} (h : ReadsTo Fits lines a rest) :
    ∃ line, Fits line a := by
  obtain ⟨-, line, -, -, ha⟩ := h
  exact ⟨line, ha⟩

theorem readsTo_singleton {Fits : String → α → Prop} {line : String} {a : α} (h : Fits line a) :
    ReadsTo Fits [line] a [] :=
  ⟨[], line, rfl, nofun, h⟩

theorem readsTo_map {Fits : String → α → Prop} {g : α → β} {lines rest : List String} {b : β} :
    ReadsTo (fun line b => ∃ a, Fits line a ∧ g a = b) lines b rest ↔ ∃ a, ReadsTo Fits lines a rest ∧ g a = b := by
  constructor
  · rintro ⟨skipped, line, hlines, hskipped, a, ha, rfl⟩
    exact ⟨a, ⟨skipped, line, hlines, fun l hl a' ha' => hskipped l hl (g a') ⟨a', ha', rfl⟩, ha⟩, rfl⟩
  · rintro ⟨a, ⟨skipped, line, hlines, hskipped, ha⟩, rfl⟩
    exact ⟨skipped, line, hlines, fun l hl _ ⟨a', ha', _⟩ => hskipped l hl a' ha', a, ha, rfl⟩

/-- Elements have counterparts one by one exactly if each of them has one. -/
theorem exists_forall₂_iff {R : α → β → Prop} {xs : List α} :
    (∃ ys, List.Forall₂ R xs ys) ↔ ∀ x ∈ xs, ∃ y, R x y := by
  induction xs with
  | nil => simp
  | cons x xs ih =>
    rw [List.forall_mem_cons, ← ih]
    constructor
    · rintro ⟨_, h⟩
      cases h with
      | cons hx hxs => exact ⟨⟨_, hx⟩, _, hxs⟩
    · rintro ⟨⟨y, hy⟩, ys, hys⟩
      exact ⟨y :: ys, .cons hy hys⟩

/-- What happens while lines are read: the prompt before each, and what is wrong with each that does not fit. -/
def asked (prompt : String) (problems : List String) : List Event :=
  problems.flatMap (fun problem => [.input prompt, .print problem]) ++ [.input prompt]

section Judge

variable {judge : String → Except String α} {skipped problems rest lines : List String} {line : String} {a : α}

theorem readFrom_found (prompt : String) (events : List Event)
    (hskipped : List.Forall₂ (fun l problem => judge l = .error problem) skipped problems)
    (hline : judge line = .ok a) :
    readFrom prompt judge events (skipped ++ line :: rest) = (.ok a, ⟨rest, events ++ asked prompt problems⟩) := by
  induction hskipped generalizing events with
  | nil => simp [readFrom, hline, asked]
  | cons hl _ ih => simp [readFrom, hl, ih, asked]

theorem readFrom_runsOut (prompt : String) (events : List Event)
    (h : List.Forall₂ (fun l problem => judge l = .error problem) lines problems) :
    readFrom prompt judge events lines = (.error (.foreign .endOfInput), ⟨[], events ++ asked prompt problems⟩) := by
  induction h generalizing events with
  | nil => rfl
  | cons hl _ ih => simp [readFrom, hl, ih, asked]

theorem exists_problems (h : ∀ l ∈ lines, ∀ b, judge l ≠ .ok b) :
    ∃ problems, List.Forall₂ (fun l problem => judge l = .error problem) lines problems := by
  refine exists_forall₂_iff.mpr fun l hl => ?_
  cases hj : judge l with
  | ok b => exact absurd hj (h l hl b)
  | error problem => exact ⟨problem, rfl⟩

end Judge

/-- Either some line is the first that fits, or none fits. -/
theorem readsTo_or_none (Fits : String → α → Prop) (lines : List String) :
    (∃ a rest, ReadsTo Fits lines a rest) ∨ ∀ l ∈ lines, ∀ b, ¬ Fits l b := by
  induction lines with
  | nil => exact .inr fun _ => nofun
  | cons l lines ih =>
    by_cases hl : ∃ a, Fits l a
    · obtain ⟨a, ha⟩ := hl
      exact .inl ⟨a, lines, [], l, rfl, fun _ => nofun, ha⟩
    · have hnone : ∀ a, ¬ Fits l a := fun a ha => hl ⟨a, ha⟩
      rcases ih with ⟨a, rest, skipped, line, rfl, hskipped, ha⟩ | hlines
      · exact .inl ⟨a, rest, l :: skipped, line, rfl, List.forall_mem_cons.mpr ⟨hnone, hskipped⟩, ha⟩
      · exact .inr (List.forall_mem_cons.mpr ⟨hnone, hlines⟩)

theorem performs_readUntil {prompt : String} {judge : String → Except String α} {Fits : String → α → Prop}
    (hj : ∀ line a, judge line = .ok a ↔ Fits line a) : Performs [] (readUntil prompt judge) (ReadsTo Fits) where
  returns := by
    rintro t a rest ⟨skipped, line, hlines, hskipped, ha⟩
    obtain ⟨problems, hproblems⟩ := exists_problems fun l hl b hb => hskipped l hl b ((hj l b).mp hb)
    exact ⟨t.events ++ asked prompt problems, by simp,
      by rw [readUntil, hlines, readFrom_found prompt t.events hproblems ((hj line a).mpr ha)]⟩
  runsOut := by
    intro t hnone
    have hlines : ∀ l ∈ t.lines, ∀ b, judge l ≠ .ok b := by
      rcases readsTo_or_none Fits t.lines with ⟨a, rest, hr⟩ | hlines
      · exact absurd hr (hnone a rest)
      · exact fun l hl b hb => hlines l hl b ((hj l b).mp hb)
    obtain ⟨problems, hproblems⟩ := exists_problems hlines
    exact ⟨t.events ++ asked prompt problems, by simp, by rw [readUntil, readFrom_runsOut prompt t.events hproblems]⟩

/-! ### Yes or no -/

/-- A line says yes or no; an empty line says the default. -/
inductive Says (default : Bool) : String → Bool → Prop
  | nothing : Says default "" default
  | yes {line : String} : Text.lowercase (Text.trimmed line) = "y" → Says default line true
  | no {line : String} : Text.lowercase (Text.trimmed line) = "n" → Says default line false

theorem truthOf?_eq_some {line : String} {b : Bool} :
    truthOf? line = some b ↔ Text.lowercase (Text.trimmed line) = if b then "y" else "n" := by
  unfold truthOf?
  split <;> cases b <;> simp_all

theorem says_empty {default yes : Bool} : Says default "" yes ↔ default = yes := by
  have hempty : Text.lowercase (Text.trimmed "") = "" := by decide
  constructor
  · intro h
    cases h with
    | nothing => rfl
    | yes h | no h => exact absurd (hempty.symm.trans h) (by decide)
  · rintro rfl
    exact .nothing

theorem says_iff {default yes : Bool} {line : String} (hne : line ≠ "") :
    Says default line yes ↔ truthOf? line = some yes := by
  rw [truthOf?_eq_some]
  constructor
  · intro h
    cases h with
    | nothing => exact absurd rfl hne
    | yes h | no h => exact h
  · intro h
    cases yes with
    | true => exact .yes h
    | false => exact .no h

/-- What a line answers, or what is shown for a line that answers nothing. -/
def answerOf (default : Bool) (line : String) : Except String (Option Bool) :=
  if line = "" then .ok (some default)
  else match truthOf? line with
    | some b => .ok (some b)
    | none => .error "[prompt.invalid]Please enter Y or N"

theorem answerOf_eq_ok {default : Bool} {line : String} {b : Option Bool} :
    answerOf default line = .ok b ↔ ∃ yes, Says default line yes ∧ some yes = b := by
  unfold answerOf
  by_cases hempty : line = ""
  · simp [hempty, says_empty]
  · simp only [if_neg hempty, says_iff hempty]
    cases truthOf? line with
    | none => simp
    | some yes => simp

theorem confirm_eq (prompt : String) (default : Bool) :
    confirm prompt (some default) =
      shown prompt (" [y/n]" ++ inParentheses (if default then "y" else "n")) >>= fun p =>
        readUntil p (answerOf default) := by
  simp only [confirm, Option.map_some, Option.getD_some]
  refine bind_congr fun p => congrArg (readUntil p) (funext fun line => ?_)
  unfold answerOf
  by_cases hempty : line = "" <;> cases truthOf? line <;> simp [hempty]

theorem performs_confirm {prompt : String} (hp : Legible prompt) (default : Bool) :
    Performs [] (confirm prompt (some default)) fun lines b rest =>
      ∃ yes, ReadsTo (Says default) lines yes rest ∧ some yes = b := by
  rw [confirm_eq]
  exact .after_shown hp fun _ => (performs_readUntil fun _ _ => answerOf_eq_ok).congr fun _ _ _ => readsTo_map

/-! ### Numbers -/

/-- A line is the number of one of `count` choices. -/
def IsNumber (count : Nat) (line : String) (i : Nat) : Prop :=
  i < count ∧ Text.trimmed line = toString (i + 1)

/-- The parts of a line between commas, without the blank ones; blanks around the line do not count. -/
def numberParts (line : String) : List (List Char) :=
  (Text.splitAtChar ',' (Text.trim line.toList)).filter fun part => !(Text.trim part).isEmpty

/-- A line is a list of numbers of `count` choices. -/
def IsNumbers (count : Nat) (line : String) (positions : List Nat) : Prop :=
  List.Forall₂ (fun part i => i < count ∧ Decimal.readBounded? part = some ((i : Int) + 1)) (numberParts line) positions

/-- A line is a list of the numbers of `count` choices, each once. -/
def IsOrder (count : Nat) (line : String) (order : List Nat) : Prop :=
  IsNumbers count line order ∧ order.Perm (List.range count)

theorem isNumber_toString {count i : Nat} (hi : i < count) : IsNumber count (toString (i + 1)) i := by
  refine ⟨hi, ?_⟩
  rw [Text.trimmed, Decimal.toList_toString, Decimal.trim_toDigits, ← Decimal.toList_toString, String.ofList_toList]

theorem numberParts_toString (n : Nat) : numberParts (toString n) = [(toString n).toList] := by
  have hcomma : ',' ∉ Nat.toDigits 10 n := fun hc => absurd (Decimal.isDigit_of_mem_toDigits _ hc) (by decide)
  have hne : (Nat.toDigits 10 n).isEmpty = false := by simp
  rw [numberParts, Decimal.toList_toString, Decimal.trim_toDigits, Text.splitAtChar_of_not_mem hcomma]
  simp [Decimal.trim_toDigits, hne]

/-- The terminal reads the number of each of `count` choices. -/
def Accepts (count : Nat) : Prop :=
  ∀ i < count, Decimal.readBounded? (toString (i + 1)).toList = some ((i : Int) + 1)

/-- Only the length of numbers is bounded. -/
theorem accepts_iff {count : Nat} : Accepts count ↔ count < 10 ^ Decimal.maxDigits := by
  have hread : ∀ i : Nat, Decimal.readBounded? (toString (i + 1)).toList = some ((i : Int) + 1) ↔
      i + 1 < 10 ^ Decimal.maxDigits := fun i => by
    rw [← Decimal.readBounded?_toString_iff]
    norm_cast
  simp only [Accepts, hread]
  cases count with
  | zero => exact ⟨fun _ => Nat.pow_pos (by decide), fun _ => nofun⟩
  | succ n => exact ⟨fun h => h n n.lt_succ_self, fun h i hi => lt_of_le_of_lt hi h⟩

theorem Accepts.isNumbers_toString {count i : Nat} (h : Accepts count) (hi : i < count) :
    IsNumbers count (toString (i + 1)) [i] := by
  rw [IsNumbers, numberParts_toString]
  exact .cons ⟨hi, h i hi⟩ .nil

theorem Accepts.inj {count i j : Nat} (h : Accepts count) (hi : i < count) (hj : j < count)
    (heq : toString (i + 1) = toString (j + 1)) : i = j := by
  have hi := h i hi
  rw [heq, h j hj] at hi
  have := Option.some.inj hi
  omega

theorem isNumber_of_find? {count i : Nat} {line : String} (h : Accepts count) :
    ((List.range count).find? fun j => (toString (j + 1)).toList = Text.trim line.toList) = some i ↔
      IsNumber count line i := by
  have htext : ∀ j : Nat, (toString (j + 1)).toList = Text.trim line.toList ↔ Text.trimmed line = toString (j + 1) :=
    fun j => by rw [Text.trimmed, ← String.toList_inj, String.toList_ofList, eq_comm]
  simp only [htext, List.find?_range_eq_some, List.mem_range, IsNumber, decide_eq_true_eq]
  constructor
  · rintro ⟨htext, hi, -⟩
    exact ⟨hi, htext⟩
  · rintro ⟨hi, htext⟩
    refine ⟨htext, hi, fun j hj => ?_⟩
    have hne : Text.trimmed line ≠ toString (j + 1) := fun htext' =>
      hj.ne (h.inj (hj.trans hi) hi (htext'.symm.trans htext))
    simpa using hne

theorem choiceOf_eq_ok {count i : Nat} {line : String} (h : Accepts count) :
    choiceOf count line = .ok i ↔ IsNumber count line i := by
  rw [← isNumber_of_find? h]
  simp only [choiceOf]
  cases hread : Decimal.readBounded? (Text.trim line.toList) with
  | none =>
    -- What does not read as a number is not the number of a choice, for the terminal reads those.
    refine ⟨nofun, fun hfind => ?_⟩
    obtain ⟨hi, htext⟩ := (isNumber_of_find? h).mp hfind
    have hi := h i hi
    rw [← htext, Text.trimmed, String.toList_ofList, hread] at hi
    cases hi
  | some n =>
    cases (List.range count).find? fun j => (toString (j + 1)).toList = Text.trim line.toList with
    | none => simp
    | some j => simp

theorem index?_eq_some {count i : Nat} {part : List Char} :
    index? count part = some i ↔ i < count ∧ Decimal.readBounded? part = some ((i : Int) + 1) := by
  rw [index?]
  cases Decimal.readBounded? part with
  | none => simp
  | some n =>
    simp
    omega

theorem mapM_eq_some {f : α → Option β} {xs : List α} {ys : List β} :
    xs.mapM f = some ys ↔ List.Forall₂ (fun x y => f x = some y) xs ys := by
  induction xs generalizing ys with
  | nil => simp [eq_comm]
  | cons x xs ih =>
    simp only [List.mapM_cons, List.forall₂_cons_left_iff, Option.bind_eq_bind, Option.bind_eq_some_iff, ih,
      Option.pure_def, Option.some.injEq]
    exact ⟨fun ⟨y, hy, ys', hys, heq⟩ => ⟨y, ys', hy, hys, heq.symm⟩,
      fun ⟨y, ys', hy, hys, heq⟩ => ⟨y, hy, ys', hys, heq.symm⟩⟩

theorem indexes?_eq_some {count : Nat} {line : String} {positions : List Nat} :
    indexes? count line = some positions ↔ IsNumbers count line positions := by
  simp only [indexes?, IsNumbers, numberParts, mapM_eq_some, index?_eq_some]

/-- The positions that a line names, or what is shown for a line that names none. -/
def numbersOf (count : Nat) (line : String) : Except String (List Nat) :=
  match indexes? count line with
  | some positions => .ok positions
  | none => .error (rangeHint count)

theorem numbersOf_eq_ok {count : Nat} {line : String} {positions : List Nat} :
    numbersOf count line = .ok positions ↔ IsNumbers count line positions := by
  rw [← indexes?_eq_some, numbersOf]
  cases indexes? count line <;> simp

theorem isPermutation_iff {count : Nat} {positions : List Nat} :
    isPermutation count positions = true ↔ positions.Perm (List.range count) := by
  rw [isPermutation, Bool.and_eq_true, decide_eq_true_eq, List.all_eq_true]
  constructor
  · rintro ⟨hlength, hall⟩
    have hsub : List.range count ⊆ positions := fun i hi => by simpa using hall i hi
    exact ((List.subperm_of_subset List.nodup_range hsub).perm_of_length_le (by simp [hlength])).symm
  · intro h
    exact ⟨by simpa using h.length_eq, fun i hi => by simpa using h.mem_iff.mpr hi⟩

theorem orderOf_eq_ok {count : Nat} {line : String} {order : List Nat} :
    orderOf count line = .ok order ↔ IsOrder count line order := by
  rw [IsOrder, ← indexes?_eq_some, ← isPermutation_iff, orderOf]
  cases indexes? count line with
  | none => simp
  | some positions =>
    by_cases hp : isPermutation count positions = true
    · simp only [if_pos hp, Except.ok.injEq, Option.some.injEq]
      exact ⟨fun h => ⟨h, h ▸ hp⟩, And.left⟩
    · simp only [if_neg hp, Option.some.injEq]
      exact ⟨nofun, fun ⟨heq, horder⟩ => absurd (heq ▸ horder) hp⟩

/-! ### Picked choices -/

section Picked

variable {xs : List String} {positions : List Nat}

theorem IsNumbers.lt {count : Nat} {line : String} (h : IsNumbers count line positions) :
    ∀ i ∈ positions, i < count := by
  unfold IsNumbers at h
  generalize numberParts line = parts at h
  induction h with
  | nil => exact nofun
  | cons hi _ ih => exact List.forall_mem_cons.mpr ⟨hi.1, ih⟩

theorem picked_eq_map (h : ∀ i ∈ positions, i < xs.length) : picked xs positions = positions.map (xs.getD · "") := by
  rw [picked, ← List.filterMap_eq_map]
  exact List.filterMap_congr fun i hi => by simp [h i hi]

/-- Choices that are picked of picked ones are picked of all choices. -/
theorem picked_picked (h : ∀ i ∈ positions, i < xs.length) (order : List Nat) :
    picked (picked xs positions) order = picked xs (order.filterMap (positions[·]?)) := by
  have hinner : ∀ i ∈ order.filterMap (positions[·]?), i < xs.length := fun i hi => by
    obtain ⟨j, -, hj⟩ := List.mem_filterMap.mp hi
    exact h i (List.mem_of_getElem? hj)
  rw [picked_eq_map hinner, picked_eq_map h, picked, List.map_filterMap]
  simp only [List.getElem?_map]

/-- What is picked stands at the positions, one by one. -/
theorem picked_eq_iff {ys : List String} (h : ∀ i ∈ positions, i < xs.length) :
    picked xs positions = ys ↔ List.Forall₂ (fun i y => xs[i]? = some y) positions ys := by
  rw [picked_eq_map h]
  induction positions generalizing ys with
  | nil => simp [eq_comm]
  | cons i positions ih =>
    obtain ⟨hi, h⟩ := List.forall_mem_cons.mp h
    simp only [List.forall₂_cons_left_iff, ← ih h, List.map_cons, List.getElem?_eq_getElem hi, Option.some.injEq,
      List.getD_eq_getElem?_getD, Option.getD_some]
    exact ⟨fun h => ⟨_, _, rfl, rfl, h.symm⟩, fun ⟨_, _, hy, hys, h⟩ => by rw [hy, hys, h]⟩

theorem filterMap_range_getElem? (xs : List α) : (List.range xs.length).filterMap (xs[·]?) = xs := by
  induction xs with
  | nil => rfl
  | cons x xs ih => simpa [List.range_succ_eq_map, List.filterMap_map, Function.comp_def] using ih

end Picked

/-! ### Choices -/

/-- The choices with their numbers. -/
def numbered (title : String) (choices : List String) : Event :=
  .table title [] (choices.zipIdx.map fun (c, i) => [toString (i + 1), c])

theorem performs_select {prompt : String} {choices : List String} (h : Accepts choices.length) :
    Performs [numbered prompt choices] (select prompt choices) fun lines c rest =>
      ∃ i, ReadsTo (IsNumber choices.length) lines i rest ∧ choices[i]? = some c := by
  refine .after_record (.congr (.returning (performs_readUntil fun _ _ => choiceOf_eq_ok h) fun hi => ?_) ?_) _
  · obtain ⟨_, hi, -⟩ := hi.fits
    exact ⟨_, by rw [List.getElem?_eq_getElem hi]⟩
  · refine fun lines c rest => exists_congr fun i => and_congr_right fun hi => ?_
    obtain ⟨_, hi, -⟩ := hi.fits
    rw [List.getElem?_eq_getElem hi, Performs.pure_inj, Option.some.injEq]

theorem performs_sort (prompt : String) (items : List String) :
    Performs [] (sort prompt items) fun lines ys rest =>
      ∃ order, ReadsTo (IsOrder items.length) lines order rest ∧ picked items order = ys :=
  .nothing_shown (.after_record (.after_shown (legible_of_not_mem (by decide)) fun _ =>
    .map (performs_readUntil fun _ _ => orderOf_eq_ok) (picked items)) _)

/-- Of several positions that were selected, a new order is read if wanted. -/
inductive Reordered (ordered : Bool) (positions : List Nat) (lines : List String) : List Nat → List String → Prop
  | kept : ¬ (ordered = true ∧ 1 < positions.length) → Reordered ordered positions lines positions lines
  | declined {rest : List String} : ordered = true → 1 < positions.length →
      ReadsTo (Says false) lines false rest → Reordered ordered positions lines positions rest
  | sorted {mid rest : List String} {order : List Nat} : ordered = true → 1 < positions.length →
      ReadsTo (Says false) lines true mid → ReadsTo (IsOrder positions.length) mid order rest →
      Reordered ordered positions lines (order.filterMap (positions[·]?)) rest

/-- Positions among `count` choices are read, and then a new order of them if wanted. -/
def Selects (ordered : Bool) (count : Nat) (lines : List String) (positions : List Nat) (rest : List String) : Prop :=
  ∃ entered mid, ReadsTo (IsNumbers count) lines entered mid ∧ Reordered ordered entered mid positions rest

theorem Reordered.perm {ordered : Bool} {entered positions : List Nat} {lines rest : List String}
    (h : Reordered ordered entered lines positions rest) : positions.Perm entered := by
  cases h with
  | kept | declined => exact .refl _
  | sorted _ _ _ horder =>
    obtain ⟨line, -, hperm⟩ := horder.fits
    simpa only [filterMap_range_getElem?] using hperm.filterMap (entered[·]?)

theorem Selects.lt {ordered : Bool} {count : Nat} {positions : List Nat} {lines rest : List String}
    (h : Selects ordered count lines positions rest) : ∀ i ∈ positions, i < count := by
  obtain ⟨entered, mid, hentered, hreordered⟩ := h
  obtain ⟨_, hentered⟩ := hentered.fits
  exact fun i hi => hentered.lt i (hreordered.perm.mem_iff.mp hi)

/-- What follows the selection of some choices. -/
def reorder (prompt : String) (ordered : Bool) (selected : List String) : Action Terminal (List String) :=
  if ordered && selected.length > 1 then
    confirm "Reorder selection?" (some false) >>= fun b => if b = some true then sort prompt selected else pure selected
  else pure selected

theorem multiSelect_eq (prompt : String) (choices : List String) (ordered : Bool) :
    multiSelect prompt choices ordered = (do
      modify (showChoices prompt choices)
      let p ← shown "Choices (comma-separated numbers)" (inParentheses "")
      let positions ← readUntil p (numbersOf choices.length)
      reorder prompt ordered (picked choices positions)) :=
  rfl

theorem performs_reorder (prompt : String) {xs : List String} {entered : List Nat} (ordered : Bool)
    (h : ∀ i ∈ entered, i < xs.length) :
    Performs [] (reorder prompt ordered (picked xs entered)) fun lines ys rest =>
      ∃ positions, Reordered ordered entered lines positions rest ∧ picked xs positions = ys := by
  have hlength : (picked xs entered).length = entered.length := by rw [picked_eq_map h, List.length_map]
  unfold reorder
  by_cases hseveral : ordered = true ∧ 1 < entered.length
  · rw [if_pos (by simpa [hlength] using hseveral)]
    -- After a yes, lines are read to a new order of what was picked; otherwise what was picked stays.
    refine .congr (.bind (performs_confirm (legible_of_not_mem (by decide)) false) (S := fun b lines ys rest =>
      (b = some true ∧
          ∃ order, ReadsTo (IsOrder entered.length) lines order rest ∧ picked (picked xs entered) order = ys) ∨
        (b ≠ some true ∧ ys = picked xs entered ∧ rest = lines)) ?_) fun lines ys rest => ?_
    · intro b _ _ _
      by_cases hb : b = some true
      · rw [if_pos hb, ← hlength]
        exact (performs_sort prompt _).congr fun _ _ _ => by simp [hb]
      · rw [if_neg hb]
        exact (Performs.pure _).congr fun _ _ _ => by simp [hb]
    · constructor
      · rintro ⟨_, mid, ⟨yes, hyes, rfl⟩, ⟨hb, order, horder, rfl⟩ | ⟨hb, rfl, rfl⟩⟩
        · obtain rfl := Option.some.inj hb
          exact ⟨_, .sorted hseveral.1 hseveral.2 hyes horder, (picked_picked h order).symm⟩
        · obtain rfl : yes = false := by simpa using hb
          exact ⟨_, .declined hseveral.1 hseveral.2 hyes, rfl⟩
      · rintro ⟨positions, hreordered, rfl⟩
        cases hreordered with
        | kept hn => exact absurd hseveral hn
        | declined _ _ hno => exact ⟨_, rest, ⟨false, hno, rfl⟩, .inr ⟨by decide, rfl, rfl⟩⟩
        | sorted _ _ hyes horder =>
          exact ⟨_, _, ⟨true, hyes, rfl⟩, .inl ⟨rfl, _, horder, picked_picked h _⟩⟩
  · rw [if_neg (by simpa [hlength] using hseveral)]
    refine (Performs.pure _).congr fun lines ys rest => ⟨?_, ?_⟩
    · rintro ⟨rfl, rfl⟩
      exact ⟨_, .kept hseveral, rfl⟩
    · rintro ⟨positions, hreordered, rfl⟩
      cases hreordered with
      | kept => exact ⟨rfl, rfl⟩
      | declined hordered hlength | sorted hordered hlength => exact absurd ⟨hordered, hlength⟩ hseveral

theorem performs_multiSelect (prompt : String) (choices : List String) (ordered : Bool) :
    Performs [numbered prompt choices] (multiSelect prompt choices ordered) fun lines ys rest =>
      ∃ positions, Selects ordered choices.length lines positions rest ∧ picked choices positions = ys := by
  rw [multiSelect_eq]
  refine .after_record (.after_shown (legible_of_not_mem (by decide)) fun p => ?_) _
  refine .congr (.bind (performs_readUntil fun _ _ => numbersOf_eq_ok) (S := fun entered lines ys rest =>
    ∃ positions, Reordered ordered entered lines positions rest ∧ picked choices positions = ys) fun hentered => ?_)
    fun lines ys rest => ?_
  · obtain ⟨_, hentered⟩ := hentered.fits
    exact performs_reorder prompt ordered hentered.lt
  · constructor
    · rintro ⟨entered, mid, hentered, positions, hreordered, rfl⟩
      exact ⟨positions, ⟨entered, mid, hentered, hreordered⟩, rfl⟩
    · rintro ⟨positions, ⟨entered, mid, hentered, hreordered⟩, rfl⟩
      exact ⟨entered, mid, hentered, positions, hreordered, rfl⟩

end Terminal

end Stencil.Dialog
