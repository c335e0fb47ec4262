import Stencil.Proofs.Decimal.Reader
import Stencil.Proofs.Dialog.Widgets

namespace Stencil.Dialog.Terminal

/-!
# Selections and orders

Choices are named by the numbers on a line. Which lines are acceptable is told by the grammar of integers, and what a
terminal does by relations between the lines that are there, the result, the lines that are left and everything that
happens meanwhile.

* `Terminal.Acceptable`, `Terminal.Enters` — every part of a line is an integer that is the number of a choice;
* `Terminal.Reading` — lines are read up to the first that fits, and every line before it is reported;
* `Terminal.Sorting`, `Terminal.Selecting` — how texts are put into a new order, and how some of them are selected;
* `Terminal.selections_and_orders` — terminals do exactly this;
* `Terminal.selection_repeats_as_entered` — a choice is selected as often as its number was entered.
-/

variable {α β : Type}

/-! ### Lines with numbers of choices -/

/-- A part of a line is an integer between one and `count`. A text with too many digits is no integer. -/
def InRange (count : Nat) (part : List Char) (n : Int) : Prop :=
  Decimal.IsNumeral part n ∧ part.countP Text.isDecimal ≤ Decimal.maxDigits ∧ 1 ≤ n ∧ n ≤ count

/-- Every part of a line that is not blank is the number of one of `count` choices. Blanks around the line do not
count. -/
def Acceptable (count : Nat) (line : String) : Prop :=
  ∀ part ∈ numberParts line, ∃ n, InRange count part n

/-- The parts of a line are, one by one, the numbers of the choices at some positions. -/
def Enters (count : Nat) (line : String) (positions : List Nat) : Prop :=
  List.Forall₂ (fun part (i : Nat) => InRange count part (i + 1)) (numberParts line) positions

/-- A line has the number of each of `count` choices exactly once. -/
def Arranges (count : Nat) (line : String) (order : List Nat) : Prop :=
  Enters count line order ∧ order.Perm (List.range count)

theorem inRange_iff {count i : Nat} {part : List Char} :
    InRange count part ((i : Int) + 1) ↔ i < count ∧ Decimal.readBounded? part = some ((i : Int) + 1) := by
  rw [InRange, Decimal.readBounded?_eq_some]
  constructor
  · rintro ⟨hnumeral, hdigits, -, hle⟩
    exact ⟨by omega, hnumeral, hdigits⟩
  · rintro ⟨hi, hnumeral, hdigits⟩
    exact ⟨hnumeral, hdigits, by omega, by omega⟩

theorem enters_iff {count : Nat} {line : String} {positions : List Nat} :
    Enters count line positions ↔ IsNumbers count line positions := by
  simp only [Enters, IsNumbers, inRange_iff]

theorem arranges_iff {count : Nat} {line : String} {order : List Nat} :
    Arranges count line order ↔ IsOrder count line order := by
  rw [Arranges, IsOrder, enters_iff]

/-- A line is acceptable exactly if some positions are entered on it. -/
theorem acceptable_iff {count : Nat} {line : String} :
    Acceptable count line ↔ ∃ positions, Enters count line positions := by
  simp only [Enters, exists_forall₂_iff]
  refine forall₂_congr fun part _ => ⟨?_, fun ⟨i, hi⟩ => ⟨_, hi⟩⟩
  rintro ⟨n, hrange⟩
  have hn : 1 ≤ n := hrange.2.2.1
  exact ⟨(n - 1).toNat, by rwa [Int.toNat_of_nonneg (by omega), Int.sub_add_cancel]⟩

/-! ### What is reported -/

/-- What is reported of a line on which no choices are entered. -/
inductive Misread (count : Nat) (line : String) : String → Prop
  | unacceptable : ¬ Acceptable count line → Misread count line (rangeHint count)

/-- What is reported of a line that is no order. -/
inductive Misordered (count : Nat) (line : String) : String → Prop
  | unacceptable : ¬ Acceptable count line → Misordered count line (rangeHint count)
  | incomplete {positions : List Nat} : Enters count line positions → ¬ positions.Perm (List.range count) →
    Misordered count line "[red]List every number exactly once[/red]"

/-- A line says yes or no; an empty line says no. -/
def Answers (line : String) (answer : Option Bool) : Prop :=
  ∃ yes, Says false line yes ∧ some yes = answer

/-- What is reported of a line that says neither yes nor no. -/
inductive Unclear (line : String) : String → Prop
  | unclear : (∀ answer, ¬ Answers line answer) → Unclear line "[prompt.invalid]Please enter Y or N"

theorem not_acceptable_of_none {count : Nat} {line : String} (h : indexes? count line = none) :
    ¬ Acceptable count line := fun hacceptable => by
  obtain ⟨positions, hpositions⟩ := acceptable_iff.mp hacceptable
  rw [indexes?_eq_some.mpr (enters_iff.mp hpositions)] at h
  cases h

theorem misread_of_numbersOf {count : Nat} {line problem : String} (h : numbersOf count line = .error problem) :
    Misread count line problem := by
  unfold numbersOf at h
  split at h
  · cases h
  · cases h
    exact .unacceptable (not_acceptable_of_none ‹_›)

theorem misordered_of_orderOf {count : Nat} {line problem : String} (h : orderOf count line = .error problem) :
    Misordered count line problem := by
  unfold orderOf at h
  split at h
  · cases h
    exact .unacceptable (not_acceptable_of_none ‹_›)
  · rename_i positions hpositions
    split at h
    · cases h
    · rename_i hpermutation
      cases h
      exact .incomplete (enters_iff.mpr (indexes?_eq_some.mp hpositions)) (mt isPermutation_iff.mpr hpermutation)

theorem unclear_of_answerOf {line problem : String} (h : answerOf false line = .error problem) :
    Unclear line problem := by
  have hnone : ∀ answer, ¬ Answers line answer := fun answer hanswer => by
    rw [answerOf_eq_ok.mpr hanswer] at h
    cases h
  unfold answerOf at h
  split at h
  · cases h
  · split at h
    · cases h
    · cases h
      exact .unclear hnone

/-! ### Reading lines -/

/-- Lines are read up to the first that fits; a prompt precedes every line, and every line that does not fit is
reported. If none fits, the lines run out. -/
inductive Reading (prompt : String) (Fits : String → α → Prop) (Problem : String → String → Prop)
    (lines : List String) : Except Fault α → List String → List Event → Prop
  | found {skipped rest problems : List String} {line : String} {a : α} : lines = skipped ++ line :: rest →
    List.Forall₂ Problem skipped problems → Fits line a →
    Reading prompt Fits Problem lines (.ok a) rest (asked prompt problems)
  | runsOut {problems : List String} : List.Forall₂ Problem lines problems →
    Reading prompt Fits Problem lines (.error (.foreign .endOfInput)) [] (asked prompt problems)

/-- An action does at every terminal what a relation between the lines, the result, the lines that are left and what
happens says. Unlike with `Performs`, everything that happens is told. -/
def Follows (act : Action Terminal α) (R : List String → Except Fault α → List String → List Event → Prop) : Prop :=
  ∀ t, ∃ result rest events, act t = (result, ⟨rest, t.events ++ events⟩) ∧ R t.lines result rest events

namespace Follows

variable {act : Action Terminal α} {R R' : List String → Except Fault α → List String → List Event → Prop}

theorem imp (h : Follows act R)
    (hr : ∀ lines result rest events, R lines result rest events → R' lines result rest events) :
    Follows act R' := fun t => by
  obtain ⟨result, rest, events, heq, hr'⟩ := h t
  exact ⟨result, rest, events, heq, hr _ _ _ _ hr'⟩

theorem pure (a : α) : Follows (Pure.pure a) fun lines result rest events =>
    result = .ok a ∧ rest = lines ∧ events = [] := fun t => ⟨.ok a, t.lines, [], by simp, rfl, rfl, rfl⟩

/-- One action after another one. -/
theorem bind {f : α → Action Terminal β} {S : α → List String → Except Fault β → List String → List Event → Prop}
    (h : Follows act R) (hf : ∀ {a lines rest events}, R lines (.ok a) rest events → Follows (f a) (S a)) :
    Follows (act >>= f) fun lines result rest events =>
      (∃ fault, R lines (.error fault) rest events ∧ result = .error fault) ∨
        ∃ a mid before after, R lines (.ok a) mid before ∧ S a mid result rest after ∧
          events = before ++ after := fun t => by
  obtain ⟨first, mid, before, heq, hr⟩ := h t
  cases first with
  | error fault =>
    exact ⟨.error fault, mid, before, by rw [Action.bind_apply, heq], .inl ⟨fault, hr, rfl⟩⟩
  | ok a =>
    obtain ⟨result, rest, after, heq', hs⟩ := hf hr ⟨mid, t.events ++ before⟩
    refine ⟨result, rest, before ++ after, ?_, .inr ⟨a, mid, before, after, hr, hs, rfl⟩⟩
    rw [Action.bind_apply, heq, ← List.append_assoc]
    exact heq'

/-- What is recorded first happens first. -/
theorem after_record (h : Follows act R) (e : Event) :
    Follows (modify (record e) >>= fun _ => act) fun lines result rest events =>
      ∃ more, R lines result rest more ∧ events = e :: more := fun t => by
  obtain ⟨result, rest, events, heq, hr⟩ := h (record e t)
  refine ⟨result, rest, e :: events, ?_, events, hr, rfl⟩
  rw [Action.bind_apply, Action.modify_apply]
  simpa [record] using heq

end Follows

theorem follows_readUntil {prompt : String} {judge : String → Except String α} {Fits : String → α → Prop}
    {Problem : String → String → Prop} (hok : ∀ line a, judge line = .ok a ↔ Fits line a)
    (herror : ∀ line problem, judge line = .error problem → Problem line problem) :
    Follows (readUntil prompt judge) (Reading prompt Fits Problem) := fun t => by
  have hreported : ∀ {lines problems : List String},
      List.Forall₂ (fun l problem => judge l = .error problem) lines problems → List.Forall₂ Problem lines problems :=
    fun h => h.imp herror
  rcases readsTo_or_none Fits t.lines with ⟨a, rest, skipped, line, hlines, hskipped, ha⟩ | hnone
  · obtain ⟨problems, hproblems⟩ := exists_problems fun l hl b hb => hskipped l hl b ((hok l b).mp hb)
    refine ⟨.ok a, rest, asked prompt problems, ?_, .found hlines (hreported hproblems) ha⟩
    rw [readUntil, hlines, readFrom_found prompt t.events hproblems ((hok line a).mpr ha)]
  · obtain ⟨problems, hproblems⟩ := exists_problems fun l hl b hb => hnone l hl b ((hok l b).mp hb)
    refine ⟨_, [], asked prompt problems, ?_, .runsOut (hreported hproblems)⟩
    rw [readUntil, readFrom_runsOut prompt t.events hproblems]

/-! ### Orders -/

/-- The texts that stand at some positions, one by one. -/
def StandAt (items : List String) (positions : List Nat) (ys : List String) : Prop :=
  List.Forall₂ (fun i y => items[i]? = some y) positions ys

/-- A new order is read: texts are shown with their numbers, and then lines are read up to the first that has each
number once. -/
inductive Sorting (prompt : String) (items lines : List String) :
    Except Fault (List String) → List String → List Event → Prop
  | sorted {order : List Nat} {ys rest : List String} {events : List Event} :
    Reading "New order (comma-separated numbers) (): " (Arranges items.length) (Misordered items.length) lines
      (.ok order) rest events →
    StandAt items order ys → ys.Perm items →
    Sorting prompt items lines (.ok ys) rest (numbered prompt items :: events)
  | unsorted {rest : List String} {events : List Event} :
    Reading "New order (comma-separated numbers) (): " (Arranges items.length) (Misordered items.length) lines
      (.error (.foreign .endOfInput)) rest events →
    Sorting prompt items lines (.error (.foreign .endOfInput)) rest (numbered prompt items :: events)

theorem Enters.standAt {line : String} {positions : List Nat} {choices : List String}
    (h : Enters choices.length line positions) : StandAt choices positions (picked choices positions) :=
  (picked_eq_iff (enters_iff.mp h).lt).mp rfl

theorem Arranges.perm {line : String} {order : List Nat} {items : List String} (h : Arranges items.length line order) :
    (picked items order).Perm items := by
  simpa only [picked, filterMap_range_getElem?] using h.2.filterMap (items[·]?)

theorem Reading.fits {prompt : String} {Fits : String → α → Prop} {Problem : String → String → Prop}
    {lines rest : List String} {a : α} {events : List Event}
    (h : Reading prompt Fits Problem lines (.ok a) rest events) : ∃ line, Fits line a := by
  cases h with
  | found _ _ ha => exact ⟨_, ha⟩

theorem sort_eq (prompt : String) (items : List String) :
    sort prompt items = (do
      modify (record (numbered prompt items))
      let order ← readUntil "New order (comma-separated numbers) (): " (orderOf items.length)
      pure (picked items order)) :=
  rfl

theorem follows_sort (prompt : String) (items : List String) : Follows (sort prompt items) (Sorting prompt items) := by
  have horder : Follows (readUntil "New order (comma-separated numbers) (): " (orderOf items.length))
      (Reading _ (Arranges items.length) (Misordered items.length)) :=
    follows_readUntil (fun _ _ => orderOf_eq_ok.trans arranges_iff.symm) fun _ _ => misordered_of_orderOf
  rw [sort_eq]
  refine ((horder.bind fun _ => Follows.pure _).after_record _).imp ?_
  rintro lines result rest _ ⟨_, ⟨fault, hreading, rfl⟩ | ⟨order, _, _, _, hreading, ⟨rfl, rfl, rfl⟩, rfl⟩, rfl⟩
  · cases hreading with
    | runsOut hproblems => exact .unsorted (.runsOut hproblems)
  · obtain ⟨line, harranges⟩ := hreading.fits
    rw [List.append_nil]
    exact .sorted hreading harranges.1.standAt harranges.perm

/-! ### Selections -/

/-- What happens to texts that were selected: several of them are put into a new order if this is offered and wanted;
otherwise they are kept. -/
inductive Reordering (prompt : String) (ordered : Bool) (xs lines : List String) :
    Except Fault (List String) → List String → List Event → Prop
  | kept : ¬ (ordered = true ∧ 1 < xs.length) → Reordering prompt ordered xs lines (.ok xs) lines []
  | unanswered {rest : List String} {events : List Event} : ordered = true → 1 < xs.length →
    Reading "Reorder selection? [y/n] (n): " Answers Unclear lines (.error (.foreign .endOfInput)) rest events →
    Reordering prompt ordered xs lines (.error (.foreign .endOfInput)) rest events
  | declined {rest : List String} {events : List Event} : ordered = true → 1 < xs.length →
    Reading "Reorder selection? [y/n] (n): " Answers Unclear lines (.ok (some false)) rest events →
    Reordering prompt ordered xs lines (.ok xs) rest events
  | confirmed {mid rest : List String} {result : Except Fault (List String)} {before after : List Event} :
    ordered = true → 1 < xs.length →
    Reading "Reorder selection? [y/n] (n): " Answers Unclear lines (.ok (some true)) mid before →
    Sorting prompt xs mid result rest after → Reordering prompt ordered xs lines result rest (before ++ after)

/-- Some choices are selected: all are shown with their numbers, lines are read up to the first acceptable one, and the
choices that are entered there may then be reordered. -/
inductive Selecting (prompt : String) (choices : List String) (ordered : Bool) (lines : List String) :
    Except Fault (List String) → List String → List Event → Prop
  | unread {rest : List String} {events : List Event} :
    Reading "Choices (comma-separated numbers) (): " (Enters choices.length) (Misread choices.length) lines
      (.error (.foreign .endOfInput)) rest events →
    Selecting prompt choices ordered lines (.error (.foreign .endOfInput)) rest (numbered prompt choices :: events)
  | selected {entered : List Nat} {xs mid rest : List String} {result : Except Fault (List String)}
    {before after : List Event} :
    Reading "Choices (comma-separated numbers) (): " (Enters choices.length) (Misread choices.length) lines
      (.ok entered) mid before →
    StandAt choices entered xs → Reordering prompt ordered xs mid result rest after →
    Selecting prompt choices ordered lines result rest (numbered prompt choices :: (before ++ after))

theorem reorder_of_several {prompt : String} {ordered : Bool} {xs : List String} (h : ordered = true ∧ 1 < xs.length) :
    reorder prompt ordered xs = (do
      let answer ← readUntil "Reorder selection? [y/n] (n): " (answerOf false)
      if answer = some true then sort prompt xs else pure xs) := by
  rw [reorder, if_pos (by simpa using h), confirm_eq]
  rfl

theorem follows_reorder (prompt : String) (ordered : Bool) (xs : List String) :
    Follows (reorder prompt ordered xs) (Reordering prompt ordered xs) := by
  by_cases hseveral : ordered = true ∧ 1 < xs.length
  · have hanswer : Follows (readUntil "Reorder selection? [y/n] (n): " (answerOf false)) (Reading _ Answers Unclear) :=
      follows_readUntil (fun _ _ => answerOf_eq_ok) fun _ _ => unclear_of_answerOf
    rw [reorder_of_several hseveral]
    -- After a yes, a new order of what was selected is read; otherwise it is kept.
    refine (hanswer.bind (S := fun answer lines result rest events =>
      (answer = some true ∧ Sorting prompt xs lines result rest events) ∨
        (answer ≠ some true ∧ result = .ok xs ∧ rest = lines ∧ events = [])) fun {answer} _ _ _ _ => ?_).imp ?_
    · by_cases hyes : answer = some true
      · rw [if_pos hyes]
        exact (follows_sort prompt xs).imp fun _ _ _ _ hsorting => .inl ⟨hyes, hsorting⟩
      · rw [if_neg hyes]
        exact (Follows.pure xs).imp fun _ _ _ _ hkept => .inr ⟨hyes, hkept⟩
    · rintro lines result rest _ (⟨fault, hreading, rfl⟩ | ⟨_, _, _, _, hreading, hgoes, rfl⟩)
      · cases hreading with
        | runsOut hproblems => exact .unanswered hseveral.1 hseveral.2 (.runsOut hproblems)
      · rcases hgoes with ⟨rfl, hsorting⟩ | ⟨hno, rfl, rfl, rfl⟩
        · exact .confirmed hseveral.1 hseveral.2 hreading hsorting
        · obtain ⟨_, yes, -, rfl⟩ := hreading.fits
          obtain rfl : yes = false := by simpa using hno
          rw [List.append_nil]
          exact .declined hseveral.1 hseveral.2 hreading
  · rw [reorder, if_neg (by simpa using hseveral)]
    refine (Follows.pure xs).imp ?_
    rintro lines result rest events ⟨rfl, rfl, rfl⟩
    exact .kept hseveral

theorem follows_multiSelect (prompt : String) (choices : List String) (ordered : Bool) :
    Follows (multiSelect prompt choices ordered) (Selecting prompt choices ordered) := by
  have hnumbers : Follows (readUntil "Choices (comma-separated numbers) (): " (numbersOf choices.length))
      (Reading _ (Enters choices.length) (Misread choices.length)) :=
    follows_readUntil (fun _ _ => numbersOf_eq_ok.trans enters_iff.symm) fun _ _ => misread_of_numbersOf
  rw [multiSelect_eq]
  refine ((hnumbers.bind fun {entered} _ _ _ _ => follows_reorder prompt ordered (picked choices entered)).after_record
    (numbered prompt choices)).imp ?_
  rintro lines result rest _ ⟨_, ⟨fault, hreading, rfl⟩ | ⟨entered, _, _, _, hreading, hreordering, rfl⟩, rfl⟩
  · cases hreading with
    | runsOut hproblems => exact .unread (.runsOut hproblems)
  · obtain ⟨line, henters⟩ := hreading.fits
    exact .selected hreading henters.standAt hreordering

theorem Sorting.fault_eq {prompt : String} {items lines rest : List String} {fault : Fault} {events : List Event}
    (h : Sorting prompt items lines (.error fault) rest events) : fault = .foreign .endOfInput := by
  cases h with
  | unsorted => rfl

theorem Selecting.fault_eq {prompt : String} {choices lines rest : List String} {ordered : Bool} {fault : Fault}
    {events : List Event} (h : Selecting prompt choices ordered lines (.error fault) rest events) :
    fault = .foreign .endOfInput := by
  cases h with
  | unread => rfl
  | selected _ _ hreordering =>
    cases hreordering with
    | unanswered => rfl
    | confirmed _ _ _ hsorting => exact hsorting.fault_eq

/-- **What lines select and reorder.** A new order is read up to the first line that has each number exactly once, and
gives a permutation of the texts. A selection is read up to the first acceptable line, and gives the choices of its
numbers in their order, or a permutation of them if a new order is offered and wanted. Every line before is reported;
what may go wrong is only that the lines run out. -/
theorem selections_and_orders (prompt : String) (choices : List String) :
    Follows (sort prompt choices) (Sorting prompt choices) ∧
      (∀ ordered, Follows (multiSelect prompt choices ordered) (Selecting prompt choices ordered)) ∧
      ∀ t fault, (sort prompt choices t).1 = .error fault ∨
        (∃ ordered, (multiSelect prompt choices ordered t).1 = .error fault) → fault = .foreign .endOfInput := by
  refine ⟨follows_sort prompt choices, follows_multiSelect prompt choices, fun t fault hfault => ?_⟩
  rcases hfault with hfault | ⟨ordered, hfault⟩
  · obtain ⟨result, rest, events, heq, hsorting⟩ := follows_sort prompt choices t
    obtain rfl : result = .error fault := by rw [← hfault, heq]
    exact hsorting.fault_eq
  · obtain ⟨result, rest, events, heq, hselecting⟩ := follows_multiSelect prompt choices ordered t
    obtain rfl : result = .error fault := by rw [← hfault, heq]
    exact hselecting.fault_eq

example :
    sort "T" ["a", "b"] ⟨["0", "1,1", " 2, +1,", "more"], []⟩ =
      (.ok ["b", "a"], ⟨["more"], numbered "T" ["a", "b"] :: asked "New order (comma-separated numbers) (): "
        [rangeHint 2, "[red]List every number exactly once[/red]"]⟩) := by
  rfl

/-! ### Repeated choices -/

theorem StandAt.mem {choices xs : List String} {positions : List Nat} (h : StandAt choices positions xs) :
    ∀ c ∈ xs, c ∈ choices := by
  unfold StandAt at h
  induction h with
  | nil => exact nofun
  | cons hi _ ih => exact List.forall_mem_cons.mpr ⟨List.mem_of_getElem? hi, ih⟩

/-- Of distinct choices, each stands at its own position alone. -/
theorem StandAt.count_eq {choices xs : List String} {positions : List Nat} (h : StandAt choices positions xs)
    (hn : choices.Nodup) {i : Nat} {c : String} (hi : choices[i]? = some c) : xs.count c = positions.count i := by
  unfold StandAt at h
  induction h with
  | nil => simp
  | @cons j x _ _ hj _ ih =>
    -- Distinct choices are told apart by their positions.
    have hsame : x = c ↔ j = i := by
      constructor
      · rintro rfl
        exact (List.getElem?_inj (List.getElem?_eq_some_iff.mp hj).1 hn).mp (hj.trans hi.symm)
      · rintro rfl
        exact Option.some.inj (hj.symm.trans hi)
    simp only [List.count_cons, ih, beq_iff_eq, hsame]

theorem StandAt.nodup_iff {choices xs : List String} {positions : List Nat} (h : StandAt choices positions xs)
    (hn : choices.Nodup) : xs.Nodup ↔ positions.Nodup := by
  unfold StandAt at h
  induction h with
  | nil => simp
  | @cons i x _ _ hi htail ih =>
    rw [List.nodup_cons, List.nodup_cons, ih, ← List.count_eq_zero, ← List.count_eq_zero,
      StandAt.count_eq htail hn hi]

theorem Reordering.perm {prompt : String} {ordered : Bool} {xs ys lines rest : List String} {events : List Event}
    (h : Reordering prompt ordered xs lines (.ok ys) rest events) : ys.Perm xs := by
  cases h with
  | kept | declined => exact .refl _
  | confirmed _ _ _ hsorting =>
    cases hsorting with
    | sorted _ _ hperm => exact hperm

theorem not_acceptable_of_misread {count : Nat} {skipped problems : List String}
    (h : List.Forall₂ (Misread count) skipped problems) : ∀ l ∈ skipped, ¬ Acceptable count l := fun l hl => by
  obtain ⟨problem, hproblem⟩ := exists_forall₂_iff.mp ⟨problems, h⟩ l hl
  cases hproblem with
  | unacceptable hline => exact hline

/-- **Repeated choices.** Of distinct choices, each is selected as often as its number stands on the first acceptable
line, whether the selection is reordered or not. So a selection repeats a choice exactly if the line repeats a
number. -/
theorem selection_repeats_as_entered {prompt : String} {choices xs : List String} {ordered : Bool} {t : Terminal}
    (hn : choices.Nodup) (h : (multiSelect prompt choices ordered t).1 = .ok xs) :
    ∃ skipped line rest entered, t.lines = skipped ++ line :: rest ∧ (∀ l ∈ skipped, ¬ Acceptable choices.length l) ∧
      Enters choices.length line entered ∧ (∀ i c, choices[i]? = some c → xs.count c = entered.count i) ∧
      (∀ c ∈ xs, c ∈ choices) ∧ (xs.Nodup ↔ entered.Nodup) := by
  obtain ⟨result, last, events, heq, hselecting⟩ := follows_multiSelect prompt choices ordered t
  obtain rfl : result = .ok xs := by rw [← h, heq]
  cases hselecting with
  | @selected entered picks _ _ _ _ _ hreading hpicks hreordering =>
    have hperm : xs.Perm picks := hreordering.perm
    cases hreading with
    | @found skipped _ _ line _ hlines hskipped henters =>
      refine ⟨skipped, line, _, entered, hlines, not_acceptable_of_misread hskipped, henters, fun i c hi => ?_,
        fun c hc => hpicks.mem c (hperm.mem_iff.mp hc), ?_⟩
      · rw [hperm.count_eq, hpicks.count_eq hn hi]
      · rw [hperm.nodup_iff, hpicks.nodup_iff hn]

/-- A line that names a choice twice, and a new order of what it names. -/
theorem selection_repeats_as_entered_of_three :
    ["a", "b", "c"].Nodup ∧
      (multiSelect "T" ["a", "b", "c"] true ⟨["4", "3,1,3", "y", "2,3,1", "more"], []⟩).1 = .ok ["a", "c", "c"] ∧
      ∃ skipped line rest entered, ["4", "3,1,3", "y", "2,3,1", "more"] = skipped ++ line :: rest ∧
        (∀ l ∈ skipped, ¬ Acceptable 3 l) ∧ Enters 3 line entered ∧
        (∀ i c, ["a", "b", "c"][i]? = some c → ["a", "c", "c"].count c = entered.count i) ∧
        (∀ c ∈ ["a", "c", "c"], c ∈ ["a", "b", "c"]) ∧ (["a", "c", "c"].Nodup ↔ entered.Nodup) := by
  have hn : ["a", "b", "c"].Nodup := by decide
  have h : (multiSelect "T" ["a", "b", "c"] true ⟨["4", "3,1,3", "y", "2,3,1", "more"], []⟩).1 =
      .ok ["a", "c", "c"] := by rfl
  exact ⟨hn, h, selection_repeats_as_entered hn h⟩

/-- A number that is entered twice selects its choice twice, also if the selection is reordered. -/
theorem number_entered_twice :
    ["a", "b"].Nodup ∧ (multiSelect "T" ["a", "b"] false ⟨["1,1"], []⟩).1 = .ok ["a", "a"] ∧
      (multiSelect "T" ["a", "b"] true ⟨["1,1", "y", "2,1"], []⟩).1 = .ok ["a", "a"] ∧ ¬ ["a", "a"].Nodup :=
  ⟨by decide, by rfl, by rfl, by decide⟩

end Stencil.Dialog.Terminal
