import Stencil.Proofs.Dialog.Markup
import Stencil.Proofs.Dialog.Progress
import Stencil.Proofs.Dialog.Selections
import Stencil.Proofs.Dialog.Transcript

namespace Stencil.Dialog

/-!
# What a console draws

A terminal records what it shows, and a console draws it. The console takes every text for markup, so an action ends at
the first text that is not legible, with the failure of that text, and nothing after it happens. Prompts, labels and
messages are drawn as they are: whether a dialog can be held depends on them, but never on defaults or on lines.

* `drawn` — what comes of an action at a console, with `drawn_bind` for one action after another;
* `Terminal.Quiet` — actions that go at a console as at any terminal, and fail only as the lines run out;
* `Terminal.Request`, `Terminal.Request.quiet`, `Terminal.Request.drawn_of_error` — the widgets, with legible texts and
  without;
* `Interview.drawn_askUpTo` — the loop of an interview at a console;
* `texts_in_dialogs` — how texts decide what comes of dialogs.
-/

open Terminal (Event Legible)

/-! ### Drawing -/

namespace Terminal

/-- The texts that are drawn for something that happens. The cells of a table are drawn first, to measure them. What
stands before a line that is read has been drawn before. -/
def Event.texts : Event → List String
  | .input _ => []
  | .print text => [text]
  | .table title headers rows => headers ++ rows.flatten ++ [title]

/-- Draw texts, up to the first that is not legible. -/
def draw (texts : List String) : Except Fault Unit :=
  texts.forM fun text => (Markup.plain text).map fun _ => ()

theorem draw_append (texts more : List String) : draw (texts ++ more) = (do draw texts; draw more) :=
  List.forM_append

theorem draw_cons (text : String) (texts : List String) :
    draw (text :: texts) = (do (Markup.plain text).map fun _ => (); draw texts) :=
  List.forM_cons

theorem draw_eq_ok {texts : List String} : draw texts = .ok () ↔ ∀ text ∈ texts, Legible text := by
  induction texts with
  | nil => simp [draw, pure, Except.pure]
  | cons text texts ih =>
    rw [draw_cons, List.forall_mem_cons, ← ih, Legible]
    cases Markup.plain text with
    | ok shown => exact ⟨fun h => ⟨⟨shown, rfl⟩, h⟩, And.right⟩
    | error fault => simp [Except.map, bind, Except.bind]

/-- Drawing fails at one of the texts, in the way of this text. -/
theorem plain_of_draw {texts : List String} {fault : Fault} (h : draw texts = .error fault) :
    ∃ text ∈ texts, Markup.plain text = .error fault := by
  induction texts with
  | nil => cases h
  | cons text texts ih =>
    rw [draw_cons] at h
    cases htext : Markup.plain text with
    | ok shown =>
      rw [htext] at h
      obtain ⟨text', hmem, hplain⟩ := ih h
      exact ⟨text', List.mem_cons_of_mem text hmem, hplain⟩
    | error fault' =>
      rw [htext] at h
      cases h
      exact ⟨text, List.mem_cons_self, htext⟩

theorem failure_of_draw {texts : List String} {fault : Fault} (h : draw texts = .error fault) :
    Markup.Failure fault := by
  obtain ⟨text, -, hplain⟩ := plain_of_draw h
  exact Markup.failsAtText_plain text fault hplain

theorem legible_or_draw (texts : List String) :
    (∀ text ∈ texts, Legible text) ∨ ∃ fault, draw texts = .error fault := by
  cases h : draw texts with
  | ok => exact .inl (draw_eq_ok.mp h)
  | error fault => exact .inr ⟨fault, rfl⟩

end Terminal

open Terminal (draw draw_append)

section

variable {σ α β : Type} {log : σ → List Event} {act act' : Action σ α} {f : α → Action σ β} {s : σ}

/-- What has happened stays, and an action adds to it. -/
def Grows (log : σ → List Event) (act : Action σ α) : Prop :=
  ∀ s, log s <+: log (act s).2

/-- What happens during an action. -/
def happening (log : σ → List Event) (act : Action σ α) (s : σ) : List Event :=
  (log (act s).2).drop (log s).length

/-- What comes of an action at a console: the failure of the first text that is not legible, or else what comes of it
at any terminal. -/
def drawn (log : σ → List Event) (act : Action σ α) (s : σ) : Except Fault α := do
  draw ((happening log act s).flatMap Event.texts)
  (act s).1

theorem grows_of_silent (h : ∀ s, log (act s).2 = log s) : Grows log act := fun s => by rw [h s]

theorem drawn_of_silent (h : log (act s).2 = log s) : drawn log act s = (act s).1 := by
  rw [drawn, happening, h, List.drop_length]
  rfl

theorem drawn_congr (h : act s = act' s) : drawn log act s = drawn log act' s := by
  rw [drawn, drawn, happening, happening, h]

/-- What comes of an action at a console is what comes of it at any terminal, or the failure of a text. -/
theorem drawn_cases (log : σ → List Event) (act : Action σ α) (s : σ) :
    drawn log act s = (act s).1 ∨ ∃ fault, drawn log act s = .error fault ∧
      ∃ e ∈ happening log act s, ∃ text ∈ e.texts, Markup.plain text = .error fault := by
  unfold drawn
  cases h : draw ((happening log act s).flatMap Event.texts) with
  | ok => exact .inl rfl
  | error fault =>
    obtain ⟨text, hmem, hplain⟩ := Terminal.plain_of_draw h
    obtain ⟨e, he, htext⟩ := List.mem_flatMap.mp hmem
    exact .inr ⟨fault, rfl, e, he, text, htext, hplain⟩

theorem Grows.bind (h : Grows log act) (hf : ∀ a, Grows log (f a)) : Grows log (act >>= f) := fun s => by
  have hact := h s
  rw [Action.bind_apply]
  rcases hrun : act s with ⟨e | a, s'⟩ <;> rw [hrun] at hact
  · exact hact
  · exact hact.trans (hf a s')

/-- One action after another one is drawn after it. -/
theorem drawn_bind (h : Grows log act) (hf : ∀ a, Grows log (f a)) (s : σ) :
    drawn log (act >>= f) s = drawn log act s >>= fun a => drawn log (f a) (act s).2 := by
  have hprefix := h s
  unfold drawn happening
  rw [Action.bind_apply]
  rcases hrun : act s with ⟨e | a, s'⟩ <;> rw [hrun] at hprefix
  · rw [bind_assoc]
    rfl
  · -- What both actions add to the log is what each of them adds, one after the other.
    have hsplit : (log (f a s').2).drop (log s).length =
        (log s').drop (log s).length ++ (log (f a s').2).drop (log s').length := by
      obtain ⟨more, hmore⟩ := hf a s'
      rw [← hmore, List.drop_append_of_le_length hprefix.length_le, List.drop_left]
    simp only [hsplit, List.flatMap_append, draw_append, bind_assoc]
    rfl

/-- Nothing follows what cannot be drawn. -/
theorem drawn_bind_of_error {fault : Fault} (he : drawn log act s = .error fault) (h : Grows log act)
    (hf : ∀ a, Grows log (f a)) : drawn log (act >>= f) s = .error fault := by
  rw [drawn_bind h hf, he]
  rfl

theorem Grows.map (h : Grows log act) (g : α → β) : Grows log (g <$> act) := by
  rw [map_eq_pure_bind]
  exact h.bind fun _ => grows_of_silent fun _ => rfl

end

/-! ### Widgets -/

namespace Terminal

variable {α β : Type}

theorem grows_record (e : Event) : Grows events (modify (record e)) := fun _ => List.prefix_append _ _

theorem drawn_record (e : Event) (t : Terminal) : drawn events (modify (record e)) t = draw e.texts := by
  rw [drawn, happening, Action.modify_apply]
  simp only [record, List.drop_left, List.flatMap_singleton]
  exact bind_pure _

theorem grows_shown (prompt addition : String) : Grows events (shown prompt addition) := grows_of_silent fun _ => rfl

/-- Between lines that are read, it is told what is wrong with them. -/
theorem follows_readUntil_problems (prompt : String) (judge : String → Except String α) :
    Follows (readUntil prompt judge) (Reading prompt (judge · = .ok ·) (judge · = .error ·)) :=
  follows_readUntil (fun _ _ => Iff.rfl) fun _ _ => id

theorem grows_readUntil (prompt : String) (judge : String → Except String α) :
    Grows events (readUntil prompt judge) := fun t => by
  obtain ⟨result, rest, events, heq, -⟩ := follows_readUntil_problems prompt judge t
  rw [heq]
  exact List.prefix_append _ _

theorem grows_input (prompt : String) (default : Option String) : Grows events (input prompt default) :=
  (grows_shown _ _).bind fun _ => grows_readUntil _ _

theorem grows_confirm (prompt : String) (default : Bool) : Grows events (confirm prompt (some default)) := by
  rw [confirm_eq]
  exact (grows_shown _ _).bind fun _ => grows_readUntil _ _

theorem grows_choice (choices : List String) (i : Nat) :
    Grows events (match choices[i]? with
      | some c => pure c
      | none => throw (.foreign .outOfRange) : Action Terminal String) := by
  cases choices[i]? <;> exact grows_of_silent fun _ => rfl

theorem grows_select (prompt : String) (choices : List String) : Grows events (select prompt choices) :=
  (grows_record _).bind fun _ => (grows_readUntil _ _).bind (grows_choice choices)

theorem grows_sort (prompt : String) (items : List String) : Grows events (sort prompt items) :=
  (grows_record _).bind fun _ => (grows_shown _ _).bind fun _ => (grows_readUntil _ _).bind fun _ =>
    grows_of_silent fun _ => rfl

theorem grows_reorder (prompt : String) (ordered : Bool) (xs : List String) :
    Grows events (reorder prompt ordered xs) := by
  unfold reorder
  split
  · refine (grows_confirm _ _).bind fun answer => ?_
    split
    · exact grows_sort _ _
    · exact grows_of_silent fun _ => rfl
  · exact grows_of_silent fun _ => rfl

theorem grows_multiSelect (prompt : String) (choices : List String) (ordered : Bool) :
    Grows events (multiSelect prompt choices ordered) := by
  rw [multiSelect_eq]
  exact (grows_record _).bind fun _ => (grows_shown _ _).bind fun _ => (grows_readUntil _ _).bind fun _ =>
    grows_reorder _ _ _

/-- At a console, an action goes as at any terminal, and it fails only as the lines run out. -/
structure Quiet (act : Action Terminal α) (t : Terminal) : Prop where
  drawn_eq : drawn events act t = (act t).1
  runsOut : ∀ fault, (act t).1 = .error fault → fault = .foreign .endOfInput ∧ (act t).2.lines = []

namespace Quiet

variable {act : Action Terminal α} {f : α → Action Terminal β} {t : Terminal}

theorem pure (a : α) (t : Terminal) : Quiet (Pure.pure a) t := ⟨drawn_of_silent rfl, nofun⟩

theorem bind (h : Quiet act t) (hact : Grows events act) (hgrows : ∀ a, Grows events (f a))
    (hf : ∀ a, (act t).1 = .ok a → Quiet (f a) (act t).2) : Quiet (act >>= f) t := by
  have hdrawn := drawn_bind hact hgrows t
  have hruns := h.runsOut
  rw [h.drawn_eq] at hdrawn
  rcases hrun : act t with ⟨e | a, t'⟩ <;> rw [hrun] at hdrawn hruns
  · have happly : (act >>= f) t = (.error e, t') := by rw [Action.bind_apply, hrun]
    refine ⟨by rw [hdrawn, happly]; rfl, ?_⟩
    rw [happly]
    rintro _ ⟨⟩
    exact hruns e rfl
  · have happly : (act >>= f) t = f a t' := by rw [Action.bind_apply, hrun]
    have hquiet := hf a (by rw [hrun])
    rw [hrun] at hquiet
    exact ⟨by rw [hdrawn, happly]; exact hquiet.drawn_eq, by rw [happly]; exact hquiet.runsOut⟩

theorem map (h : Quiet act t) (hact : Grows events act) (g : α → β) : Quiet (g <$> act) t := by
  rw [map_eq_pure_bind]
  exact h.bind hact (fun _ => grows_of_silent fun _ => rfl) fun _ _ => pure _ _

/-- What is legible may be shown first. -/
theorem after_record {e : Event} (he : ∀ text ∈ e.texts, Legible text) (hact : Grows events act)
    (h : Quiet act (record e t)) : Quiet (modify (record e) >>= fun _ => act) t := by
  refine bind ⟨?_, nofun⟩ (grows_record e) (fun _ => hact) fun _ _ => h
  rw [drawn_record, draw_eq_ok.mpr he]
  rfl

/-- A prompt that is legible may be shown. -/
theorem after_shown {f : String → Action Terminal α} {prompt addition : String} (hp : Legible prompt)
    (hgrows : ∀ p, Grows events (f p)) (h : ∀ p, Quiet (f p) t) : Quiet (Terminal.shown prompt addition >>= f) t := by
  refine bind ⟨drawn_of_silent rfl, fun fault hfault => ?_⟩ (grows_shown _ _) hgrows fun _ _ => h _
  obtain ⟨text, hp⟩ := hp
  rw [Terminal.shown, hp] at hfault
  cases hfault

end Quiet

theorem texts_asked (prompt : String) (problems : List String) :
    (asked prompt problems).flatMap Event.texts = problems := by
  rw [asked, List.flatMap_append, List.flatMap_assoc]
  induction problems with
  | nil => rfl
  | cons problem problems ih => exact congrArg (problem :: ·) ih

theorem forall_mem_of_forall₂ {P : String → Prop} {lines problems : List String}
    (h : List.Forall₂ (fun _ problem => P problem) lines problems) : ∀ problem ∈ problems, P problem := by
  induction h with
  | nil => exact nofun
  | cons hp _ ih => exact List.forall_mem_cons.mpr ⟨hp, ih⟩

/-- Lines are read quietly if it is told legibly what is wrong with them. -/
theorem quiet_readUntil {prompt : String} {judge : String → Except String α}
    (h : ∀ line problem, judge line = .error problem → Legible problem) (t : Terminal) :
    Quiet (readUntil prompt judge) t := by
  have hfollows : Follows (readUntil prompt judge)
      (Reading prompt (judge · = .ok ·) fun _ problem => Legible problem) :=
    follows_readUntil (fun _ _ => Iff.rfl) h
  obtain ⟨result, rest, events, heq, hreading⟩ := hfollows t
  -- Either way, what is drawn while lines are read are the problems of those that did not fit.
  have hdrawn : ∀ {problems : List String}, events = asked prompt problems → (∀ p ∈ problems, Legible p) →
      drawn Terminal.events (readUntil prompt judge) t = result := by
    rintro problems rfl hlegible
    rw [drawn, happening, heq]
    simp only [List.drop_left, texts_asked, draw_eq_ok.mpr hlegible]
    rfl
  cases hreading with
  | found _ hproblems _ => exact ⟨by rw [hdrawn rfl (forall_mem_of_forall₂ hproblems), heq], by rw [heq]; nofun⟩
  | runsOut hproblems =>
    refine ⟨by rw [hdrawn rfl (forall_mem_of_forall₂ hproblems), heq], ?_⟩
    rw [heq]
    rintro _ ⟨⟩
    exact ⟨rfl, rfl⟩

/-! ### Widgets with legible texts -/

theorem rangeHint_eq (count : Nat) :
    rangeHint count =
      "[" ++ "red" ++ "]" ++ ("Enter numbers between 1 and " ++ toString count) ++ "[/" ++ "red" ++ "]" := by
  rw [show rangeHint count = "[red]Enter numbers between 1 and " ++ toString count ++ "[/red]" from rfl,
    ← String.toList_inj]
  simp

theorem legible_rangeHint (count : Nat) : Legible (rangeHint count) := by
  rw [rangeHint_eq]
  refine Markup.legible_inColor Markup.isPlainWord_red (legible_of_not_mem fun hmem => ?_)
  rw [String.toList_append, Decimal.toList_toString] at hmem
  rcases List.mem_append.mp hmem with hmem | hmem
  · exact absurd hmem (by decide)
  · exact absurd (Decimal.isDigit_of_mem_toDigits _ hmem) (by decide)

theorem legible_incomplete : Legible "[red]List every number exactly once[/red]" := by
  rw [show "[red]List every number exactly once[/red]" =
    "[" ++ "red" ++ "]" ++ "List every number exactly once" ++ "[/" ++ "red" ++ "]" by decide]
  exact Markup.legible_inColor Markup.isPlainWord_red (legible_of_not_mem (by decide))

theorem legible_of_opened {w text : String} (h : Markup.IsPlainWord w) (message : String)
    (htext : text = "[" ++ w ++ "]" ++ message) (hm : '[' ∉ message.toList) : Legible text :=
  htext ▸ Markup.legible_opened h (legible_of_not_mem hm)

theorem legible_noNumber : Legible "[prompt.invalid]Please enter a valid integer number" :=
  legible_of_opened Markup.isPlainWord_invalid "Please enter a valid integer number" (by decide) (by decide)

theorem legible_noChoice : Legible "[prompt.invalid.choice]Please select one of the available options" :=
  legible_of_opened Markup.isPlainWord_invalidChoice "Please select one of the available options" (by decide)
    (by decide)

theorem legible_noAnswer : Legible "[prompt.invalid]Please enter Y or N" :=
  legible_of_opened Markup.isPlainWord_invalid "Please enter Y or N" (by decide) (by decide)

theorem legible_of_choiceOf {count : Nat} {line problem : String} (h : choiceOf count line = .error problem) :
    Legible problem := by
  simp only [choiceOf] at h
  split at h
  · cases h
    exact legible_noNumber
  · split at h
    · cases h
    · cases h
      exact legible_noChoice

theorem legible_of_numbersOf {count : Nat} {line problem : String} (h : numbersOf count line = .error problem) :
    Legible problem := by
  cases misread_of_numbersOf h with
  | unacceptable => exact legible_rangeHint count

theorem legible_of_orderOf {count : Nat} {line problem : String} (h : orderOf count line = .error problem) :
    Legible problem := by
  cases misordered_of_orderOf h with
  | unacceptable => exact legible_rangeHint count
  | incomplete => exact legible_incomplete

theorem legible_of_answerOf {default : Bool} {line problem : String} (h : answerOf default line = .error problem) :
    Legible problem := by
  unfold answerOf at h
  split at h
  · cases h
  · split at h
    · cases h
    · cases h
      exact legible_noAnswer

theorem draw_rows (choices : List String) (n : Nat) :
    draw ((choices.zipIdx n).map fun (c, i) => [toString (i + 1), c]).flatten = draw choices := by
  induction choices generalizing n with
  | nil => rfl
  | cons c choices ih =>
    -- The number of a row is written in digits, so it is drawn as it is.
    have hnumber : '[' ∉ (toString (n + 1)).toList := fun hmem => by
      rw [Decimal.toList_toString] at hmem
      exact absurd (Decimal.isDigit_of_mem_toDigits _ hmem) (by decide)
    obtain ⟨shown, hshown⟩ := legible_of_not_mem hnumber
    rw [List.zipIdx_cons, List.map_cons, List.flatten_cons, List.cons_append, List.cons_append, draw_cons, hshown,
      draw_cons c choices, ← ih (n + 1)]
    exact draw_cons _ _

/-- Of numbered choices, the choices and the title are drawn; numbers are always legible. -/
theorem draw_numbered (title : String) (choices : List String) :
    draw (numbered title choices).texts = draw (choices ++ [title]) := by
  rw [numbered, Event.texts, List.nil_append, draw_append, draw_rows, draw_append]

section

variable {prompt : String} {choices : List String}

theorem legible_numbered (h : ∀ text ∈ choices ++ [prompt], Legible text) :
    ∀ text ∈ (numbered prompt choices).texts, Legible text := by
  rw [← draw_eq_ok, draw_numbered]
  exact draw_eq_ok.mpr h

theorem readUntil_eq_ok {judge : String → Except String α} {t : Terminal} {a : α}
    (h : (readUntil prompt judge t).1 = .ok a) : ∃ line, judge line = .ok a := by
  obtain ⟨result, rest, events, heq, hreading⟩ := follows_readUntil_problems prompt judge t
  obtain rfl : result = .ok a := by rw [← h, heq]
  exact hreading.fits

theorem lt_of_choiceOf {count i : Nat} {line : String} (h : choiceOf count line = .ok i) : i < count := by
  simp only [choiceOf] at h
  split at h
  · cases h
  · split at h
    · rename_i hfind
      cases h
      exact List.mem_range.mp (List.mem_of_find?_eq_some hfind)
    · cases h

theorem mem_of_mem_picked {positions : List Nat} {c : String} (h : c ∈ picked choices positions) : c ∈ choices := by
  obtain ⟨i, -, hi⟩ := List.mem_filterMap.mp h
  exact List.mem_of_getElem? hi

theorem quiet_input (hp : Legible prompt) (default : Option String) (t : Terminal) : Quiet (input prompt default) t :=
  .after_shown hp (fun _ => grows_readUntil _ _) fun _ =>
    quiet_readUntil (fun line problem h => by cases default <;> cases h) t

theorem quiet_confirm (hp : Legible prompt) (default : Bool) (t : Terminal) :
    Quiet (confirm prompt (some default)) t := by
  rw [confirm_eq]
  exact .after_shown hp (fun _ => grows_readUntil _ _) fun _ => quiet_readUntil (fun _ _ => legible_of_answerOf) t

theorem quiet_select (h : ∀ text ∈ choices ++ [prompt], Legible text) (t : Terminal) :
    Quiet (select prompt choices) t := by
  refine .after_record (legible_numbered h) ((grows_readUntil _ _).bind (grows_choice choices))
    ((quiet_readUntil (fun _ _ => legible_of_choiceOf) _).bind (grows_readUntil _ _) (grows_choice choices)
      fun i hi => ?_)
  -- A number that is read is that of a choice.
  obtain ⟨line, hline⟩ := readUntil_eq_ok hi
  rw [List.getElem?_eq_getElem (lt_of_choiceOf hline)]
  exact .pure _ _

theorem quiet_sort {items : List String} (h : ∀ text ∈ items ++ [prompt], Legible text) (t : Terminal) :
    Quiet (sort prompt items) t := by
  have hgrows : ∀ order, Grows events (pure (picked items order) : Action Terminal (List String)) := fun _ =>
    grows_of_silent fun _ => rfl
  rw [sort_eq]
  exact .after_record (legible_numbered h) ((grows_readUntil _ _).bind hgrows)
    ((quiet_readUntil (fun _ _ => legible_of_orderOf) _).bind (grows_readUntil _ _) hgrows fun _ _ => .pure _ _)

theorem quiet_reorder {ordered : Bool} {xs : List String} (h : ∀ text ∈ xs ++ [prompt], Legible text) (t : Terminal) :
    Quiet (reorder prompt ordered xs) t := by
  unfold reorder
  split
  · refine (quiet_confirm (legible_of_not_mem (by decide)) false t).bind (grows_confirm _ _) (fun answer => ?_)
      fun answer _ => ?_
    · split
      · exact grows_sort _ _
      · exact grows_of_silent fun _ => rfl
    · split
      · exact quiet_sort h _
      · exact .pure _ _
  · exact .pure _ _

theorem quiet_multiSelect (h : ∀ text ∈ choices ++ [prompt], Legible text) (ordered : Bool) (t : Terminal) :
    Quiet (multiSelect prompt choices ordered) t := by
  have hread : ∀ p, Grows events (readUntil p (numbersOf choices.length) >>= fun positions =>
      reorder prompt ordered (picked choices positions)) := fun p =>
    (grows_readUntil _ _).bind fun _ => grows_reorder _ _ _
  rw [multiSelect_eq]
  refine .after_record (legible_numbered h) ((grows_shown _ _).bind hread)
    (.after_shown (legible_of_not_mem (by decide)) hread fun p => ?_)
  refine (quiet_readUntil (fun _ _ => legible_of_numbersOf) _).bind (grows_readUntil _ _)
    (fun _ => grows_reorder _ _ _) fun positions _ => quiet_reorder (fun text hmem => h text ?_) _
  exact List.mem_append.mpr ((List.mem_append.mp hmem).imp_left mem_of_mem_picked)

end

/-- How a message is shown. -/
def reported (message : String) : String :=
  "[yellow]" ++ message ++ "[/yellow]"

theorem legible_reported {message : String} (h : Legible message) : Legible (reported message) := by
  rw [show reported message = "[" ++ "yellow" ++ "]" ++ message ++ "[/" ++ "yellow" ++ "]" by
    rw [← String.toList_inj]
    simp [reported]]
  exact Markup.legible_inColor Markup.isPlainWord_yellow h

/-- What a terminal is asked for. -/
inductive Request where
  | ask (q : Question)
  | sort (prompt : String) (items : List String)
  | notify (message : String)

/-- Do what is asked for. -/
def Request.perform : Request → Action Terminal Value
  | .ask q => q.ask
  | .sort prompt items => (fun ys => .list (Value.texts ys)) <$> Terminal.sort prompt items
  | .notify message => do
    modify (Terminal.notify message)
    return .none

/-- The texts of a request that are drawn, in their order. -/
def Request.texts : Request → List String
  | .ask (.input prompt _) | .ask (.confirm prompt _) => [prompt]
  | .ask (.select prompt choices) | .ask (.multiSelect prompt choices _) | .sort prompt choices => choices ++ [prompt]
  | .notify message => [reported message]

theorem Request.grows (q : Request) : Grows events q.perform := by
  cases q with
  | ask q =>
    cases q with
    | input => exact (grows_input _ _).map _
    | select => exact (grows_select _ _).map _
    | multiSelect => exact (grows_multiSelect _ _ _).map _
    | confirm => exact (grows_confirm _ _).map _
  | sort => exact (grows_sort _ _).map _
  | notify => exact (grows_record _).bind fun _ => grows_of_silent fun _ => rfl

/-- A request with legible texts goes at a console as at any terminal, and fails only as the lines run out. -/
theorem Request.quiet {q : Request} (h : ∀ text ∈ q.texts, Legible text) (t : Terminal) : Quiet q.perform t := by
  cases q with
  | ask q =>
    cases q with
    | input => exact (quiet_input (h _ List.mem_cons_self) _ t).map (grows_input _ _) _
    | select => exact (quiet_select h t).map (grows_select _ _) _
    | multiSelect => exact (quiet_multiSelect h _ t).map (grows_multiSelect _ _ _) _
    | confirm => exact (quiet_confirm (h _ List.mem_cons_self) _ t).map (grows_confirm _ _) _
  | sort => exact (quiet_sort h t).map (grows_sort _ _) _
  | notify => exact .after_record h (grows_of_silent fun _ => rfl) (.pure _ _)

section

variable {fault : Fault} {f : String → Action Terminal α} {act : Action Terminal α} {prompt : String}

theorem drawn_after_shown (h : draw [prompt] = .error fault) (addition : String) (hf : ∀ p, Grows events (f p))
    (t : Terminal) : drawn events (shown prompt addition >>= f) t = .error fault := by
  refine drawn_bind_of_error ?_ (grows_shown _ _) hf
  obtain ⟨_, hmem, hplain⟩ := plain_of_draw h
  obtain rfl := List.mem_singleton.mp hmem
  rw [drawn_of_silent rfl, shown, hplain]
  rfl

theorem drawn_after_numbered {choices : List String} (h : draw (choices ++ [prompt]) = .error fault)
    (hact : Grows events act) (t : Terminal) :
    drawn events (modify (record (numbered prompt choices)) >>= fun _ => act) t = .error fault :=
  drawn_bind_of_error (by rw [drawn_record, draw_numbered, h]) (grows_record _) fun _ => hact

theorem drawn_map_of_error {g : α → β} {t : Terminal} (h : drawn events act t = .error fault)
    (hact : Grows events act) : drawn events (g <$> act) t = .error fault := by
  rw [map_eq_pure_bind]
  exact drawn_bind_of_error h hact fun _ => grows_of_silent fun _ => rfl

/-- A request fails at the first of its texts that is not legible. -/
theorem Request.drawn_of_error {q : Request} (h : draw q.texts = .error fault) (t : Terminal) :
    drawn events q.perform t = .error fault := by
  -- All texts of a request are drawn at its start, so what it does afterwards only has to add to the events.
  cases q with
  | ask q =>
    cases q with
    | input => exact drawn_map_of_error (drawn_after_shown h _ (fun _ => grows_readUntil _ _) t) (grows_input _ _)
    | select =>
      exact drawn_map_of_error (drawn_after_numbered h ((grows_readUntil _ _).bind (grows_choice _)) t)
        (grows_select _ _)
    | multiSelect prompt choices ordered =>
      refine drawn_map_of_error ?_ (grows_multiSelect prompt choices ordered)
      rw [multiSelect_eq]
      exact drawn_after_numbered h ((grows_shown _ _).bind fun _ => (grows_readUntil _ _).bind fun _ =>
        grows_reorder _ _ _) t
    | confirm prompt default =>
      refine drawn_map_of_error ?_ (grows_confirm prompt default)
      rw [confirm_eq]
      exact drawn_after_shown h _ (fun _ => grows_readUntil _ _) t
  | sort prompt items =>
    refine drawn_map_of_error ?_ (grows_sort prompt items)
    rw [sort_eq]
    exact drawn_after_numbered h ((grows_readUntil _ _).bind fun _ => grows_of_silent fun _ => rfl) t
  | notify message =>
    exact drawn_bind_of_error (by rw [Terminal.notify, print, drawn_record]; exact h) (grows_record _) fun _ =>
      grows_of_silent fun _ => rfl

end

end Terminal

/-! ### Interviews -/

namespace Interview

open Terminal (reported)

variable {σ κ α : Type} {i : Interview σ κ Terminal}

/-- What has happened at the terminal of an interview. -/
def events (i : Interview σ κ Terminal) : List Event :=
  i.asker.events

theorem grows_onAsker {act : Action Terminal α} (h : Grows Terminal.events act) :
    Grows events (onAsker act : Action (Interview σ κ Terminal) α) := fun i => h i.asker

theorem grows_onTask (act : Action (Task σ κ) α) : Grows events (onTask act) := grows_of_silent fun _ => rfl

theorem grows_askRendered (p : RenderedPrompt) : Grows Terminal.events (askRendered p) := by
  by_cases hflag : p.options = .flag true
  · have hfails : (askRendered p : Action Terminal Value) = throw (.foreign .wrongType) := by
      simp [askRendered, RenderedPrompt.isConfirm, RenderedPrompt.isFreeText, hflag]
    rw [hfails]
    exact grows_of_silent fun _ => rfl
  · rw [askRendered_eq hflag]
    exact (Terminal.Request.grows (.ask p.question)).bind fun _ => grows_of_silent fun _ => rfl

theorem grows_askItems (d : PromptDefinition) (items : List String) (answers : OrderedMap Value) :
    Grows events (askItems d items answers : Action (Interview σ κ Terminal) (OrderedMap Value)) := by
  induction items generalizing answers with
  | nil => exact grows_of_silent fun _ => rfl
  | cons item items ih =>
    refine (grows_of_silent fun _ => rfl).bind fun i => (grows_of_silent fun _ => rfl).bind fun rendered => ?_
    split
    · exact (grows_onAsker (grows_askRendered _)).bind fun _ => ih _
    · exact ih _

variable [Source σ κ]

theorem grows_askGeneric (id : String) (d : PromptDefinition) :
    Grows events (askGeneric id d : Action (Interview σ κ Terminal) Unit) := by
  unfold askGeneric
  dsimp only
  split
  · refine (grows_of_silent fun _ => rfl).bind fun i => (grows_of_silent fun _ => rfl).bind fun rendered => ?_
    split
    · exact (grows_onAsker (grows_askRendered _)).bind fun _ => grows_onTask _
    · exact grows_onTask _
  · refine (grows_of_silent fun _ => rfl).bind fun i => (grows_of_silent fun _ => rfl).bind fun items =>
      (grows_askItems d items []).bind fun answers => ?_
    split <;> exact grows_onTask _

theorem grows_ask (p : TaskPrompt) : Grows events (ask p : Action (Interview σ κ Terminal) Unit) := by
  have hname : ∀ title (names : κ → Action σ (List String)),
      Grows events (askName p title names : Action (Interview σ κ Terminal) Unit) := fun title names =>
    (grows_onTask _).bind fun choices =>
      (grows_onAsker (Terminal.Request.grows (.ask (.select title choices)))).bind fun _ => grows_onTask _
  cases p with
  | database => exact hname _ _
  | table => exact hname _ _
  | generic id d => exact grows_askGeneric id d

/-- A message is reported in an interview. -/
def report (message : String) (i : Interview σ κ Terminal) : Interview σ κ Terminal :=
  { i with asker := Asker.notify message i.asker }

theorem askOrReport_apply (p : TaskPrompt) (i : Interview σ κ Terminal) :
    askOrReport p i = match ask p i with
      | (.ok (), i') => (.ok (), i')
      | (.error (.validation message _), i') => (.ok (), report message i')
      | (.error fault, i') => (.error fault, i') := by
  rw [askOrReport, Action.tryCatch_apply]
  rcases ask p i with ⟨fault | _, i'⟩
  · cases fault <;> rfl
  · rfl

/-- What happens in a round, with the report of a rejection. -/
theorem events_askOrReport (p : TaskPrompt) (i : Interview σ κ Terminal) :
    events (askOrReport p i).2 = events (ask p i).2 ++ match (ask p i).1 with
      | .error (.validation message _) => [.print (reported message)]
      | _ => [] := by
  rw [askOrReport_apply]
  rcases ask p i with ⟨fault | _, i'⟩
  · cases fault <;> simp
    rfl
  · simp

theorem grows_askOrReport (p : TaskPrompt) :
    Grows events (askOrReport p : Action (Interview σ κ Terminal) Unit) := fun i => by
  rw [events_askOrReport]
  exact (grows_ask p i).trans (List.prefix_append _ _)

theorem grows_askUpTo (limit : Nat) : Grows events (askUpTo limit : Action (Interview σ κ Terminal) Bool) := by
  induction limit with
  | zero => exact grows_of_silent fun _ => rfl
  | succ limit ih =>
    refine (grows_of_silent fun _ => rfl).bind fun i => ?_
    split
    · exact grows_of_silent fun _ => rfl
    · exact (grows_askOrReport _).bind fun _ => ih

/-- A round at a console: a rejection is reported, if the report is legible. -/
theorem drawn_askOrReport (p : TaskPrompt) (i : Interview σ κ Terminal) :
    drawn events (askOrReport p) i = match drawn events (ask p) i with
      | .ok () => .ok ()
      | .error (.validation message _) => draw [reported message]
      | .error fault => .error fault := by
  unfold drawn happening
  rw [events_askOrReport, List.drop_append_of_le_length (grows_ask p i).length_le, List.flatMap_append, draw_append,
    askOrReport_apply]
  cases hdraw : draw (((events (ask p i).2).drop (events i).length).flatMap Event.texts) with
  | error fault =>
    -- A text does not fail as an answer that is rejected.
    cases Terminal.failure_of_draw hdraw <;> rfl
  | ok =>
    rcases ask p i with ⟨fault | _, i'⟩
    · cases fault with
      | validation message invalid =>
        show (draw [reported message] >>= fun _ => .ok ()) = draw [reported message]
        cases draw [reported message] <;> rfl
      | _ => rfl
    · rfl

/-- What the loop does in one step at a console. -/
theorem drawn_askUpTo {p : TaskPrompt} {waiting : List TaskPrompt} (limit : Nat)
    (hw : i.task.unanswered = p :: waiting) :
    drawn events (askUpTo (limit + 1)) i = match drawn events (ask p) i with
      | .ok () => drawn events (askUpTo limit) (ask p i).2
      | .error (.validation message _) => do
        draw [reported message]
        drawn events (askUpTo limit) (report message (ask p i).2)
      | .error fault => .error fault := by
  have hstep : askUpTo (limit + 1) i = (askOrReport p >>= fun _ => askUpTo limit) i := by
    rw [askUpTo, Action.bind_apply, Action.get_apply]
    simp only [hw]
  rw [drawn_congr hstep, drawn_bind (grows_askOrReport p) fun _ => grows_askUpTo limit, drawn_askOrReport,
    askOrReport_apply]
  rcases drawn_cases events (ask p) i with hdrawn | ⟨fault, hdrawn, -, -, text, -, hplain⟩
  · rw [hdrawn]
    rcases ask p i with ⟨fault | _, i'⟩
    · cases fault <;> rfl
    · rfl
  · rw [hdrawn]
    -- A text does not fail as an answer that is rejected.
    cases Markup.failsAtText_plain text fault hplain <;> rfl

/-- The loop of an interview fails at a console at a text that is not legible, or with a round that fails other than by
a rejection. -/
theorem failure_of_drawn_askUpTo {limit : Nat} {fault : Fault} (h : drawn events (askUpTo limit) i = .error fault) :
    (∃ e ∈ happening events (askUpTo limit) i, ∃ text ∈ e.texts, Markup.plain text = .error fault) ∨
      ((askUpTo limit i).1 = .error fault ∧ fault.isValidation = false) := by
  rcases drawn_cases events (askUpTo limit) i with hown | ⟨fault', hdrawn, htext⟩
  · obtain ⟨rs, j, -, hended⟩ := askUpTo_course (Prod.ext (hown.symm.trans h) rfl : askUpTo limit i = (.error fault, _))
    cases hended with
    | failed _ _ he => exact .inr ⟨hown.symm.trans h, he⟩
  · obtain rfl : fault' = fault := Except.error.inj (hdrawn.symm.trans h)
    exact .inl htext

end Interview

open Terminal (Request reported)
open Interview (ask askUpTo report)

/-- **Texts in dialogs.** Whatever the defaults and the lines are, a request whose texts are legible goes at a console
as at any terminal, and fails only as the lines run out; one with a text that is not legible fails, in the way of such
a text. Texts without an opening bracket are legible, and a legible message is so as it is shown. The loop of an interview
fails at a console at a text that is not legible, or with a round that fails other than by a rejection. After a
rejection it goes on, with the same prompt if that is one of the profile, provided that the report is legible; otherwise
the interview fails with the report. -/
theorem texts_in_dialogs {σ κ : Type} [Source σ κ] :
    (∀ (q : Request) (t : Terminal),
      ((∀ text ∈ q.texts, Legible text) → drawn Terminal.events q.perform t = (q.perform t).1 ∧
        ∀ fault, (q.perform t).1 = .error fault → fault = .foreign .endOfInput ∧ (q.perform t).2.lines = []) ∧
      ((∃ text ∈ q.texts, ¬ Legible text) → ∃ text ∈ q.texts, ∃ fault, Markup.plain text = .error fault ∧
        Markup.Failure fault ∧ drawn Terminal.events q.perform t = .error fault)) ∧
    (∀ text : String, '[' ∉ text.toList → Legible text) ∧
    (∀ message, Legible message → Legible (reported message)) ∧
    ∀ (limit : Nat) (i : Interview σ κ Terminal),
      (∀ fault, drawn Interview.events (askUpTo limit) i = .error fault →
        (∃ e ∈ happening Interview.events (askUpTo limit) i, ∃ text ∈ e.texts, Markup.plain text = .error fault) ∨
        ((askUpTo limit i).1 = .error fault ∧ fault.isValidation = false)) ∧
      ∀ p waiting message invalid, i.task.unanswered = p :: waiting →
        drawn Interview.events (ask p) i = .error (.validation message invalid) →
        (Legible (reported message) → drawn Interview.events (askUpTo (limit + 1)) i =
          drawn Interview.events (askUpTo limit) (report message (ask p i).2)) ∧
        (∀ fault, Markup.plain (reported message) = .error fault →
          drawn Interview.events (askUpTo (limit + 1)) i = .error fault) ∧
        ∀ id d, p = .generic id d → i.task.context.isBound = true →
          (report message (ask p i).2).task.unanswered = p :: waiting := by
  refine ⟨fun q t => ⟨fun h => ?_, fun ⟨text, hmem, hnot⟩ => ?_⟩, fun text => Terminal.legible_of_not_mem,
    fun message => Terminal.legible_reported, fun limit i => ⟨fun fault => Interview.failure_of_drawn_askUpTo,
      fun p waiting message invalid hw hask => ?_⟩⟩
  · have hquiet := Request.quiet h t
    exact ⟨hquiet.drawn_eq, hquiet.runsOut⟩
  · obtain ⟨fault, hdraw⟩ := (Terminal.legible_or_draw q.texts).resolve_left fun h => hnot (h text hmem)
    obtain ⟨text', hmem', hplain⟩ := Terminal.plain_of_draw hdraw
    exact ⟨text', hmem', fault, hplain, Terminal.failure_of_draw hdraw, Request.drawn_of_error hdraw t⟩
  · have hstep := Interview.drawn_askUpTo limit hw
    rw [hask] at hstep
    refine ⟨fun hlegible => ?_, fun fault hfault => ?_, fun id d hp hb => ?_⟩
    · rw [hstep]
      simp only [Terminal.draw_eq_ok.mpr (List.forall_mem_singleton.mpr hlegible)]
      rfl
    · rw [hstep]
      simp only [Terminal.draw_cons, hfault]
      rfl
    · subst hp
      have hround : (ask (.generic id d) i).1 = .error (.validation message invalid) := by
        rcases drawn_cases Interview.events (ask (.generic id d)) i with hown | ⟨fault, hdrawn, -, -, text, -, hplain⟩
        · exact hown.symm.trans hask
        · obtain rfl := Except.error.inj (hdrawn.symm.trans hask)
          cases Markup.failsAtText_plain text _ hplain
      exact (Interview.unanswered_of_ask hb (Prod.ext hround rfl)).trans hw

namespace Shop

open Markup

/-- A caller at a terminal, who enters the first number and then the second one. -/
def caller : Terminal :=
  { lines := ["1", "2"] }

/-- The name of a table that closes a tag ends the color of the report, which then has a closing tag too many. -/
theorem plain_reported : plain (reported "Table does not exist: [/]") = .error (.foreign .badMarkup) := by
  have htags : tagsOf (pieces (reported "Table does not exist: [/]").toList) =
      ["yellow".toList, ['/'], '/' :: "yellow".toList] := by decide +kernel
  have hinner : afterTag [⟨"yellow", none⟩] ['/'] = .ok [] := by rfl
  refine plain_eq_error ?_
  rw [htags, afterTags_cons (isPlainWord_yellow.afterTag_open []), afterTags_cons hinner, afterTags, List.foldlM_cons,
    isPlainWord_yellow.afterTag_slash]
  rfl

end Shop

/-- A table that is missing is reported, and the interview goes on, unless its name closes a tag. A default may do
so. -/
theorem texts_in_dialogs_in_shop :
    ∃ (t u : Task Memory String) (rest rest' : Workspace × Memory),
      Task.start (Task.Shop.setup (some "invoices")) ({}, Task.Shop.memory "") = (.ok t, rest) ∧
      Task.start (Task.Shop.setup (some "[/]")) ({}, Task.Shop.memory "") = (.ok u, rest') ∧
      drawn Interview.events (askUpTo 3) ⟨t, Shop.caller⟩ =
        drawn Interview.events (askUpTo 2)
          (report "Table does not exist: invoices" (ask .database ⟨t, Shop.caller⟩).2) ∧
      drawn Interview.events (askUpTo 3) ⟨u, Shop.caller⟩ = .error (.foreign .badMarkup) ∧
      drawn Terminal.events (Request.perform (.ask (.input "Title?" (some "[/]")))) ⟨[""], []⟩ = .ok (.str "[/]") ∧
      ∃ text ∈ ["orders", "[/]", "Select table"], ∃ fault, Markup.plain text = .error fault ∧
        drawn Terminal.events (Request.perform (.ask (.select "Select table" ["orders", "[/]"]))) ⟨["1"], []⟩ =
          .error fault := by
  obtain ⟨t, u, rest, rest', ht, hu, hwt, hwu, hat, hau⟩ :
      ∃ (t u : Task Memory String) (rest rest' : Workspace × Memory),
        Task.start (Task.Shop.setup (some "invoices")) ({}, Task.Shop.memory "") = (.ok t, rest) ∧
        Task.start (Task.Shop.setup (some "[/]")) ({}, Task.Shop.memory "") = (.ok u, rest') ∧
        t.unanswered = [.database, .generic "title" Task.Shop.title] ∧
        u.unanswered = [.database, .generic "title" Task.Shop.title] ∧
        drawn Interview.events (ask .database) (⟨t, Shop.caller⟩ : Interview Memory String Terminal) =
          .error (.validation "Table does not exist: invoices") ∧
        drawn Interview.events (ask .database) (⟨u, Shop.caller⟩ : Interview Memory String Terminal) =
          .error (.validation "Table does not exist: [/]") :=
    ⟨_, _, _, _, rfl, rfl, rfl, rfl, rfl, rfl⟩
  obtain ⟨hrequests, hlegible, hreported, hinterviews⟩ := texts_in_dialogs (σ := Memory) (κ := String)
  have hmissing := ((hinterviews 2 ⟨t, Shop.caller⟩).2 _ _ _ _ hwt hat).1 (hreported _ (hlegible _ (by decide)))
  have hcloses := ((hinterviews 2 ⟨u, Shop.caller⟩).2 _ _ _ _ hwu hau).2.1 _ Shop.plain_reported
  have hdefault := ((hrequests (.ask (.input "Title?" (some "[/]"))) ⟨[""], []⟩).1
    (List.forall_mem_singleton.mpr (hlegible _ (by decide)))).1
  obtain ⟨text, hmem, fault, hplain, -, hdrawn⟩ :=
    (hrequests (.ask (.select "Select table" ["orders", "[/]"])) ⟨["1"], []⟩).2 ⟨"[/]", by decide, nofun⟩
  exact ⟨t, u, rest, rest', ht, hu, hmissing, hcloses, hdefault, text, hmem, fault, hplain, hdrawn⟩

/-- A text that closes a tag where none is open ends a dialog, as a prompt, as a choice and in a message. -/
theorem closing_tag_ends_dialogs :
    Terminal.input "Root directory [/]" none ⟨["/srv"], []⟩ = (.error (.foreign .badMarkup), ⟨["/srv"], []⟩) ∧
      Terminal.confirm "Write to [/]?" (some false) ⟨["y"], []⟩ = (.error (.foreign .badMarkup), ⟨["y"], []⟩) ∧
      drawn Terminal.events (Request.perform (.ask (.select "Root directory" ["/srv", "[/]"]))) ⟨["1"], []⟩ =
        .error (.foreign .badMarkup) ∧
      drawn Terminal.events (Request.perform (.notify "Table does not exist: [/]")) ⟨[], []⟩ =
        .error (.foreign .badMarkup) := by
  refine ⟨by rfl, by rfl, by rfl, Request.drawn_of_error ?_ _⟩
  rw [Request.texts, Terminal.draw_cons, Shop.plain_reported]
  rfl

end Stencil.Dialog
