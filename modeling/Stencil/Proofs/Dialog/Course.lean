import Stencil.Proofs.Dialog.Rounds
import Stencil.Proofs.Task.Queue

namespace Stencil.Dialog.Interview

/-!
# The course of an interview

A round is accepted, or its answer is rejected and the rejection is reported; any other failure ends the interview. So
an interview is a course of rounds, each for the prompt that is next. What one round does to the queue of the task holds
along every course.

* `Round`, `Course` — the rounds of an interview, with their outcomes;
* `Ended`, `askUpTo_course` — the loop goes through a course, and it stops where this says;
* `askUpTo_of_le` — a loop that has come to its end does not depend on the number of rounds that it may take;
* `Asked.advanced` — what a round does to the queue;
* `preset_queued`, `Course.queued`, `Course.isAnswered` — the queue after the preset answers and along a course.
-/

variable {σ κ α : Type} {t t' : Task σ κ} {p : TaskPrompt} {name : String} {profile : Profile}

open Stencil.Task (Queued Advanced)

/-- A round: the prompt that was next, and whether its answer was rejected. -/
structure Round where
  prompt : TaskPrompt
  rejected : Bool

variable [Source σ κ]

/-! ### What a round does to the queue -/

section

variable {r : Except Fault Unit}

/-- A round for the prompt that is next keeps the queue in order, and moves it on. -/
theorem Asked.advanced (ha : Asked t p r t') (h : Queued name profile t) (hw : t.unanswered.head? = some p) :
    Queued name profile t' ∧ Advanced profile t t' := by
  cases ha with
  | @failed _ _ s => exact ⟨h.with_source s, .kept rfl fun _ => id⟩
  | @answered _ v s _ _ _ hp =>
    -- The queue is the same before the call, which starts from another state of the source.
    have hturn : (Task.Call.answer p v).InTurn { t with source := s } := .inr hw
    obtain rfl := (congrArg Prod.snd hp).symm
    refine ⟨(h.with_source s).perform hturn, ?_⟩
    cases (h.with_source s).advanced hturn with
    | kept hprompts hanswered => exact .kept hprompts hanswered
    | dropped hprompts hprompts' hd ht hanswers => exact .dropped hprompts hprompts' hd ht hanswers
  | @passed id d _ _ _ hp =>
    have hturn : (Task.Call.skip (.generic id d)).InTurn t := .inl rfl
    obtain rfl := (congrArg Prod.snd hp).symm
    exact ⟨h.perform hturn, h.advanced hturn⟩

/-- A round that is accepted leaves the list as it is. -/
theorem Asked.prompts_of_ok (ha : Asked t p (.ok ()) t') : t'.prompts = t.prompts := by
  cases ha with
  | @answered _ v s _ _ _ hp =>
    obtain rfl := (congrArg Prod.snd hp).symm
    exact Task.Call.prompts_of_ok (congrArg Prod.fst hp)
  | passed _ hp =>
    obtain rfl := (congrArg Prod.snd hp).symm
    exact Task.Call.prompts_of_ok (congrArg Prod.fst hp)

/-- After a round that is accepted, the prompt has its answer. -/
theorem Asked.isAnswered_of_ok (ha : Asked t p (.ok ()) t') (hp : p ≠ .database) : t'.isAnswered p = true := by
  cases ha with
  | @answered _ v s _ _ _ hcall =>
    obtain rfl := (congrArg Prod.snd hcall).symm
    exact Task.Call.isAnswered_of_ok (c := .answer p v) (congrArg Prod.fst hcall) hp
  | @passed id d _ _ _ hcall =>
    obtain rfl := (congrArg Prod.snd hcall).symm
    exact Task.Call.isAnswered_of_ok (c := .skip (.generic id d)) (congrArg Prod.fst hcall) hp

end

/-- Preset answers keep the queue in order. -/
theorem preset_queued {presets : OrderedMap Value} {i i' : Interview σ κ α} (h : preset presets i = (.ok (), i'))
    (hq : Queued name profile i.task) : Queued name profile i'.task := by
  induction presets generalizing i with
  | nil =>
    cases h
    exact hq
  | cons e presets ih =>
    obtain ⟨id, v⟩ := e
    obtain ⟨d, t, -, hanswer, h⟩ := preset_cons h
    obtain rfl := (congrArg Prod.snd hanswer).symm
    exact ih h (hq.perform (.inl rfl))

/-! ### Courses -/

variable [Asker α] {i₀ i j : Interview σ κ α} {rs more : List Round}

/-- The rounds of an interview, each for the prompt that is next, with their outcomes. A rejection is reported. -/
inductive Course (i₀ : Interview σ κ α) : List Round → Interview σ κ α → Prop where
  | start : Course i₀ [] i₀
  | accepted {rs p i i'} (h : Course i₀ rs i) (hw : i.task.unanswered.head? = some p) (ha : ask p i = (.ok (), i')) :
      Course i₀ (rs ++ [⟨p, false⟩]) i'
  | rejected {rs p i i' message invalid} (h : Course i₀ rs i) (hw : i.task.unanswered.head? = some p)
      (ha : ask p i = (.error (.validation message invalid), i')) :
      Course i₀ (rs ++ [⟨p, true⟩]) { i' with asker := Asker.notify message i'.asker }

theorem Course.append (h : Course i₀ rs i) (hm : Course i more j) : Course i₀ (rs ++ more) j := by
  induction hm with
  | start => rwa [List.append_nil]
  | accepted _ hw ha ih => exact List.append_assoc _ _ _ ▸ ih.accepted hw ha
  | rejected _ hw ha ih => exact List.append_assoc _ _ _ ▸ ih.rejected hw ha

/-- A course is made of rounds. -/
theorem Course.rounds (h : Course i₀ rs i) : Rounds i₀ (rs.map Round.prompt) i := by
  induction h with
  | start => exact .none
  | @accepted rs p i i' _ hw ha ih =>
    obtain ⟨waiting, hw⟩ := List.head?_eq_some_iff.mp hw
    rw [List.map_append]
    exact ih.more hw (askOrReport_of_ok ha)
  | @rejected rs p i i' message invalid _ hw ha ih =>
    obtain ⟨waiting, hw⟩ := List.head?_eq_some_iff.mp hw
    rw [List.map_append]
    exact ih.more hw (askOrReport_of_validation ha)

/-! ### The loop -/

/-- Where a loop stops that has gone through some rounds: no prompt waits, or it may take no more rounds, or the round
for the prompt that is next fails other than by a rejection. -/
inductive Ended (limit : Nat) (rs : List Round) (j : Interview σ κ α) : Except Fault Bool → Interview σ κ α → Prop where
  | done (hw : j.task.unanswered = []) (hl : rs.length ≤ limit) : Ended limit rs j (.ok true) j
  | cut (hw : j.task.unanswered ≠ []) (hl : rs.length = limit) : Ended limit rs j (.ok false) j
  | failed {p e j'} (hw : j.task.unanswered.head? = some p) (ha : ask p j = (.error e, j'))
      (he : e.isValidation = false) (hl : rs.length < limit) : Ended limit rs j (.error e) j'

/-- One more round comes before all others. -/
theorem Ended.cons {limit : Nat} {r : Except Fault Bool} {i' : Interview σ κ α} (h : Ended limit rs j r i')
    (round : Round) : Ended (limit + 1) (round :: rs) j r i' := by
  cases h with
  | done hw hl => exact .done hw (Nat.succ_le_succ hl)
  | cut hw hl => exact .cut hw (congrArg Nat.succ hl)
  | failed hw ha he hl => exact .failed hw ha he (Nat.succ_lt_succ hl)

/-- What the loop does in one step. -/
theorem askUpTo_succ {limit : Nat} {waiting : List TaskPrompt} (hw : i.task.unanswered = p :: waiting) :
    askUpTo (limit + 1) i = match ask p i with
      | (.ok (), i') => askUpTo limit i'
      | (.error (.validation message _), i') => askUpTo limit { i' with asker := Asker.notify message i'.asker }
      | (.error e, i') => (.error e, i') := by
  rw [askUpTo, Action.bind_apply, Action.get_apply]
  simp only [hw]
  rw [Action.bind_apply, askOrReport, Action.tryCatch_apply]
  rcases ask p i with ⟨e | _, i'⟩
  · cases e <;> rfl
  · rfl

theorem askUpTo_of_nil (limit : Nat) (hw : i.task.unanswered = []) : askUpTo limit i = (.ok true, i) := by
  cases limit with
  | zero => simp [askUpTo, Action.map_apply, hw, Except.map]
  | succ limit =>
    rw [askUpTo, Action.bind_apply, Action.get_apply]
    simp only [hw]
    rfl

/-- The loop goes through a course and stops where this says. -/
theorem askUpTo_course {limit : Nat} {r : Except Fault Bool} {i' : Interview σ κ α} (h : askUpTo limit i = (r, i')) :
    ∃ rs j, Course i rs j ∧ Ended limit rs j r i' := by
  induction limit generalizing i with
  | zero =>
    obtain ⟨rfl, rfl⟩ := Prod.mk.inj h
    refine ⟨[], i, .start, ?_⟩
    cases hw : i.task.unanswered with
    | nil => exact .done hw (Nat.zero_le _)
    | cons p waiting => exact .cut (by simp [hw]) rfl
  | succ limit ih =>
    cases hw : i.task.unanswered with
    | nil =>
      rw [askUpTo_of_nil _ hw] at h
      cases h
      exact ⟨[], _, .start, .done hw (Nat.zero_le _)⟩
    | cons p waiting =>
      have hhead : i.task.unanswered.head? = some p := by rw [hw, List.head?_cons]
      rw [askUpTo_succ hw] at h
      -- The first round comes before the course of the rest, unless the loop ends with it.
      rcases hask : ask p i with ⟨e | _, i₁⟩ <;> rw [hask] at h
      · cases e with
        | validation message invalid =>
          obtain ⟨rs, j, hcourse, hended⟩ := ih h
          exact ⟨_, j, (Course.start.rejected hhead hask).append hcourse, hended.cons _⟩
        | _ =>
          cases h
          exact ⟨[], _, .start, .failed hhead hask rfl (Nat.succ_pos _)⟩
      · obtain ⟨rs, j, hcourse, hended⟩ := ih h
        exact ⟨_, j, (Course.start.accepted hhead hask).append hcourse, hended.cons _⟩

/-- A loop that has come to its end does not depend on the number of rounds that it may take. -/
theorem askUpTo_of_le {limit limit' : Nat} {r : Except Fault Bool} {i' : Interview σ κ α}
    (h : askUpTo limit i = (r, i')) (hr : r ≠ .ok false) (hl : limit ≤ limit') : askUpTo limit' i = (r, i') := by
  -- A loop that may take more rounds takes the same ones: each step leaves the same rest to both.
  induction limit generalizing i limit' with
  | zero =>
    obtain ⟨rfl, rfl⟩ := Prod.mk.inj h
    cases hw : i.task.unanswered with
    | nil => exact askUpTo_of_nil limit' hw
    | cons p waiting => exact absurd (by simp [hw]) hr
  | succ limit ih =>
    obtain ⟨more, rfl⟩ := Nat.exists_eq_add_of_le' hl
    cases hw : i.task.unanswered with
    | nil => rwa [askUpTo_of_nil _ hw] at h ⊢
    | cons p waiting =>
      rw [← Nat.add_assoc, askUpTo_succ hw]
      rw [askUpTo_succ hw] at h
      have hle : limit ≤ more + limit := Nat.le_add_left _ _
      rcases hask : ask p i with ⟨e | _, i₁⟩ <;> rw [hask] at h
      · cases e with
        | validation message invalid => exact ih h hle
        | _ => exact h
      · exact ih h hle

/-! ### One round -/

/-- Whenever the database is asked for, a name is chosen that is not empty. -/
def NamesDatabase (i : Interview σ κ α) : Prop :=
  i.task.unanswered.head? = some .database → ∀ choices s v a,
    Source.listDatabases i.task.connection i.task.source = (.ok choices, s) →
    Asker.select "Select database" choices i.asker = (.ok v, a) → v.text ≠ ""

section

variable {i' : Interview σ κ α} {r : Except Fault Unit}

/-- A round for the database is rejected and the list stays, or the database has a name afterwards. -/
theorem ask_database_cases (hbinds : Source.BindsNamed σ) (hn : NamesDatabase i)
    (hw : i.task.unanswered.head? = some .database) (h : ask .database i = (r, i')) :
    (r ≠ .ok () ∧ i'.task.prompts = i.task.prompts) ∨ i'.task.databaseName ≠ "" := by
  rcases askName_cases h with ⟨e, rfl, htask⟩ | ⟨choices, s, v, a, hlist, hselect, hanswer⟩
  · rw [htask]
    exact .inl ⟨by simp, rfl⟩
  · rcases Task.Call.kept_or_bound v hanswer with hkept | ⟨s', hb⟩
    · exact .inl hkept
    · exact .inr (hbinds _ _ _ _ _ (hn hw choices s v a hlist hselect) hb)

/-- After a round that is accepted, the prompt has its answer. -/
theorem isAnswered_of_ask (hbinds : Source.BindsNamed σ) (hn : NamesDatabase i)
    (hw : i.task.unanswered.head? = some p) (h : ask p i = (.ok (), i')) : i'.task.isAnswered p = true := by
  by_cases hp : p = .database
  · subst hp
    exact Task.isAnswered_database.mpr ((ask_database_cases hbinds hn hw h).resolve_left fun hno => hno.1 rfl)
  · exact (ask_asked h).isAnswered_of_ok hp

/-- After a round that is accepted, fewer prompts wait. -/
theorem length_lt_of_ask (hbinds : Source.BindsNamed σ) (hn : NamesDatabase i) (hq : Queued name profile i.task)
    (hw : i.task.unanswered.head? = some p) (h : ask p i = (.ok (), i')) :
    i'.task.unanswered.length < i.task.unanswered.length := by
  have hasked := ask_asked h
  exact (hasked.advanced hq hw).2.length_lt hasked.prompts_of_ok (List.mem_of_head? hw)
    (isAnswered_of_ask hbinds hn hw h)

/-- Whatever comes of a round, no more prompts wait. -/
theorem length_le_of_ask (hbinds : Source.BindsNamed σ) (hn : NamesDatabase i) (hq : Queued name profile i.task)
    (hw : i.task.unanswered.head? = some p) (h : ask p i = (r, i')) :
    i'.task.unanswered.length ≤ i.task.unanswered.length := by
  have hmove := ((ask_asked h).advanced hq hw).2
  refine hmove.length_le fun hp => ?_
  cases hmove with
  | kept hkept => exact absurd hkept hp
  | dropped _ _ hd =>
    -- The list changes only in a round for the database.
    obtain rfl : TaskPrompt.database = p := Option.some.inj ((hq.head_of_unbound hd).symm.trans hw)
    exact (ask_database_cases hbinds hn hw h).resolve_left fun hno => hp hno.2

end

/-! ### The queue along a course -/

/-- The queue stays in order along a course. -/
theorem Course.queued (hc : Course i₀ rs i) (h : Queued name profile i₀.task) : Queued name profile i.task := by
  induction hc with
  | start => exact h
  | accepted _ hw ha ih => exact ((ask_asked ha).advanced ih hw).1
  | rejected _ hw ha ih => exact ((ask_asked ha).advanced ih hw).1

/-- A prompt on the list that has its answer keeps both along a course. -/
theorem Course.isAnswered (hc : Course i₀ rs i) (h : Queued name profile i₀.task) (hp : p ∈ i₀.task.prompts)
    (ha : i₀.task.isAnswered p = true) : p ∈ i.task.prompts ∧ i.task.isAnswered p = true := by
  induction hc with
  | start => exact ⟨hp, ha⟩
  | accepted hc hw hask ih | rejected hc hw hask ih =>
    exact ((ask_asked hask).advanced (hc.queued h) hw).2.isAnswered ih.1 ih.2

/-- A prompt that has its answer is not the next one any more. -/
theorem Course.prompt_ne (hc : Course i₀ rs i) (h : Queued name profile i₀.task) (hp : p ∈ i₀.task.prompts)
    (ha : i₀.task.isAnswered p = true) : ∀ round ∈ rs, round.prompt ≠ p := by
  -- Every prompt of a course has been the next one at some moment of it, which this prompt never is.
  have hnext : ∀ {rs i}, Course i₀ rs i → i.task.unanswered.head? ≠ some p := fun hc hw => by
    have hopen := Task.isAnswered_of_head hw
    rw [(hc.isAnswered h hp ha).2] at hopen
    cases hopen
  induction hc with
  | start => simp
  | accepted hc hw _ ih | rejected hc hw _ ih =>
    intro round hround
    rcases List.mem_append.mp hround with hround | hround
    · exact ih round hround
    · obtain rfl := List.mem_singleton.mp hround
      rintro rfl
      exact hnext hc hw

end Stencil.Dialog.Interview
