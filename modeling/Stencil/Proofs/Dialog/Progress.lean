import Stencil.Proofs.Dialog.Course
import Stencil.Proofs.Dialog.Interview

namespace Stencil.Dialog.Interview

/-!
# Interviews go through their prompts

The dialogs of an interview follow the list of prompts: first the database is asked for, then the table, then what the
profile asks, in its order. A rejected answer of the profile is asked for again at once, and a prompt with an answer is
never asked again. When the profile asks, the context is bound, so that its templates see the schema.

Each round that is accepted answers its prompt for good, and no round makes more prompts wait: where the prompt for the
table comes onto the list, that for the database has just been answered. So the prompts that wait, and the answers that
are rejected, pay for all rounds.

* `Renders` — the moments of a round at which templates of its prompt are rendered;
* `Course.inOrder`, `Course.isBound` — the rounds follow the list, and the context is bound when the profile asks;
* `turns_in_order` — all this, along the loop of every interview;
* `Course.length_unanswered_le`, `Course.length_le` — how many rounds a course has;
* `Course.answered` — a prompt whose answer was accepted has an answer from then on;
* `rounds_bounded` — a loop ends if only so many answers are rejected.
-/

open Stencil.Task (Queued InOrder Sound start_started)

/-! ### Whose turn it is -/

section Turns

variable {σ κ α : Type} [Asker α] {known : σ → Prop} {name : String} {profile : Profile}
  {i₀ i i' j : Interview σ κ α} {rs : List Round} {id : String} {d : PromptDefinition} {e : Fault}

/-- The moments of a round for a prompt of the profile at which its templates are rendered: the start, and for a prompt
with items the moment at which all items before one have been asked. -/
inductive Renders (d : PromptDefinition) (i : Interview σ κ α) : Interview σ κ α → Prop where
  | start : Renders d i i
  | item {before item since answers j} (hi : i.task.enumerate d = .ok (before ++ item :: since))
      (ha : askItems d before [] i = (.ok answers, j)) : Renders d i j

theorem Renders.task_eq (h : Renders d i j) : j.task = i.task := by
  cases h with
  | start => rfl
  | item _ ha => exact (askItems_task ha).1

variable [Source σ κ]

/-- A round of the profile that fails while the context is bound leaves the queue as it is. -/
theorem unanswered_of_ask (hb : i.task.context.isBound = true) (h : ask (.generic id d) i = (.error e, i')) :
    i'.task.unanswered = i.task.unanswered := by
  rcases i' with ⟨t', asker⟩
  cases ask_asked h with
  | failed => rfl
  | @answered _ v s _ _ _ hp =>
    obtain rfl := Task.Call.perform_of_bound (t := { i.task with source := s }) hb rfl hp
    rfl
  | passed _ hp =>
    obtain rfl := Task.Call.perform_of_bound hb rfl hp
    rfl

/-- The rounds of a course follow the list of prompts. -/
theorem Course.inOrder (hc : Course i₀ rs i) (h : Queued name profile i₀.task) :
    InOrder i.task (rs.map Round.prompt) := by
  induction hc with
  | start => exact ⟨by simp, .nil⟩
  | accepted hc hw ha ih | rejected hc hw ha ih =>
    rw [List.map_append]
    exact ((ask_asked ha).advanced (hc.queued h) hw).2.inOrder (ih.next hw)

/-- When the profile asks, the context is bound. -/
theorem Course.isBound (hagree : Source.Agreeing known) (hc : Course i₀ rs i) (h : Queued name profile i₀.task)
    (hs : Sound known profile i₀.task) (hw : i.task.unanswered.head? = some (.generic id d)) :
    i.task.context.isBound = true :=
  (hc.queued h).isBound (hc.rounds.sound hagree hs).1.settled hw rfl

/-- **Dialogs come in turn.** The loop of an interview with a new task goes through a course of rounds. At every moment
of every course, the prompts that have been asked, and the one that is next, have places on the list that do not
decrease: the database comes first, then the table, then the profile in its order. A prompt with an answer is never
asked again, and a round that is accepted leaves its prompt with an answer, as long as a database is only given by a
name. When the profile asks, templates are rendered while the context is bound, and if the round is rejected, the same
prompt is next. -/
theorem turns_in_order (hagree : Source.Agreeing known) (hbinds : Source.BindsNamed σ) {s : Task.Setup} {w : Workspace}
    {source : σ} (hs : known source) {rest : Workspace × σ} {t : Task σ κ}
    (ht : Task.start s (w, source) = (.ok t, rest)) {presets : OrderedMap Value} {asker : α} {i₁ : Interview σ κ α}
    (hpreset : preset presets ⟨t, asker⟩ = (.ok (), i₁)) :
    (∀ limit r i', askUpTo limit i₁ = (r, i') → ∃ rs j, Course i₁ rs j ∧ Ended limit rs j r i') ∧
    ∀ rs i, Course i₁ rs i →
      (i.task.prompts = Task.databasePrompts t.databaseName ++ s.profile.taskPrompts ∨
        i.task.prompts = Task.databasePrompts t.databaseName ++ .table :: s.profile.taskPrompts) ∧
      (rs.map Round.prompt ++ i.task.unanswered.take 1).Pairwise (fun p q => i.task.place p ≤ i.task.place q) ∧
      (∀ p ∈ i.task.prompts, i.task.isAnswered p = true → ∀ more j, Course i more j →
        p ∉ j.task.unanswered ∧ ∀ round ∈ more, round.prompt ≠ p) ∧
      (∀ p i', i.task.unanswered.head? = some p → NamesDatabase i → ask p i = (.ok (), i') →
        p ∈ i'.task.prompts ∧ i'.task.isAnswered p = true) ∧
      ∀ id d, i.task.unanswered.head? = some (.generic id d) →
        (∀ j, Renders d i j → j.task.context.isBound = true) ∧
        ∀ message invalid i', ask (.generic id d) i = (.error (.validation message invalid), i') →
          i'.task.unanswered.head? = some (.generic id d) := by
  have hstarted := start_started ht
  have hq₁ := preset_queued hpreset hstarted.queued
  have hsound₁ := (preset_sound hagree hpreset (hstarted.sound hagree.toKeeps hs)).1
  refine ⟨fun limit r i' h => askUpTo_course h, fun rs i hc => ?_⟩
  -- The start queues the prompts, and every moment of a course finds them in order.
  have hq := hc.queued hq₁
  have horder := hc.inOrder hq₁
  refine ⟨hq.prompts, ?_, fun p hp ha more j hm => ⟨fun hopen => ?_, hm.prompt_ne hq hp ha⟩,
    fun p i' hw hn ha => ⟨?_, isAnswered_of_ask hbinds hn hw ha⟩, fun id d hw => ?_⟩
  · cases hw : i.task.unanswered with
    | nil => simpa using horder.places
    | cons p waiting => exact (horder.next (by rw [hw, List.head?_cons])).places
  · cases (hm.isAnswered hq hp ha).2.symm.trans (Task.mem_unanswered.mp hopen).2
  · exact (ask_asked ha).prompts_of_ok ▸ (Task.mem_unanswered.mp (List.mem_of_head? hw)).1
  · have hb := hc.isBound hagree hq₁ hsound₁ hw
    refine ⟨fun j hj => hj.task_eq ▸ hb, fun message invalid i' ha => ?_⟩
    rw [unanswered_of_ask hb ha]
    exact hw

namespace Shop

/-- A caller who names the shop and then one of its tables. -/
def caller : Replay :=
  { responses := [.str "shop", .str "orders"] }

end Shop

theorem turns_in_order_in_shop :
    ∃ (t : Task Memory String) (rest : Workspace × Memory) (i₁ i : Interview Memory String Replay),
      Task.start (Task.Shop.setup (some "invoices")) ({}, Task.Shop.memory "") = (.ok t, rest) ∧
      preset [] ⟨t, Shop.caller⟩ = (.ok (), i₁) ∧
      i₁.task.prompts = [.database, .generic "title" Task.Shop.title] ∧
      Course i₁ [⟨.database, true⟩, ⟨.table, false⟩] i ∧ i.task.unanswered = [.generic "title" Task.Shop.title] ∧
      [.database, .table, .generic "title" Task.Shop.title].Pairwise (fun p q => i.task.place p ≤ i.task.place q) ∧
      ∀ j, Renders Task.Shop.title i j → j.task.context.isBound = true := by
  obtain ⟨t, rest, i₁, i₂, message, invalid, i₃, h, hpreset, hprompts, hw₁, ha₁, hw₂, ha₂, hw₃⟩ :
      ∃ (t : Task Memory String) (rest : Workspace × Memory) (i₁ i₂ : Interview Memory String Replay)
        (message : String) (invalid : Option (List (String × String))) (i₃ : Interview Memory String Replay),
        Task.start (Task.Shop.setup (some "invoices")) ({}, Task.Shop.memory "") = (.ok t, rest) ∧
        preset [] ⟨t, Shop.caller⟩ = (.ok (), i₁) ∧
        i₁.task.prompts = [.database, .generic "title" Task.Shop.title] ∧
        i₁.task.unanswered.head? = some .database ∧ ask .database i₁ = (.error (.validation message invalid), i₂) ∧
        i₂.task.unanswered.head? = some .table ∧
        ask .table { i₂ with asker := Asker.notify message i₂.asker } = (.ok (), i₃) ∧
        i₃.task.unanswered = [.generic "title" Task.Shop.title] :=
    ⟨_, _, _, _, _, _, _, rfl, rfl, rfl, rfl, rfl, rfl, rfl, rfl⟩
  have hcourse := (Course.start.rejected hw₁ ha₁).accepted hw₂ ha₂
  have hturns := turns_in_order (Memory.agreeing [("shop", Task.Shop.schema)]) Memory.bindsNamed rfl h hpreset
  obtain ⟨-, hplaces, -, -, hprofile⟩ := hturns.2 _ _ hcourse
  rw [hw₃] at hplaces
  exact ⟨t, rest, i₁, i₃, h, hpreset, hprompts, hcourse, hw₃, hplaces,
    (hprofile "title" Task.Shop.title (by rw [hw₃, List.head?_cons])).1⟩

end Turns

/-! ### How many rounds there are -/

variable {σ κ α : Type} [Source σ κ] [Asker α] {name : String} {profile : Profile} {i₀ i j : Interview σ κ α}
  {rs more : List Round}

section

-- Along the interview, the database is only ever given a name, and it has one then.
variable (hbinds : Source.BindsNamed σ) (hn : ∀ rs i, Course i₀ rs i → NamesDatabase i)
  (h : Queued name profile i₀.task)

include hbinds hn h

/-- No more prompts wait along a course. -/
theorem Course.length_unanswered_le (hc : Course i₀ rs i) :
    i.task.unanswered.length ≤ i₀.task.unanswered.length := by
  induction hc with
  | start => exact Nat.le_refl _
  | accepted hc hw ha ih | rejected hc hw ha ih =>
    exact (length_le_of_ask hbinds (hn _ _ hc) (hc.queued h) hw ha).trans ih

/-- A course has no more rounds than there were rejections in it and prompts that have been answered. -/
theorem Course.length_le (hc : Course i₀ rs i) :
    rs.length + i.task.unanswered.length ≤ rs.countP Round.rejected + i₀.task.unanswered.length := by
  induction hc with
  | start => simp
  | accepted hc hw ha ih =>
    have hless := length_lt_of_ask hbinds (hn _ _ hc) (hc.queued h) hw ha
    simp only [List.length_append, List.length_singleton, List.countP_append, List.countP_singleton]
    omega
  | rejected hc hw ha ih =>
    have hle := length_le_of_ask hbinds (hn _ _ hc) (hc.queued h) hw ha
    simp only [List.length_append, List.length_singleton, List.countP_append, List.countP_singleton, if_true]
    omega

/-- A prompt whose answer was accepted in a course has an answer afterwards. -/
theorem Course.answered (hc : Course i₀ rs i) :
    ∀ round ∈ rs, round.rejected = false → round.prompt ∈ i.task.prompts ∧ i.task.isAnswered round.prompt = true := by
  -- An answer that an earlier round has taken is kept by every round that follows, also by one that is rejected.
  induction hc with
  | start => simp
  | @accepted rs p i i' hc hw ha ih =>
    have hasked := ask_asked ha
    intro round hround hrejected
    rcases List.mem_append.mp hround with hround | hround
    · obtain ⟨hp, hanswered⟩ := ih round hround hrejected
      exact (hasked.advanced (hc.queued h) hw).2.isAnswered hp hanswered
    · obtain rfl := List.mem_singleton.mp hround
      have hmem : p ∈ i.task.prompts := (Task.mem_unanswered.mp (List.mem_of_head? hw)).1
      exact ⟨hasked.prompts_of_ok ▸ hmem, isAnswered_of_ask hbinds (hn _ _ hc) hw ha⟩
  | @rejected rs p i i' _ _ hc hw ha ih =>
    intro round hround hrejected
    rcases List.mem_append.mp hround with hround | hround
    · obtain ⟨hp, hanswered⟩ := ih round hround hrejected
      exact ((ask_asked ha).advanced (hc.queued h) hw).2.isAnswered hp hanswered
    · obtain rfl := List.mem_singleton.mp hround
      cases hrejected

/-- If only so many answers are rejected, the loop ends within so many rounds more than prompts wait. -/
theorem askUpTo_ends {rejections : Nat}
    (hr : ∀ rs i, Course i₀ rs i → rs.countP Round.rejected ≤ rejections) :
    ∃ r i', r ≠ .ok false ∧
      ∀ limit, rejections + i₀.task.unanswered.length ≤ limit → askUpTo limit i₀ = (r, i') := by
  rcases hrun : askUpTo (rejections + i₀.task.unanswered.length) i₀ with ⟨r, i'⟩
  obtain ⟨rs, j, hc, hended⟩ := askUpTo_course hrun
  have hends : r ≠ .ok false := by
    rintro rfl
    cases hended with
    | cut hw hl =>
      -- That many rounds have answered all prompts that waited.
      have hle := hc.length_le hbinds hn h
      have hpos := List.length_pos_of_ne_nil hw
      have hcount := hr _ _ hc
      omega
  exact ⟨r, i', hends, fun limit hl => askUpTo_of_le hrun hends hl⟩

end

/-- **Interviews come to an end.** Take an interview with a new task, after the preset answers, in which the database is
only ever given a name. Its loop goes through a course of rounds. Along every course, no round makes more prompts wait,
and a prompt whose answer is accepted does not wait again; so a course has no more rounds than there were rejections in
it and prompts that waited at the start. If only so many answers are rejected, the loop ends within that many rounds, in
the same way however many it may take. -/
theorem rounds_bounded (hbinds : Source.BindsNamed σ) {s : Task.Setup} {w : Workspace} {source : σ}
    {rest : Workspace × σ} {t : Task σ κ} (ht : Task.start s (w, source) = (.ok t, rest)) {presets : OrderedMap Value}
    {asker : α} {i₁ : Interview σ κ α} (hpreset : preset presets ⟨t, asker⟩ = (.ok (), i₁))
    (hn : ∀ rs i, Course i₁ rs i → NamesDatabase i) :
    (∀ limit r i', askUpTo limit i₁ = (r, i') → ∃ rs j, Course i₁ rs j ∧ Ended limit rs j r i') ∧
    (∀ rs i, Course i₁ rs i →
      rs.length + i.task.unanswered.length ≤ rs.countP Round.rejected + i₁.task.unanswered.length ∧
      ∀ more j, Course i more j → j.task.unanswered.length ≤ i.task.unanswered.length ∧
        ∀ round ∈ more, round.rejected = false → round.prompt ∉ j.task.unanswered) ∧
    ∀ rejections, (∀ rs i, Course i₁ rs i → rs.countP Round.rejected ≤ rejections) →
      ∃ r i', r ≠ .ok false ∧
        ∀ limit, rejections + i₁.task.unanswered.length ≤ limit → askUpTo limit i₁ = (r, i') := by
  have hq := preset_queued hpreset (Task.start_started ht).queued
  refine ⟨fun limit r i' h => askUpTo_course h, fun rs i hc => ⟨hc.length_le hbinds hn hq, fun more j hm => ?_⟩,
    fun rejections hr => askUpTo_ends hbinds hn hq hr⟩
  -- What follows a moment of the course is a course as well, so the lemmas apply to it.
  have hn' : ∀ rs' j, Course i rs' j → NamesDatabase j := fun rs' j hc' => hn _ _ (hc.append hc')
  refine ⟨hm.length_unanswered_le hbinds hn' (hc.queued hq), fun round hround hrejected hopen => ?_⟩
  obtain ⟨-, hanswered⟩ := hm.answered hbinds hn' (hc.queued hq) round hround hrejected
  cases hanswered.symm.trans (Task.mem_unanswered.mp hopen).2

/-- If the first answer names the database, the database is not asked for again. -/
theorem Course.namesDatabase {i₁ : Interview σ κ α} (hc : Course i₀ rs i) (h : Queued name profile i₀.task)
    (hn : NamesDatabase i₀) (hw : i₀.task.unanswered.head? = some .database) (ha : ask .database i₀ = (.ok (), i₁))
    (hd : i₁.task.isAnswered .database = true) : NamesDatabase i := by
  have hmem : TaskPrompt.database ∈ i₀.task.prompts := (Task.mem_unanswered.mp (List.mem_of_head? hw)).1
  -- Either nothing has happened yet, or the database has its answer, which no round takes back.
  have hcases : i = i₀ ∨ (TaskPrompt.database ∈ i.task.prompts ∧ i.task.isAnswered .database = true) := by
    induction hc with
    | start => exact .inl rfl
    | @accepted rs p i i' hc hw' ha' ih =>
      rcases ih with rfl | ⟨hp, hanswered⟩
      · obtain rfl : TaskPrompt.database = p := Option.some.inj (hw.symm.trans hw')
        obtain rfl : i₁ = i' := congrArg Prod.snd (ha.symm.trans ha')
        exact .inr ⟨(ask_asked ha).prompts_of_ok ▸ hmem, hd⟩
      · exact .inr (((ask_asked ha').advanced (hc.queued h) hw').2.isAnswered hp hanswered)
    | @rejected rs p i i' _ _ hc hw' ha' ih =>
      rcases ih with rfl | ⟨hp, hanswered⟩
      · obtain rfl : TaskPrompt.database = p := Option.some.inj (hw.symm.trans hw')
        cases ha.symm.trans ha'
      · exact .inr (((ask_asked ha').advanced (hc.queued h) hw').2.isAnswered hp hanswered)
  rcases hcases with rfl | ⟨-, hanswered⟩
  · exact hn
  · intro hnext
    rw [Task.isAnswered_of_head hnext] at hanswered
    cases hanswered

theorem rounds_bounded_in_shop :
    ∃ (t : Task Memory String) (rest : Workspace × Memory) (i₁ i : Interview Memory String Replay),
      Task.start (Task.Shop.setup none) ({}, Task.Shop.memory "") = (.ok t, rest) ∧
      preset [("title", .str "Orders")] ⟨t, Shop.asker⟩ = (.ok (), i₁) ∧
      Course i₁ [⟨.database, false⟩, ⟨.table, true⟩, ⟨.table, false⟩] i ∧ 3 + i.task.unanswered.length ≤ 1 + 2 := by
  obtain ⟨t, rest, i₁, i₂, i₃, message, invalid, i₅, h, hpreset, hasker, hw₁, ha₁, hd, hw₂, ha₂, hw₃, ha₃⟩ :
      ∃ (t : Task Memory String) (rest : Workspace × Memory) (i₁ i₂ i₃ : Interview Memory String Replay)
        (message : String) (invalid : Option (List (String × String))) (i₅ : Interview Memory String Replay),
        Task.start (Task.Shop.setup none) ({}, Task.Shop.memory "") = (.ok t, rest) ∧
        preset [("title", .str "Orders")] ⟨t, Shop.asker⟩ = (.ok (), i₁) ∧ i₁.asker = Shop.asker ∧
        i₁.task.unanswered = [.database, .table] ∧ ask .database i₁ = (.ok (), i₂) ∧ i₂.task.databaseName = "shop" ∧
        i₂.task.unanswered.head? = some .table ∧ ask .table i₂ = (.error (.validation message invalid), i₃) ∧
        i₃.task.unanswered.head? = some .table ∧
        ask .table { i₃ with asker := Asker.notify message i₃.asker } = (.ok (), i₅) :=
    ⟨_, _, _, _, _, _, _, _, rfl, rfl, rfl, rfl, rfl, rfl, rfl, rfl, rfl, rfl⟩
  have hhead : i₁.task.unanswered.head? = some .database := by rw [hw₁, List.head?_cons]
  have hnames : NamesDatabase i₁ := fun _ choices s v a _ hselect => by
    rw [hasker] at hselect
    obtain rfl : .str "shop" = v := Except.ok.inj (congrArg Prod.fst hselect)
    decide
  have hq := preset_queued hpreset (Task.start_started h).queued
  have hd' : i₂.task.isAnswered .database = true := Task.isAnswered_database.mpr (by simp [hd])
  have hcourse := ((Course.start.accepted hhead ha₁).rejected hw₂ ha₂).accepted hw₃ ha₃
  have hbound := ((rounds_bounded Memory.bindsNamed h hpreset fun _ _ hc =>
    hc.namesDatabase hq hnames hhead ha₁ hd').2.1 _ _ hcourse).1
  rw [hw₁] at hbound
  exact ⟨t, rest, i₁, i₅, h, hpreset, hcourse, hbound⟩

end Stencil.Dialog.Interview
