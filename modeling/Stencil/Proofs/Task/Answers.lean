import Stencil.Proofs.OrderedMap
import Stencil.Proofs.Source.Recorded
import Stencil.Proofs.Source.Steady
import Stencil.Proofs.Task.Start

namespace Stencil.Task

/-!
# Answers on their way to the templates

The context has a copy of the answers of its task, which every call brings up to date. The copy is written over
the old one answer by answer; that this gives the answers again, order included, is because a call never moves an
answer that is there.

* `InStep`, `Behind` — the copy is up to date, and the copy lacks what the last call recorded;
* `Tallied` — the schema has been reflected once if the context is bound, and not at all otherwise;
* `inStep_after`, `tallied_after` — both hold along all runs.
-/

variable {σ κ : Type} {t t₁ : Task σ κ} {c : Call} {r : Except Fault Unit}

/-! ### The copy of the answers -/

/-- The context has all answers, in order, if it is bound, and none otherwise. -/
structure InStep (t : Task σ κ) : Prop where
  nodup : t.answers.keys.Nodup
  bound : t.context.isBound = true → t.context.prompts = t.answers
  unbound : t.context.isBound = false → t.context.prompts = []

/-- The ids of which the context has an answer come first among the ids of all answers. -/
structure Behind (t : Task σ κ) : Prop where
  nodup : t.answers.keys.Nodup
  front : t.context.prompts.keys <+: t.answers.keys
  unbound : t.context.isBound = false → t.context.prompts = []

theorem InStep.front (h : InStep t) : t.context.prompts.keys <+: t.answers.keys := by
  cases hb : t.context.isBound with
  | true => rw [h.bound hb]
  | false =>
    rw [h.unbound hb]
    exact List.nil_prefix

/-- A copy stays up to date if neither the answers nor the context change. -/
theorem InStep.of_eq (h : InStep t) (ha : t₁.answers = t.answers) (hc : t₁.context = t.context) : InStep t₁ :=
  ⟨ha ▸ h.nodup, hc ▸ ha ▸ h.bound, hc ▸ h.unbound⟩

/-- Folding brings a copy that lags behind up to date. -/
theorem Behind.folded (h : Behind t) (hb : t.folded.context.isBound = true) : InStep t.folded where
  nodup := h.nodup
  bound _ := by
    rw [prompts_folded]
    exact OrderedMap.foldl_put_of_prefix h.nodup h.front
  unbound hf := absurd (hf.symm.trans hb) (by decide)

/-- While the context is not bound, there is no copy that could lag behind. -/
theorem Behind.inStep (h : Behind t) (hu : t.context.binding? = none) : InStep t where
  nodup := h.nodup
  bound hb := absurd ((isBound_eq_false.mpr hu).symm.trans hb) (by decide)
  unbound := h.unbound

theorem get?_prompts_of_bound (hb : t.context.isBound = true) :
    t.contextData.get? "prompts" = some (Value.ofFields t.context.prompts) := by
  obtain ⟨b, hb⟩ := isBound_iff.mp hb
  simp [contextData, Context.data, hb, OrderedMap.get?_cons]

theorem contextData_of_unbound (hu : t.context.isBound = false) : t.contextData = [] := by
  simp [contextData, Context.data, isBound_eq_false.mp hu]

variable [Source σ κ]

theorem InStep.behind (h : InStep t) (ht : Taken t c r t₁) : Behind t₁ := by
  have hunbound : t₁.context.isBound = false → t₁.context.prompts = [] := by
    rw [ht.context_eq]
    exact h.unbound
  have hanswers := ht.answers_eq
  -- A call that records nothing leaves the copy up to date; one that does leaves it behind by one answer.
  rcases c.record_cases t.answers with hrec | ⟨id, d, v, -, hrec⟩
  · rw [hrec] at hanswers
    refine ⟨hanswers ▸ h.nodup, ?_, hunbound⟩
    rw [ht.context_eq, hanswers]
    exact h.front
  · rw [hrec] at hanswers
    refine ⟨hanswers ▸ OrderedMap.nodup_keys_put h.nodup id v, ?_, hunbound⟩
    rw [ht.context_eq, hanswers]
    exact h.front.trans (OrderedMap.keys_prefix_put t.answers id v)

theorem Behind.updated (h : Behind t) (hu : Updated t r t₁) : InStep t₁ := by
  cases hu with
  | folded hb => exact h.folded ((isBound_folded t).trans hb)
  | waiting hu => exact h.inStep hu
  | unreflected hu | unmatched hu =>
    have h := h.inStep hu
    exact ⟨h.nodup, h.bound, h.unbound⟩
  | bound hu =>
    refine Behind.folded ?_ (isBound_folded _)
    exact ⟨h.nodup, h.front, fun _ => h.unbound (isBound_eq_false.mpr hu)⟩

theorem InStep.perform (h : InStep t) (c : Call) : InStep (c.perform t).2 := by
  rcases c.perform_cases t with ⟨e, ht, -⟩ | ⟨t₁, ht, hu⟩
  · exact h.of_eq ht.answers_of_error ht.context_eq
  · exact (h.behind ht).updated hu

theorem Started.inStep {s : Setup} {source : σ} (h : Started s source t) : InStep t := by
  have ha := h.answers
  obtain ⟨dsn, opened, -, ho⟩ := h.opened
  have hp : t.context.prompts = [] := by
    cases ho with
    | deferred _ _ hc => rw [hc]
    | eager _ _ _ _ _ _ hc => rw [hc]
  exact ⟨by simp [ha], fun _ => hp.trans ha.symm, fun _ => hp⟩

/-- The copy of the answers is up to date after any calls. -/
theorem inStep_after {s : Setup} {source : σ} (h : Started s source t) (calls : List Call) :
    InStep (t.after calls) :=
  after_induction (fun _ c h => h.perform c) h.inStep calls

/-! ### How often the schema is reflected -/

section Tally

variable {t t₁ t₂ : Task (Recorded σ κ) κ}

/-- The schema has been reflected once if the context is bound; otherwise not at all, and the database or the table
is not known. -/
structure Tallied (t : Task (Recorded σ κ) κ) : Prop where
  count : t.source.reflections = if t.context.isBound then 1 else 0
  settled : Settled t

/-- The first half of a call adds to the record, but no reflection. -/
theorem Taken.recorded_source (h : Taken t c r t₁) :
    t.source.events <+: t₁.source.events ∧ t₁.source.reflections = t.source.reflections := by
  refine h.source_induction
    (P := fun s => t.source.events <+: s.events ∧ s.reflections = t.source.reflections) ?_ ?_ ⟨List.prefix_rfl, rfl⟩
  · rintro k name s ⟨hp, hn⟩
    rcases hb : Source.bind k name s with ⟨a, s'⟩
    have he := Recorded.events_bind hb
    exact ⟨he ▸ hp.trans (List.prefix_append _ _), (Recorded.reflections_of_events he).trans hn⟩
  · rintro k s ⟨hp, hn⟩
    rcases hl : Source.listTables k s with ⟨a, s'⟩
    have he := Recorded.events_listTables hl
    exact ⟨he ▸ hp.trans (List.prefix_append _ _), (Recorded.reflections_of_events he).trans hn⟩

theorem Updated.recorded_source (h : Updated t r t₁) : t.source.events <+: t₁.source.events := by
  have hreflect : ∀ {k a s}, Source.reflect k t.source = (a, s) → t.source.events <+: s.events := fun hr =>
    Recorded.events_reflect hr ▸ List.prefix_append _ _
  cases h with
  | folded => exact List.prefix_rfl
  | waiting => exact List.prefix_rfl
  | unreflected _ _ _ hr => exact hreflect hr
  | unmatched _ _ _ hr => exact hreflect hr
  | bound _ _ _ hr => exact hreflect hr

theorem Tallied.updated (h : Tallied t) (ht : Taken t c (.ok ()) t₁) (hu : Updated t₁ r t₂)
    (hevents : Untroubled t₂.source.events) (hagree : Consistent t₂.source.events) : Tallied t₂ := by
  have hcount : t₁.source.reflections = if t₁.context.isBound then 1 else 0 := by
    rw [ht.recorded_source.2, ht.context_eq, h.count]
  cases hu with
  | folded hb =>
    refine ⟨by rw [isBound_folded]; exact hcount, fun hf => ?_⟩
    rw [isBound_folded, hb] at hf
    cases hf
  | waiting _ hw => exact ⟨hcount, fun _ => hw⟩
  | unreflected _ _ _ hr => exact absurd hr hevents.not_reflect_error
  | unmatched hu hd htable hr hs =>
    -- The table was listed just before the schema was reflected, so the schema has it.
    obtain ⟨names, s, hl, hm, -⟩ := h.settled.vetted ht (isBound_eq_false.mpr hu) hd htable
    exact absurd ((hagree.mem_tableNames hl hr _).mp hm) (Database.table?_eq_none.mp hs)
  | bound hu _ _ hr =>
    rw [isBound_eq_false.mpr hu] at hcount
    refine ⟨?_, fun hf => ?_⟩
    · rw [isBound_folded]
      exact (Recorded.reflections_of_events (Recorded.events_reflect hr)).trans (by rw [hcount]; rfl)
    · rw [isBound_folded] at hf
      cases hf

theorem Tallied.failed {e : Fault} (h : Tallied t) (ht : Taken t c (.error e) t₁)
    (hevents : Untroubled t₁.source.events) : Tallied t₁ where
  count := by rw [ht.recorded_source.2, ht.context_eq, h.count]
  settled := h.settled.failed ht fun _ => hevents.not_listTables_error

theorem Call.recorded_source (c : Call) (t : Task (Recorded σ κ) κ) :
    t.source.events <+: (c.perform t).2.source.events := by
  rcases c.perform_cases t with ⟨e, ht, -⟩ | ⟨t₁, ht, hu⟩
  · exact ht.recorded_source.1
  · exact ht.recorded_source.1.trans hu.recorded_source

theorem Tallied.perform (h : Tallied t) (c : Call) (hevents : Untroubled (c.perform t).2.source.events)
    (hagree : Consistent (c.perform t).2.source.events) : Tallied (c.perform t).2 := by
  rcases c.perform_cases t with ⟨e, ht, -⟩ | ⟨t₁, ht, hu⟩
  · exact h.failed ht hevents
  · exact h.updated ht hu hevents hagree

theorem Started.tallied {s : Setup} {source : σ} (h : Started s ⟨source, []⟩ t) : Tallied t := by
  obtain ⟨dsn, opened, hc, ho⟩ := h.opened
  have hzero : opened.reflections = 0 := Recorded.reflections_of_events (Recorded.events_connect hc)
  cases ho with
  | deferred hw hs hctx =>
    refine ⟨?_, fun _ => hw⟩
    rw [hs, hzero, hctx]
    rfl
  | eager _ _ hl _ hr _ hctx =>
    refine ⟨?_, fun hf => ?_⟩
    · rw [Recorded.reflections_of_events (Recorded.events_reflect hr),
        Recorded.reflections_of_events (Recorded.events_listTables hl), hzero, hctx]
      rfl
    · rw [hctx] at hf
      cases hf

/-- The tally is right after any calls that leave a record without trouble. -/
theorem tallied_after {s : Setup} {source : σ} (h : Started s ⟨source, []⟩ t) (calls : List Call)
    (hevents : Untroubled (t.after calls).source.events) (hagree : Consistent (t.after calls).source.events) :
    Tallied (t.after calls) := by
  -- A record only grows, so what is known of the last one is known of all before it.
  refine after_induction
    (P := fun t => Untroubled t.source.events → Consistent t.source.events → Tallied t) ?_
    (fun _ _ => h.tallied) calls hevents hagree
  intro t c ih hevents hagree
  have hp := c.recorded_source t
  exact (ih (hevents.of_prefix hp) (hagree.of_prefix hp)).perform c hevents hagree

end Tally

/-! ### A table that comes late -/

namespace Shop

/-- Calls of which the table comes after the first answer, and of which the last one passes a prompt over. -/
def lateTable : List Call :=
  [.answer (.generic "title" title) (.str "Orders"), .answer .table (.str "orders"),
    .skip (.generic "title" title)]

/-- What these calls leave on record. -/
def lateRecord : List (Source.Event String) :=
  [.connected "memory:" (.ok "shop"), .listedTables "shop" (.ok ["customers", "orders"]),
    .reflected "shop" (.ok schema)]

theorem untroubled_lateRecord : Untroubled lateRecord := by
  simp [Untroubled, lateRecord, Source.Event.isTrouble]

theorem consistent_lateRecord : Consistent lateRecord := by
  intro c names schema hi
  simp only [lateRecord, List.infix_cons_iff] at hi
  simp at hi
  obtain ⟨⟨rfl, rfl⟩, -, rfl⟩ := hi
  simp [Shop.schema, Database.tableNames]

end Shop

/-! ### The templates -/

/-- **All answers reach the templates.** Whatever calls were made, once the context is bound, its data has all
answers, in order; before that it has nothing at all, and what is bound once stays bound. If nothing but binding
databases failed, the schema has been reflected once if the context is bound, and not at all otherwise. -/
theorem answers_reach_templates {s : Setup} {w : Workspace} {source : σ} (calls more : List Call) :
    (∀ (t : Task σ κ) rest, start s (w, source) = (.ok t, rest) →
      ((t.after calls).context.isBound = true →
        (t.after calls).context.prompts = (t.after calls).answers ∧
        (t.after calls).contextData.get? "prompts" = some (Value.ofFields (t.after calls).answers)) ∧
      ((t.after calls).context.isBound = false → (t.after calls).contextData = []) ∧
      ∀ b, (t.after calls).context.binding? = some b →
        ((t.after calls).after more).context.binding? = some b) ∧
    ∀ (t : Task (Recorded σ κ) κ) rest, start s (w, ⟨source, []⟩) = (.ok t, rest) →
      Untroubled (t.after calls).source.events → Consistent (t.after calls).source.events →
      (t.after calls).source.reflections = if (t.after calls).context.isBound then 1 else 0 := by
  refine ⟨fun t rest h => ?_, fun t rest h hevents hagree => ?_⟩
  · have hstep := inStep_after (start_started h) calls
    refine ⟨fun hb => ?_, contextData_of_unbound, fun b hb => binding_after hb more⟩
    rw [get?_prompts_of_bound hb, hstep.bound hb]
    exact ⟨rfl, rfl⟩
  · exact (tallied_after (start_started h) calls hevents hagree).count

theorem answers_reach_templates_in_shop :
    (∃ (t : Task Memory String) (rest : Workspace × Memory),
      start (Shop.setup none) ({}, Shop.memory "shop") = (.ok t, rest) ∧
      (t.after Shop.lateTable).context.isBound = true ∧
      (t.after Shop.lateTable).context.prompts = [("title", .str "")]) ∧
    ∃ (t : Task (Recorded Memory String) String) (rest : Workspace × Recorded Memory String),
      start (Shop.setup none) ({}, ⟨Shop.memory "shop", []⟩) = (.ok t, rest) ∧
      (t.after Shop.lateTable).source.events = Shop.lateRecord ∧
      (t.after Shop.lateTable).source.reflections = 1 := by
  constructor
  · have h : start (Shop.setup none) (({} : Workspace), Shop.memory "shop") = (.ok _, _) := rfl
    exact ⟨_, _, h, rfl, (((answers_reach_templates Shop.lateTable []).1 _ _ h).1 rfl).1⟩
  · have h : start (Shop.setup none) (({} : Workspace), (⟨Shop.memory "shop", []⟩ : Recorded Memory String)) =
      (.ok _, _) := rfl
    exact ⟨_, _, h, rfl, (answers_reach_templates Shop.lateTable []).2 _ _ h Shop.untroubled_lateRecord
      Shop.consistent_lateRecord⟩

end Stencil.Task
