import Stencil.Proofs.Target.Generation
import Stencil.Proofs.Task.Prompts

namespace Stencil

/-!
# Tasks for accepted profiles

The documents that are accepted give closed profiles, with options whose labels are told apart. For such a profile no id
gets lost on the way: the list of prompts of a task has all that are listed, and so have its targets.

* `Profile.ofDocument_cases` — a document does not fit, or it gives a profile that is not closed, or an accepted one;
* `Profile.Closed.map_fst_listedTargets` — the targets that are generated are all that are listed;
* `Task.profile_after` — whatever is called, a task keeps its profile;
* `Task.Listed.forall₂_generic` — the prompts of a task are those that its profile lists;
* `Task.run_of_ready` — the run of a task that is ready is a generation of its targets;
* `Profile.accepted_profiles_are_closed` — all this for every document.
-/

namespace Profile

variable {p : Profile}

/-! ### Documents -/

theorem closed_rename (name : Option String) : (p.rename name).Closed ↔ p.Closed := by
  have hconfig : (p.rename name).config.prompts = p.config.prompts ∧ (p.rename name).config.targets = p.config.targets := by
    unfold rename
    split
    · split <;> exact ⟨rfl, rfl⟩
    · exact ⟨rfl, rfl⟩
  constructor
  · rintro ⟨hprompts, htargets⟩
    rw [hconfig.1, prompt_rename] at hprompts
    rw [hconfig.2, target_rename] at htargets
    exact ⟨hprompts, htargets⟩
  · rintro ⟨hprompts, htargets⟩
    rw [← hconfig.1, ← prompt_rename p name] at hprompts
    rw [← hconfig.2, ← target_rename p name] at htargets
    exact ⟨hprompts, htargets⟩

theorem checkReferences_eq_error (h : ¬ p.Closed) : ∃ message, p.checkReferences = .error (.validation message) := by
  unfold checkReferences
  split
  · exact ⟨_, rfl⟩
  · split
    · exact ⟨_, rfl⟩
    · next hprompts htargets =>
      refine absurd (checkReferences_eq_ok.mp ?_) h
      rw [checkReferences, if_neg hprompts, if_neg htargets]

/-- A document has parts that do not fit, or the profile that it describes is not closed, or it is accepted. -/
theorem ofDocument_cases (v : Value) (name : Option String) :
    (∃ ms, read v = .misfits ms ∧
      ofDocument v name = .error (.validation ("Invalid profile config: " ++ detail) (some (misfitList ms)))) ∨
    (∃ p, read v = .ok p ∧ ¬ p.Closed ∧ ∃ message, ofDocument v name = .error (.validation message)) ∨
    ∃ p, ofDocument v name = .ok p ∧ p.Accepted := by
  cases hread : read v with
  | misfits ms =>
    refine .inl ⟨ms, rfl, ?_⟩
    rw [ofDocument, hread]
    rfl
  | ok p =>
    -- A new name changes nothing of what a profile refers to.
    by_cases hclosed : p.Closed
    · have hrenamed := checkReferences_eq_ok.mpr ((closed_rename name).mpr hclosed)
      have h := ofDocument_eq_ok.mpr ⟨p, hread, rfl, hrenamed⟩
      exact .inr (.inr ⟨_, h, accepted_of_ofDocument h⟩)
    · obtain ⟨message, hmessage⟩ := checkReferences_eq_error (mt (closed_rename name).mp hclosed)
      refine .inr (.inl ⟨p, rfl, hclosed, message, ?_⟩)
      have hunfold : ofDocument v name = (read v).orFault >>= fun q =>
        (q.rename name).checkReferences >>= fun _ => .ok (q.rename name) := rfl
      rw [hunfold, hread]
      show ((p.rename name).checkReferences >>= fun _ => .ok (p.rename name)) = _
      rw [hmessage]
      rfl

/-! ### Listed targets -/

/-- The targets that are listed and defined have the definitions of the profile. -/
theorem get?_of_mem_listedTargets {e : String × TargetDefinition} (h : e ∈ p.listedTargets) :
    p.target.get? e.1 = some e.2 := by
  obtain ⟨id, -, hid⟩ := List.mem_filterMap.mp h
  obtain ⟨t, ht, rfl⟩ := Option.map_eq_some_iff.mp hid
  exact ht

/-- No id that a closed profile lists is passed over. -/
theorem Closed.map_fst_listedTargets (h : p.Closed) : p.listedTargets.map (·.1) = p.config.targets := by
  rw [Profile.map_fst_listedTargets, List.filter_eq_self]
  exact fun id hid => Option.isSome_iff_exists.mpr (h.targets id hid)

end Profile

namespace Task

variable {σ κ : Type} [Source σ κ] {t t₁ : Task σ κ} {c : Call} {r : Except Fault Unit} {profile : Profile} {name : String}

/-! ### Tasks -/

omit [Source σ κ] in
theorem databasePrompts_filter_generic : (databasePrompts name).filter (·.kind == .generic) = [] := by
  refine List.filter_eq_nil_iff.mpr fun q hq => ?_
  rw [mem_databasePrompts hq]
  decide

omit [Source σ κ] in
/-- The prompts of a task for a closed profile are those that it lists, in order, with their definitions. -/
theorem Listed.forall₂_generic (h : Listed name profile t) (hc : profile.Closed) :
    List.Forall₂ (fun id q => ∃ d, profile.prompt.get? id = some d ∧ q = .generic id d) profile.config.prompts
      (t.prompts.filter (·.kind == .generic)) := by
  have hprofile : profile.taskPrompts.filter (·.kind == .generic) = profile.taskPrompts :=
    List.filter_eq_self.mpr fun q hq => by
      rw [Profile.kind_of_mem_taskPrompts hq]
      rfl
  have hfilter : t.prompts.filter (·.kind == .generic) = profile.taskPrompts := by
    rcases h.prompts with he | he <;> rw [he, List.filter_append, databasePrompts_filter_generic, List.nil_append]
    · exact hprofile
    · rw [List.filter_cons_of_neg (by decide), hprofile]
  rw [hfilter]
  exact Profile.forall₂_taskPrompts (Profile.checkReferences_eq_ok.mpr hc)

theorem Taken.profile_eq (h : Taken t c r t₁) : t₁.profile = t.profile := by
  cases h <;> rfl

theorem Updated.profile_eq (h : Updated t r t₁) : t₁.profile = t.profile := by
  cases h <;> rfl

/-- Whatever is called, a task keeps its profile. -/
theorem profile_after (t : Task σ κ) (calls : List Call) : (t.after calls).profile = t.profile := by
  refine after_induction (P := fun t' => t'.profile = t.profile) (fun t' c ih => ?_) rfl calls
  rcases c.perform_cases t' with ⟨e, ht, -⟩ | ⟨t₁, ht, hu⟩
  · exact ht.profile_eq.trans ih
  · exact hu.profile_eq.trans (ht.profile_eq.trans ih)

/-- What the targets of a task are made with. -/
def generator (t : Task σ κ) : Generator :=
  { engine := t.engine, targetDir := t.targetDir, context := t.contextData }

/-- The run of a task that is ready is a generation of the targets of its profile. -/
theorem run_of_ready (run : CommandRunner) (h : t.isReady = true) : Task.run run t =
    ((t.generator.generateListed run t.profile.listedTargets t.workspace).1,
      { t with workspace := (t.generator.generateListed run t.profile.listedTargets t.workspace).2 }) := by
  rw [← Generator.generateAll_eq, Task.run, Action.get_bind_apply, h]
  rfl

end Task

namespace Profile

/-- **Accepted profiles are closed.** A document is rejected because parts of it do not fit, or because the profile that
it describes is not closed; otherwise it gives a closed profile, with options of which no two have the same label. A task
for this profile, whatever is called, has a prompt for each id that is listed, in order and with its definition. If it
runs, its targets are all that are listed: some are generated, one after another, and the run ends at the others, if there
are any, with the first of them. -/
theorem accepted_profiles_are_closed (v : Value) (name : Option String) :
    (∃ ms, read v = .misfits ms ∧
      ofDocument v name = .error (.validation ("Invalid profile config: " ++ detail) (some (misfitList ms)))) ∨
    (∃ p, read v = .ok p ∧ ¬ p.Closed ∧ ∃ message, ofDocument v name = .error (.validation message)) ∨
    ∃ p, ofDocument v name = .ok p ∧ p.Closed ∧ (∀ e ∈ p.prompt, e.2.options.Unambiguous) ∧
      ∀ (σ κ : Type) [Source σ κ] (s : Task.Setup) (w : Workspace) (source : σ) (t : Task σ κ) (rest : Workspace × σ),
        s.profile = p → Task.start s (w, source) = (.ok t, rest) → ∀ calls : List Task.Call,
          List.Forall₂ (fun id q => ∃ d, p.prompt.get? id = some d ∧ q = .generic id d) p.config.prompts
            ((t.after calls).prompts.filter (·.kind == .generic)) ∧
          ∀ run, (t.after calls).isReady = true →
            ∃ passed remaining made w₁ fault w₂, (passed ++ remaining).map (·.1) = p.config.targets ∧
              (∀ e ∈ passed ++ remaining, p.target.get? e.1 = some e.2) ∧
              Generator.Generated run (t.after calls).generator (t.after calls).workspace passed made w₁ ∧
              made.map (·.targetId) = passed.map (·.1) ∧
              Generator.Stopped run (t.after calls).generator w₁ remaining fault w₂ ∧
              Task.run run (t.after calls) = (fault.elim (.ok made) .error, { t.after calls with workspace := w₂ }) := by
  refine (ofDocument_cases v name).imp_right (Or.imp_right ?_)
  rintro ⟨p, hp, haccepted⟩
  have hclosed := checkReferences_eq_ok.mp haccepted.references
  refine ⟨p, hp, hclosed, haccepted.options, ?_⟩
  rintro σ κ _ s w source t rest rfl hstart calls
  have hstarted := Task.start_started hstart
  -- No call changes which prompts of the profile are listed, and none changes the profile.
  have hlisted : Task.Listed t.databaseName s.profile (t.after calls) :=
    Task.after_induction (fun t' c h => h.perform c) hstarted.listed calls
  refine ⟨hlisted.forall₂_generic hclosed, fun run hready => ?_⟩
  have hprofile : (t.after calls).profile = s.profile := (Task.profile_after t calls).trans hstarted.profile
  have hrun := Task.run_of_ready run hready
  have hlist : (t.after calls).generator.generateListed run (t.after calls).profile.listedTargets (t.after calls).workspace =
      (_, _) := rfl
  obtain ⟨passed, remaining, made, w₁, fault, htargets, hgenerated, hstopped, hresult⟩ :=
    Generator.generateListed_ended hlist
  rw [hresult] at hrun
  rw [hprofile] at htargets
  refine ⟨passed, remaining, made, w₁, fault, _, ?_, ?_, hgenerated, hgenerated.map_targetId, hstopped, hrun⟩
  · rw [← htargets, hclosed.map_fst_listedTargets]
  · intro e he
    exact get?_of_mem_listedTargets (htargets ▸ he)

namespace Shop

/-- A profile with a page and a prompt that are listed. -/
def pageProfile (prompts : List String) : Profile :=
  { config := { dsn := "memory:", prompts, targets := ["page"] }
    prompt := [("title", { prompt := "Title?", options := .labels ["Mr", "Ms"] })]
    target := [("page", { template := "page", target := "page.txt" })] }

/-- A task for the profile. -/
def pageSetup (prompts : List String) : Task.Setup :=
  { profile := pageProfile prompts, contextDir := Path.ofString "/", table := some "customers" }

end Shop

open Task.Shop in
theorem accepted_profiles_are_closed_in_shop :
    ofDocument (Shop.pageProfile ["title", "ghost"]).toDocument.toValue =
      .error (.validation "Profile '' lists undefined prompts: ghost") ∧
    ∃ (t : Task Memory String) (rest : Workspace × Memory),
      Task.start (Shop.pageSetup ["title"]) ({}, memory "shop") = (.ok t, rest) ∧
      (t.after [.skip (.generic "title" title)]).isReady = true ∧
      ∃ passed remaining : List (String × TargetDefinition), (passed ++ remaining).map (·.1) = ["page"] := by
  have hprofile : ofDocument (Shop.pageProfile ["title"]).toDocument.toValue = .ok (Shop.pageProfile ["title"]) := by
    decide +kernel
  have h : Task.start (Shop.pageSetup ["title"]) (({} : Workspace), memory "shop") = (.ok _, _) := rfl
  refine ⟨by decide +kernel, _, _, h, rfl, ?_⟩
  rcases accepted_profiles_are_closed (Shop.pageProfile ["title"]).toDocument.toValue none with
    ⟨_, -, he⟩ | ⟨_, -, -, _, he⟩ | ⟨p, hp, -, -, hall⟩
  · cases hprofile.symm.trans he
  · cases hprofile.symm.trans he
  · obtain rfl := Except.ok.inj (hprofile.symm.trans hp)
    obtain ⟨passed, remaining, _, _, _, _, hids, -⟩ :=
      (hall Memory String _ _ _ _ _ rfl h [.skip (.generic "title" title)]).2 Generator.Shop.noCommands rfl
    exact ⟨passed, remaining, hids⟩

end Profile

end Stencil
