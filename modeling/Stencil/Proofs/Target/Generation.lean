import Mathlib.Data.List.Nodup
import Stencil.Proofs.Action
import Stencil.Task.Basic

namespace Stencil

/-!
# Generating the targets of a profile

The targets that a profile lists are generated one after another. Each starts from the files that the ones before it
have left, its condition included. The first one whose condition does not hold ends the generation, whatever it and
those after it look like.

* `Profile.listedTargets` — the targets that are listed and defined;
* `Generator.Met`, `Generator.Unmet` — conditions that hold, and that do not;
* `Generator.Generated` — targets that were generated one after another;
* `Generator.Stopped` — how the generation ends at the targets that remain;
* `Generator.generateListed_ended` — a generation is a run of generated targets, and then it ends;
* `Generator.generateListed_congr` — what is behind a condition that does not hold makes no difference;
* `Generator.stops_at_unmet_condition` — all of this for the targets of a profile.
-/

/-- A target with its id, if the id has a definition. -/
def Profile.namedTarget? (p : Profile) (id : String) : Option (String × TargetDefinition) :=
  (p.target.get? id).map (id, ·)

/-- The targets that a profile lists and defines, in order; an id without a definition is passed over. -/
def Profile.listedTargets (p : Profile) : List (String × TargetDefinition) :=
  p.config.targets.filterMap p.namedTarget?

theorem Profile.namedTarget?_of_some {p : Profile} {id : String} {t : TargetDefinition} (h : p.target.get? id = some t) :
    p.namedTarget? id = some (id, t) := by
  rw [namedTarget?, h, Option.map_some]

theorem Profile.namedTarget?_of_none {p : Profile} {id : String} (h : p.target.get? id = none) :
    p.namedTarget? id = none := by
  rw [namedTarget?, h, Option.map_none]

/-- The ids of these targets are the listed ones that have a definition. -/
theorem Profile.map_fst_listedTargets (p : Profile) :
    p.listedTargets.map (·.1) = p.config.targets.filter fun id => (p.target.get? id).isSome := by
  unfold listedTargets
  induction p.config.targets with
  | nil => rfl
  | cons id ids ih =>
    cases h : p.target.get? id with
    | none => rw [List.filterMap_cons_none (namedTarget?_of_none h), List.filter_cons_of_neg (by simp [h]), ih]
    | some t =>
      rw [List.filterMap_cons_some (namedTarget?_of_some h), List.filter_cons_of_pos (by simp [h]), List.map_cons, ih]

namespace Generator

/-! ### Conditions -/

/-- A condition holds: there is none, or it renders to `1`, blanks aside. -/
def Met (g : Generator) (d : Disk) (condition : Option String) : Prop :=
  ∀ source, condition = some source →
    ∃ text, g.engine.renderString d source g.context = .ok text ∧ Text.trimmed text = "1"

/-- A condition does not hold: it renders to something else. One that does not render is neither. -/
def Unmet (g : Generator) (d : Disk) (condition : Option String) : Prop :=
  ∃ source text, condition = some source ∧
    g.engine.renderString d source g.context = .ok text ∧ Text.trimmed text ≠ "1"

variable {g : Generator} {d : Disk} {condition : Option String}

theorem conditionMet_some (source : String) : g.conditionMet d (some source) =
    (g.engine.renderString d source g.context).map fun text => Text.trimmed text == "1" := by
  rw [conditionMet]
  cases g.engine.renderString d source g.context <;> rfl

theorem conditionMet_eq_true : g.conditionMet d condition = .ok true ↔ g.Met d condition := by
  cases condition with
  | none => exact ⟨fun _ _ => nofun, fun _ => rfl⟩
  | some source =>
    rw [conditionMet_some]
    cases h : g.engine.renderString d source g.context <;> simp [Met, h, Except.map]

theorem conditionMet_eq_false : g.conditionMet d condition = .ok false ↔ g.Unmet d condition := by
  cases condition with
  | none => exact ⟨nofun, nofun⟩
  | some source =>
    rw [conditionMet_some]
    cases h : g.engine.renderString d source g.context <;> simp [Unmet, h, Except.map]

/-! ### Lists of targets -/

/-- The record of a condition that does not hold. -/
def unmetRecord (id : String) : LogRecord :=
  .info ("Condition for target '" ++ id ++ "' not met, skipping it and all remaining targets")

/-- Generate defined targets in order, up to the first whose condition does not hold. -/
def generateListed (run : CommandRunner) (g : Generator) :
    List (String × TargetDefinition) → Work (List GeneratedTarget)
  | [] => return []
  | (id, t) :: rest => do
    if ← Action.ofExcept (g.conditionMet (← get).disk t.condition) then
      let made ← g.generate run id t
      return made :: (← generateListed run g rest)
    else
      report (unmetRecord id)
      return []

variable {run : CommandRunner} {p : Profile} {w w' : Workspace} {id : String} {t : TargetDefinition}
  {rest : List (String × TargetDefinition)}

theorem generateTargets_eq (ids : List String) :
    generateTargets run g p ids = generateListed run g (ids.filterMap p.namedTarget?) := by
  induction ids with
  | nil => rfl
  | cons id ids ih =>
    rw [generateTargets]
    cases h : p.target.get? id with
    | none => rw [List.filterMap_cons_none (Profile.namedTarget?_of_none h), ← ih]
    | some t =>
      rw [List.filterMap_cons_some (Profile.namedTarget?_of_some h), generateListed, ← ih]
      rfl

/-- The targets of a profile that are generated are those that it lists and defines. -/
theorem generateAll_eq : g.generateAll run p = g.generateListed run p.listedTargets :=
  generateTargets_eq p.config.targets

theorem generateListed_cons : g.generateListed run ((id, t) :: rest) w =
    match g.conditionMet w.disk t.condition with
    | .error f => (.error f, w)
    | .ok false => (.ok [], w.report (unmetRecord id))
    | .ok true =>
      match g.generate run id t w with
      | (.error f, w₁) => (.error f, w₁)
      | (.ok made, w₁) => ((g.generateListed run rest w₁).1.map (made :: ·), (g.generateListed run rest w₁).2) := by
  rw [generateListed, Action.get_bind_apply, Action.bind_apply, Action.ofExcept_apply]
  rcases g.conditionMet w.disk t.condition with f | _ | _
  · rfl
  · rfl
  · show (g.generate run id t >>= fun made => generateListed run g rest >>= fun more => pure (made :: more)) w = _
    rw [Action.bind_apply]
    rcases g.generate run id t w with ⟨f | made, w₁⟩
    · rfl
    · show (generateListed run g rest >>= fun more => pure (made :: more)) w₁ =
        ((g.generateListed run rest w₁).1.map (made :: ·), (g.generateListed run rest w₁).2)
      rw [Action.bind_apply]
      rcases g.generateListed run rest w₁ with ⟨f | more, w₂⟩ <;> rfl

/-- Targets that were generated one after another: the condition of each of them held when it was its turn. -/
inductive Generated (run : CommandRunner) (g : Generator) :
    Workspace → List (String × TargetDefinition) → List GeneratedTarget → Workspace → Prop
  | nil (w : Workspace) : Generated run g w [] [] w
  | cons {w w₁ w' : Workspace} {id : String} {t : TargetDefinition} {rest : List (String × TargetDefinition)}
    {made : GeneratedTarget} {more : List GeneratedTarget} : g.Met w.disk t.condition →
    g.generate run id t w = (.ok made, w₁) → Generated run g w₁ rest more w' →
    Generated run g w ((id, t) :: rest) (made :: more) w'

/-- How the generation ends at the targets that remain: there are none, or something is wrong with the first one. -/
inductive Stopped (run : CommandRunner) (g : Generator) (w : Workspace) :
    List (String × TargetDefinition) → Option Fault → Workspace → Prop
  | finished : Stopped run g w [] none w
  | unmet {id t after} : g.Unmet w.disk t.condition →
    Stopped run g w ((id, t) :: after) none (w.report (unmetRecord id))
  | undecided {id t after f} : g.conditionMet w.disk t.condition = .error f →
    Stopped run g w ((id, t) :: after) (some f) w
  | failed {id t after f w'} : g.Met w.disk t.condition → g.generate run id t w = (.error f, w') →
    Stopped run g w ((id, t) :: after) (some f) w'

/-- A generation is a run of generated targets, and then it ends: well, with those targets, or with a failure. -/
theorem generateListed_ended {listed : List (String × TargetDefinition)} {res : Except Fault (List GeneratedTarget)}
    (h : g.generateListed run listed w = (res, w')) :
    ∃ passed rest made w₁ fault, listed = passed ++ rest ∧ Generated run g w passed made w₁ ∧
      Stopped run g w₁ rest fault w' ∧ res = fault.elim (.ok made) .error := by
  -- The first target decides: its condition fails or ends the generation, the target itself fails,
  -- or it is generated and the rest goes on.
  induction listed generalizing w res with
  | nil =>
    cases h
    exact ⟨[], [], [], _, none, rfl, .nil _, .finished, rfl⟩
  | cons e rest ih =>
    obtain ⟨id, t⟩ := e
    rw [generateListed_cons] at h
    rcases hc : g.conditionMet w.disk t.condition with f | _ | _ <;> rw [hc] at h
    · cases h
      exact ⟨[], _, [], _, some f, rfl, .nil _, .undecided hc, rfl⟩
    · cases h
      exact ⟨[], _, [], w, none, rfl, .nil w, .unmet (conditionMet_eq_false.mp hc), rfl⟩
    · have hmet := conditionMet_eq_true.mp hc
      rcases hg : g.generate run id t w with ⟨f | made, w₁⟩ <;> rw [hg] at h
      · cases h
        exact ⟨[], _, [], w, some f, rfl, .nil w, .failed hmet hg, rfl⟩
      · obtain ⟨rfl, rfl⟩ := Prod.mk.inj h
        obtain ⟨passed, rest', more, w₂, fault, rfl, hgen, hstop, hres⟩ := ih (w := w₁) rfl
        refine ⟨(id, t) :: passed, rest', made :: more, w₂, fault, rfl, .cons hmet hg hgen, hstop, ?_⟩
        rw [hres]
        cases fault <;> rfl

/-- Targets that are generated one after another are generated together. -/
theorem Generated.eq {passed : List (String × TargetDefinition)} {made : List GeneratedTarget}
    (h : Generated run g w passed made w') : g.generateListed run passed w = (.ok made, w') := by
  induction h with
  | nil => rfl
  | cons hmet hg _ ih =>
    rw [generateListed_cons, conditionMet_eq_true.mpr hmet]
    simp only [hg, ih, Except.map]

/-- Two lists that agree up to a target with one condition are generated alike, unless that condition is reached and
holds. -/
theorem generateListed_congr {before after after' : List (String × TargetDefinition)} {t' : TargetDefinition}
    (hcondition : t'.condition = t.condition)
    (h : ∀ made w₁, Generated run g w before made w₁ → ¬ g.Met w₁.disk t.condition) :
    g.generateListed run (before ++ (id, t') :: after') w = g.generateListed run (before ++ (id, t) :: after) w := by
  -- Both generations are the same up to the target, where its condition ends them, unless they have ended before.
  induction before generalizing w with
  | nil =>
    rw [List.nil_append, List.nil_append, generateListed_cons, generateListed_cons, hcondition]
    rcases hc : g.conditionMet w.disk t.condition with f | _ | _
    · rfl
    · rfl
    · exact absurd (conditionMet_eq_true.mp hc) (h [] w (.nil w))
  | cons e before ih =>
    obtain ⟨id₀, t₀⟩ := e
    rw [List.cons_append, List.cons_append, generateListed_cons, generateListed_cons]
    rcases hc : g.conditionMet w.disk t₀.condition with f | _ | _
    · rfl
    · rfl
    · rcases hg : g.generate run id₀ t₀ w with ⟨f | made, w₁⟩
      · rfl
      · dsimp only
        rw [ih fun more w₂ hgen => h (made :: more) w₂ (.cons (conditionMet_eq_true.mp hc) hg hgen)]

/-! ### Results -/

theorem onDisk_apply (act : ExceptT Foreign (StateM Disk) Unit) (problem : Foreign → Fault) :
    onDisk act problem w = ((act w.disk).1.mapError problem, { w with disk := (act w.disk).2 }) := by
  have hrun : act.run.run w.disk = act w.disk := rfl
  rw [onDisk, hrun]
  rcases act w.disk with ⟨f | u, disk⟩ <;> rfl

/-- What is generated has the id of its target. -/
theorem targetId_of_generate {made : GeneratedTarget} (h : g.generate run id t w = (.ok made, w')) :
    made.targetId = id := by
  rw [generate, Action.get_bind_apply] at h
  -- The result is put together after all else has been done.
  obtain ⟨_, _, -, h⟩ := Action.bind_eq_ok.mp h
  obtain ⟨_, _, -, h⟩ := Action.bind_eq_ok.mp h
  obtain ⟨_, _, -, h⟩ := Action.bind_eq_ok.mp h
  obtain ⟨_, _, -, h⟩ := Action.bind_eq_ok.mp h
  cases hf : t.formatter with
  | none =>
    rw [hf] at h
    cases h
    rfl
  | some formatter =>
    rw [hf] at h
    dsimp only at h
    split at h
    · cases h
      rfl
    · obtain ⟨_, _, -, h⟩ := Action.bind_eq_ok.mp h
      cases h
      rfl

theorem Generated.map_targetId {passed : List (String × TargetDefinition)} {made : List GeneratedTarget}
    (h : Generated run g w passed made w') : made.map (·.targetId) = passed.map (·.1) := by
  induction h with
  | nil => rfl
  | cons _ hg _ ih => rw [List.map_cons, List.map_cons, targetId_of_generate hg, ih]

/-- A task that is not ready does not run: it says so, and nothing else happens. -/
theorem run_of_not_ready {σ κ : Type} [Source σ κ] {task : Task σ κ} (run : CommandRunner)
    (h : task.isReady = false) :
    Task.run run task = (.error (.runtime "Context not ready to run all render tasks."), task) := by
  rw [Task.run, Action.get_bind_apply, h]
  rfl

/-- **The first condition that does not hold ends the generation.** If targets of a profile are generated without a
failure, the results are those of the listed and defined targets, in order, before the first one whose condition does
not hold when it is its turn. Two profiles that agree up to such a target behave alike, whatever else they say of it
and of the targets behind it: the condition may also not be reached, or not render. A task that is not ready generates
nothing. -/
theorem stops_at_unmet_condition (run : CommandRunner) (g : Generator) (p : Profile) (w : Workspace) :
    (∀ made w', g.generateAll run p w = (.ok made, w') →
      ∃ passed rest w₁, p.listedTargets = passed ++ rest ∧ Generated run g w passed made w₁ ∧
        made.map (·.targetId) = passed.map (·.1) ∧
        made.map (·.targetId) ++ rest.map (·.1) = p.config.targets.filter (fun id => (p.target.get? id).isSome) ∧
        (rest = [] ∧ w' = w₁ ∨ ∃ id t after, rest = (id, t) :: after ∧ g.Unmet w₁.disk t.condition ∧
          w' = w₁.report (unmetRecord id))) ∧
    (∀ p' before id t t' after after', p.listedTargets = before ++ (id, t) :: after →
      p'.listedTargets = before ++ (id, t') :: after' → t'.condition = t.condition →
      (∀ made w₁, Generated run g w before made w₁ → ¬ g.Met w₁.disk t.condition) →
      g.generateAll run p' w = g.generateAll run p w) ∧
    ∀ (σ κ : Type) [Source σ κ] (task : Task σ κ), task.isReady = false →
      Task.run run task = (.error (.runtime "Context not ready to run all render tasks."), task) := by
  refine ⟨fun made w' h => ?_, fun p' before id t t' after after' hp hp' hcondition hunmet => ?_,
    fun σ κ _ task h => run_of_not_ready run h⟩
  · rw [generateAll_eq] at h
    obtain ⟨passed, rest, made', w₁, fault, hlisted, hgen, hstop, hres⟩ := generateListed_ended h
    have hids : (passed ++ rest).map (·.1) = p.config.targets.filter fun id => (p.target.get? id).isSome :=
      hlisted ▸ p.map_fst_listedTargets
    cases fault with
    | some f => cases hres
    | none =>
      cases hres
      refine ⟨passed, rest, w₁, hlisted, hgen, hgen.map_targetId, ?_, ?_⟩
      · rw [hgen.map_targetId, ← List.map_append, hids]
      · cases hstop with
        | finished => exact .inl ⟨rfl, rfl⟩
        | unmet hunmet => exact .inr ⟨_, _, _, rfl, hunmet, rfl⟩
  · rw [generateAll_eq, generateAll_eq, hp, hp']
    exact generateListed_congr hcondition hunmet

/-! ### A page and a draft -/

namespace Shop

/-- A directory with a template. -/
def workspace : Workspace :=
  { disk := { files := { entries := [(["t"], .directory), (["t", "page.jinja"], .file "Hi \x7b\x7b name \x7d\x7d".toUTF8)] } } }

/-- What targets are made with. -/
def generator : Generator :=
  { engine := { directories := [Path.ofString "/t"] }, targetDir := Path.ofString "/out",
    context := [("name", .str "Ada")] }

/-- A target that is always generated. -/
def page : TargetDefinition := { template := "page", target := "pages/\x7b\x7b name \x7d\x7d.txt" }

/-- A target that is not: its condition does not hold. -/
def draft : TargetDefinition := { condition := some "\x7b\x7b 0 \x7d\x7d", template := "page", target := "draft.txt" }

/-- A profile that lists a page, an id without a definition, a draft and the page again. -/
def profile (draft : TargetDefinition) (targets : List String) : Profile :=
  { config := { targets := "page" :: "ghost" :: "draft" :: targets }, target := [("page", page), ("draft", draft)] }

/-- No command lines are run. -/
def noCommands : CommandRunner := fun _ _ => .error .unexpected

end Shop

open Shop in
theorem stops_at_unmet_condition_draft :
    ∃ made w', generator.generateAll noCommands (profile draft ["page"]) workspace = (.ok made, w') ∧
      (∃ passed rest w₁, (profile draft ["page"]).listedTargets = passed ++ rest ∧
        Generated noCommands generator workspace passed made w₁ ∧ passed.map (·.1) = ["page"]) ∧
      generator.generateAll noCommands (profile { draft with template := "missing", formatter := some "\x7b\x7b" } [])
        workspace = (.ok made, w') := by
  have hmade : generator.generateAll noCommands (profile draft ["page"]) workspace =
      (.ok [⟨"page", Path.ofString "/out/pages/Ada.txt", none⟩],
        (generator.generateAll noCommands (profile draft ["page"]) workspace).2) :=
    Prod.ext (by decide +kernel) (by dsimp only)
  -- The page is generated, and then the condition of the draft does not hold.
  have hunmet : ∀ made w₁, Generated noCommands generator workspace [("page", page)] made w₁ →
      ¬ generator.Met w₁.disk draft.condition := fun made w₁ hgen hmet => by
    have hw : (generator.generateListed noCommands [("page", page)] workspace).2 = w₁ := by rw [hgen.eq]
    have hfalse : generator.conditionMet
        (generator.generateListed noCommands [("page", page)] workspace).2.disk draft.condition = .ok false := by
      decide +kernel
    rw [hw, conditionMet_eq_true.mpr hmet] at hfalse
    cases hfalse
  obtain ⟨hresults, hcongr, -⟩ :=
    stops_at_unmet_condition noCommands generator (profile draft ["page"]) workspace
  obtain ⟨passed, rest, w₁, hlisted, hgen, hids, -⟩ := hresults _ _ hmade
  refine ⟨_, _, hmade, ⟨passed, rest, w₁, hlisted, hgen, hids.symm⟩, ?_⟩
  rw [← hmade]
  exact hcongr _ [("page", page)] "draft" draft _ [("page", page)] [] rfl rfl rfl hunmet

end Generator

end Stencil
