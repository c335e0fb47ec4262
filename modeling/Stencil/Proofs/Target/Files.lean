import Stencil.Proofs.Target.Generation
import Stencil.Proofs.Template.Engine

namespace Stencil

/-!
# The files of generated targets

Targets without formatters change nothing but files. Each file that was written has the last text that was rendered for
it, and nothing else is new but the directories that lead to the files. A target that fails leaves directories at most,
and none if it was not rendered.

* `Generator.Renders` — what is rendered for a target;
* `Generator.Written` — targets that were written one after another;
* `Generator.Sheltered` — targets that leave the templates alone;
* `Generator.generate_ended` — what the generation of one target does;
* `Generator.Written.effect` — what it does to the disk that targets are written one after another;
* `Generator.Written.renders` — sheltered targets are rendered as if they were the first ones;
* `Generator.writes_last_texts` — all of this for the targets of a profile.
-/

/-- No command line is run when a target has been written. -/
def TargetDefinition.IsPlain (t : TargetDefinition) : Prop :=
  ∀ formatter, t.formatter = some formatter → formatter = ""

theorem TargetDefinition.isPlain_of_none {t : TargetDefinition} (h : t.formatter = none) : t.IsPlain := by
  intro formatter hformatter
  rw [h] at hformatter
  cases hformatter

namespace Generator

variable {run : CommandRunner} {g : Generator} {p : Profile} {w w' : Workspace} {d d' : Disk} {id : String}
  {t : TargetDefinition} {o o' : Disk.Output} {listed passed rest : List (String × TargetDefinition)}
  {outputs : List Disk.Output}

/-! ### One target -/

/-- What is rendered for a target: its path and its text. -/
structure Renders (g : Generator) (d : Disk) (t : TargetDefinition) (o : Disk.Output) : Prop where
  path : g.outputPath d t = .ok o.path
  text : g.engine.renderTemplate d t.template g.context = .ok o.text

theorem Renders.unique (h : g.Renders d t o) (h' : g.Renders d t o') : o = o' := by
  obtain ⟨path, text⟩ := o
  obtain ⟨path', text'⟩ := o'
  obtain rfl : path = path' := Except.ok.inj (h.path.symm.trans h'.path)
  obtain rfl : text = text' := Except.ok.inj (h.text.symm.trans h'.text)
  rfl

/-- What is rendered depends on what the engine offers. -/
theorem renders_congr (h : g.engine.library d' = g.engine.library d) : g.Renders d' t o ↔ g.Renders d t o := by
  have hpath : g.outputPath d' t = g.outputPath d t := by
    rw [outputPath, outputPath, relativePath, relativePath, g.engine.renderString_congr h]
  have htext : g.engine.renderTemplate d' t.template g.context = g.engine.renderTemplate d t.template g.context :=
    g.engine.renderTemplate_congr h t.template g.context
  exact ⟨fun hr => ⟨hpath ▸ hr.path, htext ▸ hr.text⟩, fun hr => ⟨hpath ▸ hr.path, htext ▸ hr.text⟩⟩

/-- A file that is written has its text, in directories that are there; a failure leaves directories at most. -/
theorem writeFile_ended {r : Except Foreign Unit} (h : writeFile o.path o.text d = (r, d')) :
    r = .ok () ∧ Disk.Effect [o] d d' ∨
      (∃ f, r = .error f) ∧ Disk.Grown (d.Above o.path.parent) d d' := by
  rw [writeFile] at h
  rcases Action.bind_eq.mp h with ⟨f, hdirectories, rfl⟩ | ⟨_, d₁, hdirectories, hwrite⟩
  · exact .inr ⟨⟨f, rfl⟩, (Disk.prepared_of_makeDirectories hdirectories).grown⟩
  · obtain ⟨hgrown, hdir⟩ := Disk.prepared_of_makeDirectories hdirectories
    rw [Action.get_bind_apply] at hwrite
    rcases hw : d₁.write o.path o.text.toUTF8 with f | d₂ <;> rw [hw] at hwrite
    · cases hwrite
      exact .inr ⟨⟨f, rfl⟩, hgrown⟩
    · cases hwrite
      exact .inl ⟨rfl, Disk.effect_write hgrown (hdir rfl) hw⟩

theorem report_bind_apply {α : Type} (r : LogRecord) (f : Unit → Work α) : (report r >>= f) w = f () (w.report r) := rfl

/-- A plain target is rendered and written. If it is not rendered, nothing is written. -/
theorem generate_ended {res : Except Fault GeneratedTarget} (hplain : t.IsPlain)
    (h : g.generate run id t w = (res, w')) :
    (∀ o, ¬ g.Renders w.disk t o) ∧ (∃ f, res = .error f) ∧ w'.disk = w.disk ∨
      ∃ o r, g.Renders w.disk t o ∧ writeFile o.path o.text w.disk = (r, w'.disk) ∧
        ((∃ e, r = .error e) ∧ (∃ f, res = .error f) ∨ r = .ok () ∧ res = .ok ⟨id, o.path, none⟩) := by
  rw [generate, Action.get_bind_apply] at h
  rcases Action.bind_eq.mp h with ⟨f, hfailed, rfl⟩ | ⟨text, w₀, hrendered, hthen⟩
  · obtain ⟨htext, rfl⟩ := Action.ofExcept_eq.mp hfailed
    refine .inl ⟨fun o hr => ?_, ⟨f, rfl⟩, rfl⟩
    rw [hr.text] at htext
    cases htext
  obtain ⟨htext, rfl⟩ := Action.ofExcept_eq.mp hrendered
  rcases Action.bind_eq.mp hthen with ⟨f, hfailed, rfl⟩ | ⟨path, w₀, hrendered', hwrite⟩
  · obtain ⟨hpath, rfl⟩ := Action.ofExcept_eq.mp hfailed
    refine .inl ⟨fun o hr => ?_, ⟨f, rfl⟩, rfl⟩
    rw [hr.path] at hpath
    cases hpath
  obtain ⟨hpath, rfl⟩ := Action.ofExcept_eq.mp hrendered'
  refine .inr ⟨⟨path, text⟩, (writeFile path text w.disk).1, ⟨hpath, htext⟩, ?_⟩
  rw [Action.bind_apply, onDisk_apply] at hwrite
  rcases hw : writeFile path text w.disk with ⟨e | u, d₁⟩ <;> rw [hw] at hwrite
  · cases hwrite
    exact ⟨rfl, .inl ⟨⟨e, rfl⟩, _, rfl⟩⟩
  · -- The report changes no file, and no formatter is run.
    simp only [Except.mapError, report_bind_apply] at hwrite
    rcases hf : t.formatter with _ | formatter <;> rw [hf] at hwrite
    · cases hwrite
      exact ⟨rfl, .inr ⟨rfl, rfl⟩⟩
    · obtain rfl := hplain formatter hf
      have hempty : "".isEmpty = true := by decide
      dsimp only at hwrite
      rw [if_pos hempty] at hwrite
      cases hwrite
      exact ⟨rfl, .inr ⟨rfl, rfl⟩⟩

/-! ### Targets that are written -/

/-- Targets that were written one after another: each was rendered with the files that the ones before it had left. -/
inductive Written (g : Generator) : Disk → List (String × TargetDefinition) → List Disk.Output → Disk → Prop
  | nil (d : Disk) : Written g d [] [] d
  | cons {d d₁ d' : Disk} {id : String} {t : TargetDefinition} {o : Disk.Output}
    {rest : List (String × TargetDefinition)} {outputs : List Disk.Output} : g.Renders d t o →
    writeFile o.path o.text d = (.ok (), d₁) → Written g d₁ rest outputs d' →
    Written g d ((id, t) :: rest) (o :: outputs) d'

/-- The results of targets that were written. -/
def plainResults (passed : List (String × TargetDefinition)) (outputs : List Disk.Output) : List GeneratedTarget :=
  List.zipWith (fun e o => ⟨e.1, o.path, none⟩) passed outputs

/-- Plain targets that were generated were written. -/
theorem Generated.written {made : List GeneratedTarget} (hplain : ∀ e ∈ passed, e.2.IsPlain)
    (h : Generated run g w passed made w') :
    ∃ outputs, g.Written w.disk passed outputs w'.disk ∧ made = plainResults passed outputs := by
  induction h with
  | nil w => exact ⟨[], .nil w.disk, rfl⟩
  | @cons w w₁ w' id t rest made more _ hgenerate _ ih =>
    obtain ⟨outputs, hwritten, rfl⟩ := ih fun e he => hplain e (List.mem_cons_of_mem _ he)
    rcases generate_ended (hplain (id, t) List.mem_cons_self) hgenerate with
      ⟨-, ⟨f, hf⟩, -⟩ | ⟨o, r, hrenders, hwrite, ⟨-, f, hf⟩ | ⟨rfl, hres⟩⟩
    · cases hf
    · cases hf
    · cases hres
      exact ⟨o :: outputs, .cons hrenders hwrite hwritten, rfl⟩

theorem effect_of_writeFile (h : writeFile o.path o.text d = (.ok (), d')) : Disk.Effect [o] d d' := by
  rcases writeFile_ended h with ⟨-, heffect⟩ | ⟨⟨f, hf⟩, -⟩
  · exact heffect
  · cases hf

/-- Targets that were written one after another leave their texts, and nothing else but directories. -/
theorem Written.effect (h : g.Written d passed outputs d') : Disk.Effect outputs d d' := by
  induction h with
  | nil d => exact .nil d
  | cons _ hwrite _ ih => exact (effect_of_writeFile hwrite).append ih

/-! ### Targets that leave the templates alone -/

/-- The templates are in directories of a tree, and no target is written below these. -/
structure Sheltered (g : Generator) (d : Disk) (listed : List (String × TargetDefinition)) : Prop where
  tree : d.files.IsTree
  directories : ∀ dir ∈ g.engine.directories, d.isDirectory dir = true
  outside : ∀ e ∈ listed, ∀ path, g.outputPath d e.2 = .ok path →
    ∀ dir ∈ g.engine.directories, ¬ d.place dir <+: d.place path

/-- Sheltered targets are rendered as if they were the first ones, since the templates stay as they are. -/
theorem Written.rendered_from {d₀ : Disk} {before : List Disk.Output} (hs : g.Sheltered d₀ passed)
    (hbefore : Disk.Effect before d₀ d)
    (houtside : ∀ dir ∈ g.engine.directories, ∀ o ∈ before, ¬ d₀.place dir <+: d₀.place o.path)
    (h : g.Written d passed outputs d') :
    List.Forall₂ (fun e o => g.Renders d₀ e.2 o) passed outputs ∧ g.engine.library d' = g.engine.library d₀ := by
  -- All that was written before is outside the templates, and so is the next text; so they stay as at the start.
  induction h generalizing before with
  | nil d => exact ⟨.nil, g.engine.library_of_effect hs.tree hs.directories hbefore houtside⟩
  | @cons d d₁ d' id t o rest outputs hrenders hwrite _ ih =>
    have hlibrary := Engine.library_of_effect hs.tree hs.directories hbefore houtside
    have hrenders₀ := (renders_congr hlibrary).mp hrenders
    have hrest : g.Sheltered d₀ rest :=
      ⟨hs.tree, hs.directories, fun e he => hs.outside e (List.mem_cons_of_mem _ he)⟩
    have houtside' : ∀ dir ∈ g.engine.directories, ∀ o' ∈ before ++ [o], ¬ d₀.place dir <+: d₀.place o'.path := by
      intro dir hdir o' ho'
      rcases List.mem_append.mp ho' with ho' | ho'
      · exact houtside dir hdir o' ho'
      · obtain rfl := List.mem_singleton.mp ho'
        exact hs.outside (id, t) List.mem_cons_self _ hrenders₀.path dir hdir
    obtain ⟨hall, hlast⟩ := ih hrest (hbefore.append (effect_of_writeFile hwrite)) houtside'
    exact ⟨.cons hrenders₀ hall, hlast⟩

theorem Sheltered.of_append (hs : g.Sheltered d (passed ++ rest)) : g.Sheltered d passed :=
  ⟨hs.tree, hs.directories, fun e he => hs.outside e (List.mem_append_left _ he)⟩

/-- Sheltered targets are rendered as if they were the first ones, and so is what comes after them. -/
theorem Written.renders (h : g.Written d passed outputs d') (hs : g.Sheltered d passed) :
    List.Forall₂ (fun e o => g.Renders d e.2 o) passed outputs ∧ ∀ t o, g.Renders d' t o ↔ g.Renders d t o := by
  obtain ⟨hall, hlibrary⟩ := h.rendered_from hs (.nil d) fun _ _ _ => nofun
  exact ⟨hall, fun t o => renders_congr hlibrary⟩

/-! ### The end -/

theorem Stopped.disk_eq (h : Stopped run g w rest none w') : w'.disk = w.disk := by
  cases h <;> rfl

/-- A plain target that fails leaves directories at most, and none if it was not rendered. -/
theorem Stopped.disk_of_fault {f : Fault} (hplain : ∀ e ∈ rest, e.2.IsPlain) (h : Stopped run g w rest (some f) w') :
    ∃ id t after, rest = (id, t) :: after ∧ g.generateListed run [(id, t)] w = (.error f, w') ∧
      ((∀ o, ¬ g.Renders w.disk t o) → w'.disk = w.disk) ∧
      ∀ o, g.Renders w.disk t o → Disk.Grown (w.disk.Above o.path.parent) w.disk w'.disk := by
  cases h with
  | @undecided id t after f hcondition =>
    refine ⟨id, t, after, rfl, ?_, fun _ => rfl, fun o _ => .refl _ _⟩
    rw [generateListed_cons, hcondition]
  | @failed id t after f w' hmet hgenerate =>
    refine ⟨id, t, after, rfl, ?_, ?_⟩
    · rw [generateListed_cons, conditionMet_eq_true.mpr hmet]
      simp only [hgenerate]
    · rcases generate_ended (hplain (id, t) List.mem_cons_self) hgenerate with
        ⟨hnone, -, hsame⟩ | ⟨o, r, hrenders, hwrite, ⟨⟨e, rfl⟩, -⟩ | ⟨-, hres⟩⟩
      · exact ⟨fun _ => hsame, fun o hr => absurd hr (hnone o)⟩
      · refine ⟨fun hnone => absurd hrenders (hnone o), fun o' hrenders' => ?_⟩
        obtain rfl := hrenders'.unique hrenders
        rcases writeFile_ended hwrite with ⟨hok, -⟩ | ⟨-, hgrown⟩
        · cases hok
        · exact hgrown
      · cases hres

/-- A generation of plain targets writes some of them, and then it ends. -/
theorem generateListed_written {res : Except Fault (List GeneratedTarget)} (hplain : ∀ e ∈ listed, e.2.IsPlain)
    (h : g.generateListed run listed w = (res, w')) :
    ∃ passed rest outputs w₁ fault, listed = passed ++ rest ∧ g.Written w.disk passed outputs w₁.disk ∧
      g.generateListed run passed w = (.ok (plainResults passed outputs), w₁) ∧ Stopped run g w₁ rest fault w' ∧
      res = fault.elim (.ok (plainResults passed outputs)) .error := by
  obtain ⟨passed, rest, made, w₁, fault, rfl, hgenerated, hstopped, hres⟩ := generateListed_ended h
  obtain ⟨outputs, hwritten, rfl⟩ := hgenerated.written fun e he => hplain e (List.mem_append_left _ he)
  exact ⟨passed, rest, outputs, w₁, fault, rfl, hwritten, hgenerated.eq, hstopped, hres⟩

/-- **Targets leave their texts, and nothing else but directories.** Targets of a profile without formatters are
generated. If this succeeds, each of those that were generated was rendered at its turn, each file that one of their
paths leads to has the last text that was rendered for it, the directories of the paths are there, and everything else
is as before. If a target fails, the disk is the one that the targets before it have left, but for directories on the way
of its path, and without exception if it was not rendered. Where the templates are in directories that no target is
written to, it makes no difference for what is rendered that other targets were written before. -/
theorem writes_last_texts (run : CommandRunner) (g : Generator) (p : Profile) (w : Workspace)
    (hplain : ∀ e ∈ p.listedTargets, e.2.IsPlain) :
    (∀ made w', g.generateAll run p w = (.ok made, w') →
      ∃ passed rest outputs, p.listedTargets = passed ++ rest ∧ made = plainResults passed outputs ∧
        g.Written w.disk passed outputs w'.disk ∧ Disk.Effect outputs w.disk w'.disk ∧
        (g.Sheltered w.disk p.listedTargets → List.Forall₂ (fun e o => g.Renders w.disk e.2 o) passed outputs)) ∧
    ∀ f w', g.generateAll run p w = (.error f, w') →
      ∃ passed id t after outputs w₁, p.listedTargets = passed ++ (id, t) :: after ∧
        g.generateListed run passed w = (.ok (plainResults passed outputs), w₁) ∧
        g.generateListed run [(id, t)] w₁ = (.error f, w') ∧ g.Written w.disk passed outputs w₁.disk ∧ Disk.Effect outputs w.disk w₁.disk ∧
        ((∀ o, ¬ g.Renders w₁.disk t o) → w'.disk = w₁.disk) ∧
        (∀ o, g.Renders w₁.disk t o → Disk.Grown (w₁.disk.Above o.path.parent) w₁.disk w'.disk) ∧
        (∀ l, w'.disk.files.bytes? l = w₁.disk.files.bytes? l) ∧
        (g.Sheltered w.disk p.listedTargets → List.Forall₂ (fun e o => g.Renders w.disk e.2 o) passed outputs ∧
          ∀ o, g.Renders w₁.disk t o ↔ g.Renders w.disk t o) := by
  refine ⟨fun made w' h => ?_, fun f w' h => ?_⟩
  · rw [generateAll_eq] at h
    obtain ⟨passed, rest, outputs, w₁, fault, hlisted, hwritten, -, hstopped, hres⟩ := generateListed_written hplain h
    cases fault with
    | some f => cases hres
    | none =>
      cases hres
      rw [← hstopped.disk_eq] at hwritten
      refine ⟨passed, rest, outputs, hlisted, rfl, hwritten, hwritten.effect, fun hs => ?_⟩
      rw [hlisted] at hs
      exact (hwritten.renders hs.of_append).1
  · rw [generateAll_eq] at h
    obtain ⟨passed, rest, outputs, w₁, fault, hlisted, hwritten, hpassed, hstopped, hres⟩ :=
      generateListed_written hplain h
    cases fault with
    | none => cases hres
    | some f' =>
      cases hres
      obtain ⟨id, t, after, rfl, hfailed, hsame, hgrown⟩ :=
        hstopped.disk_of_fault fun e he => hplain e (hlisted ▸ List.mem_append_right _ he)
      refine ⟨passed, id, t, after, outputs, w₁, hlisted, hpassed, hfailed, hwritten, hwritten.effect, hsame, hgrown,
        fun l => ?_, fun hs => ?_⟩
      · -- What fails after it was rendered leaves directories at most, and these have no bytes.
        by_cases hrenders : ∃ o, g.Renders w₁.disk t o
        · obtain ⟨o, ho⟩ := hrenders
          exact ((hgrown o ho).quiet l).bytes?
        · rw [hsame fun o ho => hrenders ⟨o, ho⟩]
      · rw [hlisted] at hs
        obtain ⟨hall, hrenders⟩ := hwritten.renders hs.of_append
        exact ⟨hall, hrenders t⟩

/-! ### A page and a note in one file -/

namespace Shop

/-- A directory with two templates. -/
def templates : Workspace :=
  { disk := { files := { entries := [(["t"], .directory),
      (["t", "page.jinja"], .file "Hi \x7b\x7b name \x7d\x7d".toUTF8),
      (["t", "note.jinja"], .file "Bye \x7b\x7b name \x7d\x7d\n".toUTF8)] } } }

/-- A note that is written to the file of the page. -/
def note : TargetDefinition := { template := "note", target := "pages/../pages/Ada.txt" }

/-- A page below the file of the other one. -/
def inner : TargetDefinition := { template := "page", target := "pages/Ada.txt/page.txt" }

/-- A profile with these targets. -/
def pages (targets : List String) : Profile :=
  { config := { targets }, target := [("page", page), ("note", note), ("inner", inner)] }

theorem plain_pages {targets : List String}
    (h : ∀ e ∈ (pages targets).listedTargets, e.2.formatter = none) : ∀ e ∈ (pages targets).listedTargets, e.2.IsPlain :=
  fun e he => TargetDefinition.isPlain_of_none (h e he)

/-- The page and the note are written outside the directory of the templates. -/
theorem sheltered_pages : generator.Sheltered templates.disk (pages ["page", "note"]).listedTargets where
  tree := FileSystem.isTree_of_entries (by decide +kernel)
  directories := by decide +kernel
  outside e he path hpath dir hdir := by
    have hpage : generator.outputPath templates.disk page = .ok ⟨"/", ["out", "pages", "Ada.txt"]⟩ := by
      decide +kernel
    have hnote : generator.outputPath templates.disk note = .ok ⟨"/", ["out", "pages", "..", "pages", "Ada.txt"]⟩ := by
      decide +kernel
    obtain rfl : dir = ⟨"/", ["t"]⟩ := List.mem_singleton.mp hdir
    have hlisted : (pages ["page", "note"]).listedTargets = [("page", page), ("note", note)] := rfl
    rw [hlisted, List.mem_pair] at he
    rcases he with rfl | rfl
    · obtain rfl := Except.ok.inj (hpage.symm.trans hpath)
      decide +kernel
    · obtain rfl := Except.ok.inj (hnote.symm.trans hpath)
      decide +kernel

end Shop

open Shop in
theorem writes_last_texts_ada :
    (∃ made w', generator.generateAll noCommands (pages ["page", "note"]) templates = (.ok made, w') ∧
      w'.disk.files.bytes? ["out", "pages", "Ada.txt"] = some "Bye Ada\n".toUTF8 ∧
      ∃ passed outputs, made = plainResults passed outputs ∧ Disk.Effect outputs templates.disk w'.disk ∧
        List.Forall₂ (fun e o => generator.Renders templates.disk e.2 o) passed outputs) ∧
    ∃ f w', generator.generateAll noCommands (pages ["page", "inner", "note"]) templates = (.error f, w') ∧
      w'.disk.files.bytes? ["out", "pages", "Ada.txt"] = some "Hi Ada".toUTF8 ∧
      ∃ passed outputs w₁, generator.generateListed noCommands passed templates =
          (.ok (plainResults passed outputs), w₁) ∧ Disk.Effect outputs templates.disk w₁.disk ∧
        ∀ l, w'.disk.files.bytes? l = w₁.disk.files.bytes? l := by
  have hmade : generator.generateAll noCommands (pages ["page", "note"]) templates =
      (.ok [⟨"page", ⟨"/", ["out", "pages", "Ada.txt"]⟩, none⟩,
        ⟨"note", ⟨"/", ["out", "pages", "..", "pages", "Ada.txt"]⟩, none⟩],
        (generator.generateAll noCommands (pages ["page", "note"]) templates).2) :=
    Prod.ext (by decide +kernel) (by dsimp only)
  have hfailed : generator.generateAll noCommands (pages ["page", "inner", "note"]) templates =
      (.error (.runtime ("Failed to write target inner to /out/pages/Ada.txt/page.txt: " ++ detail)),
        (generator.generateAll noCommands (pages ["page", "inner", "note"]) templates).2) :=
    Prod.ext (by decide +kernel) (by dsimp only)
  obtain ⟨hok, -⟩ := writes_last_texts noCommands generator (pages ["page", "note"]) templates
    (plain_pages (by decide +kernel))
  obtain ⟨passed, rest, outputs, -, hresults, -, heffect, hrendered⟩ := hok _ _ hmade
  obtain ⟨-, herror⟩ := writes_last_texts noCommands generator (pages ["page", "inner", "note"]) templates
    (plain_pages (by decide +kernel))
  obtain ⟨passed', _, _, _, outputs', w₁, -, hpassed, -, -, heffect', -, -, hsame, -⟩ := herror _ _ hfailed
  exact ⟨⟨_, _, hmade, by decide +kernel, passed, outputs, hresults, heffect, hrendered sheltered_pages⟩,
    _, _, hfailed, by decide +kernel, passed', outputs', w₁, hpassed, heffect', hsame⟩

end Generator

end Stencil
