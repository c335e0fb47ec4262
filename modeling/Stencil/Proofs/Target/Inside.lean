import Stencil.Proofs.Files.Climbing
import Stencil.Proofs.Target.Formatter

namespace Stencil.Generator

/-!
# Targets within the directory of the generator

The path of a target starts from the directory of the generator, but nothing keeps it there: a text that names an absolute
path replaces the directory, and two dots lead out of it. All that is written is the file at this path.

* `outputPath_eq_ok` — the path of a target is the directory with the text that was rendered;
* `outputPath_within_iff` — which texts stay within the directory;
* `Touches` — all that the generation of a target changes is one file, and what its formatter does;
* `generate_touches` — no target changes more;
* `inside_unless_climbing` — all this for the generation of a target.
-/

variable {run : CommandRunner} {g : Generator} {w w' : Workspace} {d d' : Disk} {id : String} {t : TargetDefinition}
  {o : Disk.Output} {path : Path} {text : String}

/-! ### Paths -/

theorem outputPath_eq_ok :
    g.outputPath d t = .ok path ↔ ∃ text, g.relativePath d t = .ok text ∧ path = g.targetDir / Path.ofString text := by
  unfold outputPath
  cases g.relativePath d t with
  | error e => exact ⟨nofun, fun ⟨_, h, _⟩ => nomatch h⟩
  | ok text =>
    constructor
    · intro h
      exact ⟨text, rfl, (Except.ok.inj h).symm⟩
    · rintro ⟨_, h, rfl⟩
      cases h
      rfl

/-- A text that climbs nowhere, or comes back down the way that it went up; or it names an absolute path that is within
the directory anyway. -/
def StaysWithin (dir : Path) (text : String) : Prop :=
  if (Path.ofString text).isAbsolute then (Path.ofString text).Within dir
  else dir.parts.drop (dir.parts.length - (Disk.course (Path.ofString text).parts).up) <+:
    (Disk.course (Path.ofString text).parts).down

/-- Which texts stay within the directory. -/
theorem outputPath_within_iff (habs : g.targetDir.isAbsolute = true) (hdots : ".." ∉ g.targetDir.parts) :
    (g.targetDir / Path.ofString text).Within g.targetDir ↔ StaysWithin g.targetDir text := by
  unfold StaysWithin
  split
  · next h => rw [Path.div_of_isAbsolute h]
  · next h => rw [Path.div_within_iff habs hdots (by simpa using h)]

/-- A relative path without two dots stays within the directory. -/
theorem staysWithin_of_no_dots {dir : Path} (h : (Path.ofString text).isAbsolute = false)
    (hdots : ".." ∉ (Path.ofString text).parts) : StaysWithin dir text := by
  rw [StaysWithin, h, if_neg Bool.false_ne_true, Disk.course_of_no_dots hdots]
  simp

/-! ### Files -/

/-- One file at most has changed, and if something else has, it is what a formatter did when the file was written. -/
def Touches (run : CommandRunner) (g : Generator) (id : String) (t : TargetDefinition) (path : Path) (w w' : Workspace) :
    Prop :=
  ∃ w₁ : Workspace, (∀ l, l ≠ path.normalize.parts → w₁.disk.files.bytes? l = w.disk.files.bytes? l) ∧
    (w'.disk = w₁.disk ∨ ∃ formatter, t.formatter = some formatter ∧ formatter ≠ "" ∧
      w' = (runFormatter run g id formatter path w₁).2)

/-- A file that is written has its text, and no other file changes. -/
theorem bytes?_of_writeFile {r : Except Foreign Unit} (habs : o.path.isAbsolute = true)
    (h : writeFile o.path o.text d = (r, d')) :
    (r = .ok () → d'.files.bytes? o.path.normalize.parts = some o.text.toUTF8) ∧
      ∀ l, l ≠ o.path.normalize.parts → d'.files.bytes? l = d.files.bytes? l := by
  rcases writeFile_ended h with ⟨rfl, heffect⟩ | ⟨⟨f, rfl⟩, hgrown⟩
  · obtain ⟨⟨l₀, hl₀⟩, -⟩ := heffect.located o List.mem_cons_self
    obtain rfl : l₀ = o.path.normalize.parts := by
      rw [← Path.place_of_isAbsolute habs d', Disk.locate_eq_place hl₀]
    constructor
    · intro _
      rw [FileSystem.bytes?, heffect.written _ o.text (by rw [Disk.lastText_singleton hl₀, if_pos rfl])]
    · intro l hl
      exact (heffect.others l (by rw [Disk.lastText_singleton hl₀, if_neg (Ne.symm hl)])).bytes?
  · exact ⟨nofun, fun l _ => (hgrown.quiet l).bytes?⟩

/-- The formatter of a target that is not written makes no difference. -/
theorem generate_of_not_written (hfailed : ∀ o d, g.Renders w.disk t o → writeFile o.path o.text w.disk ≠ (.ok (), d)) :
    g.generate run id t w = g.generate run id { t with formatter := none } w := by
  have hsame : g.outputPath w.disk { t with formatter := none } = g.outputPath w.disk t := rfl
  rw [generate, generate, Action.get_bind_apply, Action.get_bind_apply]
  simp only [Action.bind_apply, Action.ofExcept_apply, onDisk_apply, hsame]
  cases htext : g.engine.renderTemplate w.disk t.template g.context with
  | error f => rfl
  | ok text =>
    cases hpath : g.outputPath w.disk t with
    | error f => rfl
    | ok path =>
      rcases hwrite : writeFile path text w.disk with ⟨f | _, d⟩
      · simp only [hwrite]
        rfl
      · exact absurd hwrite (hfailed ⟨path, text⟩ d ⟨hpath, htext⟩)

theorem touches_of_isPlain {res : Except Fault GeneratedTarget} (hplain : t.IsPlain)
    (hpath : g.outputPath w.disk t = .ok path) (habs : path.isAbsolute = true)
    (h : g.generate run id t w = (res, w')) {t' : TargetDefinition} : Touches run g id t' path w w' := by
  refine ⟨w', ?_, .inl rfl⟩
  rcases generate_ended hplain h with ⟨-, -, hsame⟩ | ⟨o, r, hrenders, hwrite, -⟩
  · intro l _
    rw [hsame]
  · obtain rfl := Except.ok.inj (hpath.symm.trans hrenders.path)
    exact (bytes?_of_writeFile habs hwrite).2

/-- No target changes more than the file at its path, but for what its formatter does. -/
theorem generate_touches {res : Except Fault GeneratedTarget} (hpath : g.outputPath w.disk t = .ok path)
    (habs : path.isAbsolute = true) (h : g.generate run id t w = (res, w')) : Touches run g id t path w w' := by
  by_cases hplain : t.IsPlain
  · exact touches_of_isPlain hplain hpath habs h
  · obtain ⟨formatter, hformatter, hne⟩ : ∃ formatter, t.formatter = some formatter ∧ formatter ≠ "" := by
      simpa [TargetDefinition.IsPlain] using hplain
    by_cases hwritten : ∃ o d, g.Renders w.disk t o ∧ writeFile o.path o.text w.disk = (.ok (), d)
    · obtain ⟨o, d, hrenders, hwrite⟩ := hwritten
      obtain rfl := Except.ok.inj (hpath.symm.trans hrenders.path)
      rw [generate_of_written run id hrenders hwrite hformatter hne] at h
      exact ⟨wrote w d id o.path, (bytes?_of_writeFile habs hwrite).2,
        .inr ⟨formatter, hformatter, hne, (Prod.mk.inj h).2.symm⟩⟩
    · rw [generate_of_not_written fun o d hr hw => hwritten ⟨o, d, hr, hw⟩] at h
      exact touches_of_isPlain (t := { t with formatter := none }) (TargetDefinition.isPlain_of_none rfl) hpath habs h

/-- **Targets stay inside unless they climb.** The directory of a generator is an absolute path without two dots, and the
path of a target has been rendered. It is the directory with the rendered text, and it stays within the directory exactly
if the text does: if it is a relative path that leads nowhere up, or comes back down the way that it went up, or if it is
an absolute path into the directory. A text without two dots that is no absolute path always does. The file at this path
is the only one that changes before the formatter runs, and if the target has none, it has the text of the template in the
end; so nothing outside the directory changes, if the path stays within it. -/
theorem inside_unless_climbing (habs : g.targetDir.isAbsolute = true) (hdots : ".." ∉ g.targetDir.parts)
    (hpath : g.outputPath w.disk t = .ok path) :
    ∃ text, g.relativePath w.disk t = .ok text ∧ path = g.targetDir / Path.ofString text ∧
      (path.Within g.targetDir ↔ StaysWithin g.targetDir text) ∧
      ((Path.ofString text).isAbsolute = false → ".." ∉ (Path.ofString text).parts → path.Within g.targetDir) ∧
      ∀ run id res w', g.generate run id t w = (res, w') →
        Touches run g id t path w w' ∧
        (t.IsPlain → res.isOk = true → ∃ content, g.engine.renderTemplate w.disk t.template g.context = .ok content ∧
          w'.disk.files.bytes? path.normalize.parts = some content.toUTF8) ∧
        (t.IsPlain → path.Within g.targetDir → ∀ l, ¬ g.targetDir.parts <+: l →
          w'.disk.files.bytes? l = w.disk.files.bytes? l) := by
  obtain ⟨text, htext, rfl⟩ := outputPath_eq_ok.mp hpath
  have hwithin : (g.targetDir / Path.ofString text).Within g.targetDir ↔ StaysWithin g.targetDir text :=
    outputPath_within_iff habs hdots
  have habs' := Path.isAbsolute_div habs (Path.ofString text)
  refine ⟨text, htext, rfl, hwithin, fun hrelative hnone => hwithin.mpr (staysWithin_of_no_dots hrelative hnone), ?_⟩
  intro run id res w' h
  have htouches := generate_touches hpath habs' h
  refine ⟨htouches, fun hplain hok => ?_, fun hplain hinside l hl => ?_⟩
  · -- Without a formatter, the bytes at the path are those that were written.
    rcases generate_ended hplain h with ⟨-, ⟨f, rfl⟩, -⟩ | ⟨o, r, hrenders, hwrite, ⟨-, f, rfl⟩ | ⟨rfl, -⟩⟩
    · cases hok
    · cases hok
    · have hsame := Except.ok.inj (hpath.symm.trans hrenders.path)
      rw [hsame] at habs' ⊢
      exact ⟨o.text, hrenders.text, (bytes?_of_writeFile habs' hwrite).1 rfl⟩
  · obtain ⟨w₁, hothers, hsame | ⟨formatter, hformatter, hne, -⟩⟩ := htouches
    · rw [hsame]
      refine hothers l ?_
      rintro rfl
      exact hl hinside
    · exact absurd (hplain formatter hformatter) hne

namespace Shop

/-- A target whose text climbs out of the directory. -/
def climbing : TargetDefinition :=
  { template := "page", target := "../{{ name }}.txt" }

end Shop

open Shop in
theorem inside_unless_climbing_page :
    (generator.targetDir.isAbsolute = true ∧ ".." ∉ generator.targetDir.parts ∧
      generator.outputPath workspace.disk page = .ok ⟨"/", ["out", "pages", "Ada.txt"]⟩) ∧
    Path.Within ⟨"/", ["out", "pages", "Ada.txt"]⟩ generator.targetDir ∧
    ∃ res w', generator.generate noCommands "page" page workspace = (res, w') ∧ res.isOk = true ∧
      w'.disk.files.bytes? ["out", "pages", "Ada.txt"] = some "Hi Ada".toUTF8 ∧
      ∀ l, ¬ ["out"] <+: l → w'.disk.files.bytes? l = workspace.disk.files.bytes? l := by
  have habs : generator.targetDir.isAbsolute = true := by decide
  have hdots : ".." ∉ generator.targetDir.parts := by decide
  have hpath : generator.outputPath workspace.disk page = .ok ⟨"/", ["out", "pages", "Ada.txt"]⟩ := by decide +kernel
  have hplain : page.IsPlain := TargetDefinition.isPlain_of_none rfl
  have hok : (generator.generate noCommands "page" page workspace).1.isOk = true := by decide +kernel
  obtain ⟨text, htext, -, -, hinside, hall⟩ := inside_unless_climbing habs hdots hpath
  have hwithin : Path.Within ⟨"/", ["out", "pages", "Ada.txt"]⟩ generator.targetDir := by
    have hrendered : generator.relativePath workspace.disk page = .ok "pages/Ada.txt" := by decide +kernel
    obtain rfl := Except.ok.inj (hrendered.symm.trans htext)
    exact hinside (by decide) (by decide)
  obtain ⟨-, hwritten, houtside⟩ := hall noCommands "page" _ _ rfl
  obtain ⟨content, hcontent, hbytes⟩ := hwritten hplain hok
  refine ⟨⟨habs, hdots, hpath⟩, hwithin, _, _, rfl, hok, ?_, houtside hplain hwithin⟩
  have hrendered : generator.engine.renderTemplate workspace.disk page.template generator.context = .ok "Hi Ada" := by
    decide +kernel
  obtain rfl := Except.ok.inj (hrendered.symm.trans hcontent)
  exact hbytes

open Shop in
/-- A text that climbs is followed out of the directory: the file is written beside it. -/
theorem outside_by_climbing :
    generator.outputPath workspace.disk climbing = .ok ⟨"/", ["out", "..", "Ada.txt"]⟩ ∧
      ¬ Path.Within ⟨"/", ["out", "..", "Ada.txt"]⟩ generator.targetDir ∧
      ∃ w', generator.generate noCommands "page" climbing workspace =
          (.ok ⟨"page", ⟨"/", ["out", "..", "Ada.txt"]⟩, none⟩, w') ∧
        workspace.disk.files.bytes? ["Ada.txt"] = none ∧
        w'.disk.files.bytes? ["Ada.txt"] = some "Hi Ada".toUTF8 := by
  refine ⟨by decide +kernel, by decide, (generator.generate noCommands "page" climbing workspace).2,
    Prod.ext (by decide +kernel) rfl, rfl, by decide +kernel⟩

end Stencil.Generator
