import Stencil.Proofs.Target.Files

namespace Stencil

/-!
# The formatters of generated targets

A formatter runs when the file of its target has been written. However it ends, its exit code is part of the result, and
a warning is given if it is not zero; then the next target follows. But what a formatter writes has to be text: other
bytes end the generation, whatever the exit code is.

* `Generator.IsText` — bytes that are the encoding of a text;
* `Generator.formatterRecords` — what is reported of a formatter;
* `Generator.runFormatter_of_isText`, `Generator.runFormatter_of_not_isText` — a formatter that has run;
* `Generator.generate_of_written` — a target that has been written goes on with its formatter;
* `Generator.Generated.append_eq` — a generation goes on after the targets that were generated;
* `Shell.ended`, `Shell.status_of_run` — how the shell ends, and the number for it;
* `Generator.formatter_ends` — all of this for the targets of a profile.
-/

/-! ### The end of a shell -/

namespace Shell

/-- Run a new shell with a command line to its end. -/
def finish (d : Disk) (vars : OrderedMap String) (source : String) : Except Stop Nat × Session :=
  let ev := Evaluator.upTo maxDepth
  (newShell ev true "sh".toList (runScript ev { isLast := true } (Raw.ofString source))).run (Session.start d vars)

/-- The number for the end of a shell: its exit code, or the negative number of the signal that ended it. -/
def statusOf : Except Stop Nat → Int
  | .ok code => code
  | .error (.exit code) => code
  | .error (.killed _ signal) => -signal
  | .error _ => 2

theorem run_eq (d : Disk) (vars : OrderedMap String) (source : String) : run d vars source =
    if source.toList.contains '\x00' then .error .wrongValue
    else if !isFound vars then .error (.file .missing)
    else .ok {
      status := statusOf (finish d vars source).1
      output := (finish d vars source).2.collected 1
      errors := (finish d vars source).2.collected 2
      disk := { files := (finish d vars source).2.machine.files, current := d.current } } := rfl

/-- The status of a command line that has run is the number for the end of its shell. -/
theorem status_of_run {d : Disk} {vars : OrderedMap String} {source : String} {outcome : Outcome}
    (h : run d vars source = .ok outcome) : outcome.status = statusOf (finish d vars source).1 := by
  rw [run_eq] at h
  split at h
  · cases h
  · split at h
    · cases h
    · rw [← Except.ok.inj h]

end Shell

namespace Generator

variable {run : CommandRunner} {g : Generator} {p : Profile} {w w₁ w' : Workspace} {d : Disk} {id : String}
  {t : TargetDefinition} {o : Disk.Output} {passed rest : List (String × TargetDefinition)}
  {made : List GeneratedTarget} {formatter source : String} {outcome : Shell.Outcome} {path : Path}

/-! ### What a formatter writes -/

/-- Bytes are the encoding of a text. -/
def IsText (bytes : List UInt8) : Prop :=
  ∃ s : List Char, bytes = Text.encodeUtf8 s

theorem isValidUTF8_iff_isText {bytes : List UInt8} : ByteArray.IsValidUTF8 ⟨bytes.toArray⟩ ↔ IsText bytes := by
  constructor
  · rintro ⟨s, hs⟩
    refine ⟨s, ?_⟩
    have hdata := congrArg ByteArray.data hs
    rw [List.utf8Encode, List.data_toByteArray] at hdata
    exact congrArg Array.toList hdata
  · rintro ⟨s, rfl⟩
    exact ⟨s, ByteArray.ext List.data_toByteArray.symm⟩

theorem decoded_of_isText {bytes : List UInt8} (h : IsText bytes) : ∃ s, decoded bytes = .ok s := by
  rw [decoded, String.fromUTF8?, dif_pos (isValidUTF8_iff_isText.mpr h)]
  exact ⟨_, rfl⟩

theorem decoded_of_not_isText {bytes : List UInt8} (h : ¬ IsText bytes) :
    decoded bytes = .error (.foreign .notUnicode) := by
  rw [decoded, String.fromUTF8?, dif_neg (mt isValidUTF8_iff_isText.mp h)]

/-! ### What is reported of a formatter -/

/-- What is reported of a formatter: what it has written, unless that is blank, and its exit code, unless that is
zero. -/
def formatterRecords (id output errors : String) (status : Int) : List LogRecord :=
  (if output.isEmpty then [] else [.info ("Target '" ++ id ++ "' formatter output: " ++ output)]) ++
    if status = 0 then []
    else [.warning ("Formatter for target '" ++ id ++ "' exited with code " ++ toString status ++ ": " ++ errors)]

/-- A warning is given exactly if the exit code is not zero. -/
theorem warning_mem_formatterRecords {output errors : String} {status : Int} :
    (∃ r ∈ formatterRecords id output errors status, r.level = .warning) ↔ status ≠ 0 := by
  unfold formatterRecords
  by_cases ho : output.isEmpty <;> by_cases hs : status = 0 <;> simp [ho, hs, LogRecord.info, LogRecord.warning]

theorem reportFormatter_apply (id output errors : String) (status : Int) (w : Workspace) :
    reportFormatter id output errors status w =
      (.ok (), { w with log := w.log ++ formatterRecords id output errors status }) := by
  unfold reportFormatter formatterRecords
  by_cases ho : output.isEmpty <;> by_cases hs : status = 0 <;>
    simp [ho, hs, report, Workspace.report, Action.bind_apply]

/-! ### A formatter that has run -/

/-- What a formatter has written is text: its exit code is reported, and the result. -/
theorem runFormatter_of_isText (w : Workspace) (id : String)
    (hsource : g.engine.renderString w.disk formatter [("target", .str path.toString)] = .ok source)
    (hrun : run w source = .ok outcome) (houtput : IsText outcome.output) (herrors : IsText outcome.errors) :
    ∃ output errors, runFormatter run g id formatter path w =
      (.ok outcome.status,
        { w with disk := outcome.disk, log := w.log ++ formatterRecords id output errors outcome.status }) := by
  obtain ⟨output, ho⟩ := decoded_of_isText houtput
  obtain ⟨errors, he⟩ := decoded_of_isText herrors
  refine ⟨output, errors, ?_⟩
  rw [runFormatter, Action.get_bind_apply, hsource]
  simp [Action.bind_apply, Action.map_apply, hrun, ho, he, reportFormatter_apply, Except.map]

/-- What a formatter has written is not text: this is a failure, and nothing is reported. -/
theorem runFormatter_of_not_isText (w : Workspace) (id : String)
    (hsource : g.engine.renderString w.disk formatter [("target", .str path.toString)] = .ok source)
    (hrun : run w source = .ok outcome) (h : ¬ (IsText outcome.output ∧ IsText outcome.errors)) :
    runFormatter run g id formatter path w = (.error (.foreign .notUnicode), { w with disk := outcome.disk }) := by
  rw [runFormatter, Action.get_bind_apply, hsource]
  by_cases houtput : IsText outcome.output
  · obtain ⟨output, ho⟩ := decoded_of_isText houtput
    have he := decoded_of_not_isText fun herrors => h ⟨houtput, herrors⟩
    simp [Action.bind_apply, hrun, ho, he]
  · simp [Action.bind_apply, hrun, decoded_of_not_isText houtput]

/-! ### Targets with formatters -/

/-- The record of a target that has been written. -/
def wroteRecord (id : String) (path : Path) : LogRecord :=
  .info ("Wrote target '" ++ id ++ "' to " ++ path.toString)

/-- A workspace after a target has been written. -/
def wrote (w : Workspace) (d : Disk) (id : String) (path : Path) : Workspace :=
  { w with disk := d }.report (wroteRecord id path)

theorem shell_wrote : CommandRunner.shell (wrote w d id path) source = Shell.run d w.environment source := rfl

/-- A target that has been written goes on with its formatter. -/
theorem generate_of_written (run : CommandRunner) (id : String) (hrenders : g.Renders w.disk t o)
    (hwrite : writeFile o.path o.text w.disk = (.ok (), d))
    (hformatter : t.formatter = some formatter) (hne : formatter ≠ "") :
    g.generate run id t w =
      (((runFormatter run g id formatter o.path (wrote w d id o.path)).1.map fun status => ⟨id, o.path, some status⟩),
        (runFormatter run g id formatter o.path (wrote w d id o.path)).2) := by
  rw [generate, Action.get_bind_apply, hrenders.text]
  have hfilled : formatter.isEmpty = false := by simpa using hne
  simp only [Action.bind_apply, Action.ofExcept_apply, hrenders.path, onDisk_apply, hwrite, Except.mapError, hformatter,
    hfilled, report, Action.modify_apply, Bool.false_eq_true, if_false]
  rw [wrote, wroteRecord]
  rcases runFormatter run g id formatter o.path _ with ⟨f | status, w₂⟩ <;> rfl

/-- A generation goes on after the targets that were generated. -/
theorem Generated.append_eq (h : Generated run g w passed made w₁) :
    g.generateListed run (passed ++ rest) w =
      ((g.generateListed run rest w₁).1.map (made ++ ·), (g.generateListed run rest w₁).2) := by
  induction h with
  | nil w =>
    rw [List.nil_append]
    rcases g.generateListed run rest w with ⟨f | more, w₂⟩ <;> rfl
  | cons hmet hg _ ih =>
    rw [List.cons_append, generateListed_cons, conditionMet_eq_true.mpr hmet]
    simp only [hg, ih]
    rcases g.generateListed run rest _ with ⟨f | more, w₂⟩ <;> rfl

/-- A target that is generated is followed by the next one. -/
theorem Generated.generateAll_of_ok {last : GeneratedTarget} (h : Generated run g w passed made w₁)
    (hlisted : p.listedTargets = passed ++ (id, t) :: rest) (hmet : g.Met w₁.disk t.condition)
    (hlast : g.generate run id t w₁ = (.ok last, w')) :
    g.generateAll run p w =
      ((g.generateListed run rest w').1.map (made ++ last :: ·), (g.generateListed run rest w').2) := by
  rw [generateAll_eq, hlisted, h.append_eq, generateListed_cons, conditionMet_eq_true.mpr hmet]
  simp only [hlast]
  rcases g.generateListed run rest w' with ⟨f | more, w₂⟩ <;> rfl

/-- A target that fails is the last one. -/
theorem Generated.generateAll_of_error {f : Fault} (h : Generated run g w passed made w₁)
    (hlisted : p.listedTargets = passed ++ (id, t) :: rest) (hmet : g.Met w₁.disk t.condition)
    (hfailed : g.generate run id t w₁ = (.error f, w')) : g.generateAll run p w = (.error f, w') := by
  rw [generateAll_eq, hlisted, h.append_eq, generateListed_cons, conditionMet_eq_true.mpr hmet]
  simp only [hfailed]
  rfl

/-- **A formatter ends as it likes, if what it writes is text.** A target with a formatter has been rendered and
written, and the formatter was run. If all that it has written is text, the target is generated, whatever the exit code
is: this is part of the result, there is a warning exactly if it is not zero, and the generation goes on with the next
target. If something else was written, the generation ends with this failure, whatever the exit code is; there is no
warning, and what the target and its formatter have done to the files stays done. The shell tells a signal by its
negative number. -/
theorem formatter_ends (hrenders : g.Renders w.disk t o) (hwrite : writeFile o.path o.text w.disk = (.ok (), d))
    (hformatter : t.formatter = some formatter) (hne : formatter ≠ "")
    (hsource : g.engine.renderString d formatter [("target", .str o.path.toString)] = .ok source)
    (hrun : run (wrote w d id o.path) source = .ok outcome) :
    Disk.Effect [o] w.disk d ∧
      (run = .shell → outcome.status = Shell.statusOf (Shell.finish d w.environment source).1) ∧
      (IsText outcome.output ∧ IsText outcome.errors →
        ∃ made w₁ records, g.generate run id t w = (.ok made, w₁) ∧ made = ⟨id, o.path, some outcome.status⟩ ∧
          (made.formatterFailed = true ↔ outcome.status ≠ 0) ∧ w₁.disk = outcome.disk ∧
          w₁.log = w.log ++ wroteRecord id o.path :: records ∧
          ((∃ r ∈ records, r.level = .warning) ↔ outcome.status ≠ 0) ∧
          ∀ p w₀ passed before rest, p.listedTargets = passed ++ (id, t) :: rest →
            Generated run g w₀ passed before w → g.Met w.disk t.condition →
            g.generateAll run p w₀ =
              ((g.generateListed run rest w₁).1.map (before ++ made :: ·), (g.generateListed run rest w₁).2)) ∧
      (¬ (IsText outcome.output ∧ IsText outcome.errors) →
        ∃ w₁, g.generate run id t w = (.error (.foreign .notUnicode), w₁) ∧ w₁.disk = outcome.disk ∧
          w₁.log = w.log ++ [wroteRecord id o.path] ∧
          ∀ p w₀ passed before rest, p.listedTargets = passed ++ (id, t) :: rest →
            Generated run g w₀ passed before w → g.Met w.disk t.condition →
            g.generateAll run p w₀ = (.error (.foreign .notUnicode), w₁)) := by
  have hgenerate := generate_of_written run id hrenders hwrite hformatter hne
  -- The cases are how the shell tells its end, a formatter that writes text, and one that does not.
  refine ⟨effect_of_writeFile hwrite, fun hshell => ?_, fun ⟨houtput, herrors⟩ => ?_, fun hother => ?_⟩
  · rw [hshell, shell_wrote] at hrun
    exact Shell.status_of_run hrun
  · obtain ⟨output, errors, hformatted⟩ := runFormatter_of_isText (wrote w d id o.path) id hsource hrun houtput herrors
    rw [hformatted] at hgenerate
    refine ⟨_, _, formatterRecords id output errors outcome.status, hgenerate, rfl, ?_, rfl, ?_,
      warning_mem_formatterRecords, fun p w₀ passed before rest hlisted hbefore hmet => ?_⟩
    · simp [GeneratedTarget.formatterFailed]
    · exact List.append_assoc _ _ _
    · exact hbefore.generateAll_of_ok hlisted hmet hgenerate
  · rw [runFormatter_of_not_isText (wrote w d id o.path) id hsource hrun hother] at hgenerate
    exact ⟨_, hgenerate, rfl, rfl, fun p w₀ passed before rest hlisted hbefore hmet =>
      hbefore.generateAll_of_error hlisted hmet hgenerate⟩

/-! ### A page with a formatter -/

namespace Shop

/-- A page with a formatter. -/
def formatted (formatter : String) : TargetDefinition := { page with formatter := some formatter }

/-- A target behind it. -/
def last : TargetDefinition := { page with target := "last.txt" }

/-- A profile that lists both. -/
def formattedPages (formatter : String) : Profile :=
  { config := { targets := ["page", "last"] }, target := [("page", formatted formatter), ("last", last)] }

/-- The text of the page and where it goes. -/
def pageOutput : Disk.Output := ⟨⟨"/", ["out", "pages", "Ada.txt"]⟩, "Hi Ada"⟩

/-- The disk after the page has been written. -/
def pageDisk : Disk := (writeFile pageOutput.path pageOutput.text workspace.disk).2

/-- What the shell makes of a formatter of the page. -/
def shellOutcome (source : String) : Except Foreign Shell.Outcome :=
  CommandRunner.shell (wrote workspace pageDisk "page" pageOutput.path) source

theorem renders_formatted (formatter : String) : generator.Renders workspace.disk (formatted formatter) pageOutput where
  path := by
    show generator.outputPath workspace.disk page = _
    decide +kernel
  text := by
    show generator.engine.renderTemplate workspace.disk page.template generator.context = _
    decide +kernel

theorem writeFile_page : writeFile pageOutput.path pageOutput.text workspace.disk = (.ok (), pageDisk) :=
  Prod.ext (by decide +kernel) (by rw [pageDisk])

theorem shellOutcome_of_map {α : Type} {source : String} {f : Shell.Outcome → α} {a : α}
    (h : (shellOutcome source).toOption.map f = some a) :
    ∃ outcome, shellOutcome source = .ok outcome ∧ f outcome = a := by
  cases hs : shellOutcome source with
  | error e =>
    rw [hs] at h
    cases h
  | ok outcome =>
    rw [hs] at h
    exact ⟨outcome, rfl, Option.some.inj h⟩

theorem isText_nil : IsText [] := ⟨[], rfl⟩

end Shop

open Shop in
theorem formatter_ends_killed :
    ∃ made w₁, generator.generate .shell "page" (formatted "kill -9 $$") workspace = (.ok made, w₁) ∧
      made.formatterExitCode = some (-9) ∧ made.formatterFailed = true ∧ (∃ r ∈ w₁.log, r.level = .warning) ∧
      generator.generateAll .shell (formattedPages "kill -9 $$") workspace =
        ((generator.generateListed .shell [("last", last)] w₁).1.map (made :: ·),
          (generator.generateListed .shell [("last", last)] w₁).2) := by
  have hshell : (shellOutcome "kill -9 $$").toOption.map (fun o => (o.status, o.output, o.errors)) =
      some (-9, [], []) := by
    decide +kernel
  obtain ⟨outcome, hrun, houtcome⟩ := shellOutcome_of_map hshell
  simp only [Prod.mk.injEq] at houtcome
  obtain ⟨hstatus, houtput, herrors⟩ := houtcome
  obtain ⟨-, -, htext, -⟩ := formatter_ends (renders_formatted "kill -9 $$") writeFile_page rfl (by decide)
    (by decide +kernel) hrun
  obtain ⟨made, w₁, records, hgenerate, rfl, hfailed, -, hlog, hwarning, hnext⟩ :=
    htext ⟨houtput ▸ isText_nil, herrors ▸ isText_nil⟩
  have hne : outcome.status ≠ 0 := by
    rw [hstatus]
    decide
  obtain ⟨r, hr, hlevel⟩ := hwarning.mpr hne
  refine ⟨_, w₁, hgenerate, congrArg some hstatus, hfailed.mpr hne, ⟨r, ?_, hlevel⟩, ?_⟩
  · rw [hlog]
    exact List.mem_append_right _ (List.mem_cons_of_mem _ hr)
  · exact hnext (formattedPages "kill -9 $$") workspace [] [] [("last", last)] rfl (.nil workspace) fun _ => nofun

open Shop in
/-- A formatter that succeeds, but writes a byte that is no text, ends the generation after its file was written. -/
theorem generation_ends_with_formatter :
    (∃ outcome, shellOutcome "printf '\\377' >&2" = .ok outcome ∧ outcome.status = 0 ∧ outcome.errors = [255]) ∧
      ∃ w', generator.generateAll .shell (formattedPages "printf '\\377' >&2") workspace =
          (.error (.foreign .notUnicode), w') ∧
        w'.disk.files.bytes? ["out", "pages", "Ada.txt"] = some "Hi Ada".toUTF8 := by
  have hshell : (shellOutcome "printf '\\377' >&2").toOption.map (fun o => (o.status, o.errors)) = some (0, [255]) := by
    decide +kernel
  obtain ⟨outcome, hrun, houtcome⟩ := shellOutcome_of_map hshell
  obtain ⟨hstatus, herrors⟩ := Prod.mk.inj houtcome
  refine ⟨⟨outcome, hrun, hstatus, herrors⟩, _, Prod.ext ?_ rfl, ?_⟩
  · decide +kernel
  · decide +kernel

end Generator

end Stencil
