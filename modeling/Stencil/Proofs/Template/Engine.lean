import Mathlib.Data.List.Find
import Stencil.Proofs.Action
import Stencil.Proofs.Files.Alike
import Stencil.Proofs.Files.Disk
import Stencil.Template.Engine

namespace Stencil.Engine

/-!
# What engines depend on, and how they fail

Of a disk, an engine sees no more than the files below its directories. As long as these are the same, everything is
rendered alike. To start with, it reads only the helper scripts.

Rendering a source fails with a failure of the program itself, whatever it is that goes wrong. Rendering a template does
so too, unless the template is there and cannot even be prepared: its file is no text, or its text is compiled to no
program for another reason than a malformed source.

* `library_congr` — disks with the same files below the directories offer the same templates;
* `library_of_effect` — so do disks where something was written elsewhere;
* `renderTemplate_congr`, `renderString_congr` — what is rendered depends on what is offered;
* `forDirectories_alike` — disks with the same helper scripts give the same engines;
* `Knows` — templates that have been prepared before;
* `Unprepared` — what keeps a template that is there from being prepared;
* `load_eq_foreign` — when a template is not prepared;
* `renderString_eq`, `renderString_cases`, `renderTemplate_eq` — the results of rendering, stage by stage;
* `failures_of_rendering` — how rendering fails.
-/

/-! ### Disks that look alike -/

section Alike

variable {e : Engine} {d d' : Disk}

/-- Names that lead to a template never lead up. -/
theorem steps?_no_up {name : String} {names : List String} (h : steps? name = some names) : ".." ∉ names := by
  unfold steps? at h
  dsimp only at h
  split at h
  · cases h
  · rename_i hpieces
    cases h
    rw [List.contains_iff_mem] at hpieces
    exact fun hup => hpieces (List.mem_filter.mp hup).1

/-- A path inside a directory is the directory with names that do not lead up. -/
theorem reaches_eq_true {p : Path} : e.reaches p = true ↔
    ∃ dir ∈ e.directories, ∃ names, ".." ∉ names ∧ p = { dir with parts := dir.parts ++ names } := by
  have hbelow : ∀ dir : Path, (p.relativeTo? dir).any (fun names => !names.contains "..") = true ↔
      ∃ names, ".." ∉ names ∧ p = { dir with parts := dir.parts ++ names } := fun dir => by
    unfold Path.relativeTo?
    constructor
    · intro h
      split at h
      · rename_i hp
        rw [Bool.and_eq_true, beq_iff_eq, List.isPrefixOf_iff_prefix] at hp
        obtain ⟨hroot, names, hparts⟩ := hp
        rw [← hparts, List.drop_left] at h
        refine ⟨names, by simpa using h, ?_⟩
        rw [hparts, ← hroot]
      · cases h
    · rintro ⟨names, hup, rfl⟩
      have hp : (dir.root == dir.root && dir.parts.isPrefixOf (dir.parts ++ names)) = true := by simp
      rw [if_pos hp, List.drop_left]
      simpa using hup
  rw [reaches, List.any_eq_true]
  simp only [hbelow]

/-- Disks with the same files below the directories of an engine offer the same templates. -/
theorem library_congr
    (h : ∀ p, e.reaches p = true → ∀ b, d'.entry p = .ok (.file b) ↔ d.entry p = .ok (.file b)) :
    e.library d' = e.library d := by
  -- All that an engine does with its files is to look whether they are there and to read them.
  have hisFile : ∀ p, e.reaches p = true → d'.isFile p = d.isFile p := fun p hp => by
    rw [Bool.eq_iff_iff, Disk.isFile_eq_true, Disk.isFile_eq_true]
    exact exists_congr (h p hp)
  have hfile : e.file? d' = e.file? d := by
    funext name
    unfold file?
    cases hsteps : steps? name with
    | none => rfl
    | some names =>
      refine List.find?_congr fun p hp => ?_
      obtain ⟨dir, hdir, rfl⟩ := List.mem_map.mp hp
      exact hisFile _ (reaches_eq_true.mpr ⟨dir, hdir, names, steps?_no_up hsteps, rfl⟩)
  have hread : e.readFile d' = e.readFile d := by
    funext p
    unfold readFile
    by_cases hp : e.reaches p = true
    · rw [hisFile p hp]
      by_cases hfile : d.isFile p = true
      · obtain ⟨b, hb⟩ := Disk.isFile_eq_true.mp hfile
        rw [Disk.readText_congr (((h p hp b).mpr hb).trans hb.symm)]
      · simp [hfile]
    · simp [hp]
  unfold library
  rw [hfile, hread]

/-- Texts that are written outside the directories of an engine make no difference to its templates. -/
theorem library_of_effect {outputs : List Disk.Output} (htree : d.files.IsTree)
    (hdirectories : ∀ dir ∈ e.directories, d.isDirectory dir = true) (h : Disk.Effect outputs d d')
    (houtside : ∀ dir ∈ e.directories, ∀ o ∈ outputs, ¬ d.place dir <+: d.place o.path) :
    e.library d' = e.library d := by
  refine library_congr fun p hp b => ?_
  obtain ⟨dir, hdir, names, hup, rfl⟩ := reaches_eq_true.mp hp
  obtain ⟨l, hl, -⟩ := Disk.isDirectory_eq_true.mp (hdirectories dir hdir)
  have hquiet : Disk.QuietBelow d d' l := by
    rw [Disk.locate_eq_place hl]
    exact h.quietBelow (houtside dir hdir)
  exact Disk.entry_file_iff htree h.kept hl hquiet hup

theorem renderTemplate_congr (h : e.library d' = e.library d) (name : String) (names : OrderedMap Value) :
    e.renderTemplate d' name names = e.renderTemplate d name names := by
  have hrender : render d' name names e = render d name names e := by
    unfold render
    rw [Action.get_bind_apply, Action.get_bind_apply, h]
  exact congrArg Prod.fst hrender

theorem renderString_congr (h : e.library d' = e.library d) (source : String) (names : OrderedMap Value) :
    e.renderString d' source names = e.renderString d source names := by
  have hrender : renderSource d' source names e = renderSource d source names e := by
    unfold renderSource
    rw [Action.get_bind_apply, Action.get_bind_apply, h]
  exact congrArg Prod.fst hrender

/-! ### Engines -/

/-- Offer the helper of a script. -/
def addScript (d : Disk) (e : String × Path) : Action Engine String :=
  match helperOf d e.2 with
  | .ok h => do
    modify (·.addHelper e.1 h)
    return e.1
  | .error fault => throw fault

theorem addScripts_eq (d : Disk) (dir : Path) : addScripts d dir =
    if !d.isDirectory dir then pure [] else (Script.names d dir).mapM (addScript d) := rfl

/-- Disks with the same helper scripts give the same engines. -/
theorem forDirectories_alike (h : d.Alike d') (templates : Path) (scripts : Option Path) :
    forDirectories d' templates scripts = forDirectories d templates scripts := by
  have hscripts : ∀ dir, addScripts d' dir = addScripts d dir := by
    intro dir
    have hmapM : ∀ es : List (String × Path), (∀ e ∈ es, helperOf d' e.2 = helperOf d e.2) →
        es.mapM (addScript d') = es.mapM (addScript d) := by
      intro es hes
      induction es with
      | nil => rfl
      | cons e es ih =>
        rw [List.forall_mem_cons] at hes
        rw [List.mapM_cons, List.mapM_cons, ih hes.2, addScript, addScript, hes.1]
    have hhelpers : ∀ e ∈ Script.names d dir, helperOf d' e.2 = helperOf d e.2 := by
      intro e he
      obtain ⟨file, hlast, hfile⟩ := Disk.getLast?_of_mem_scriptNames he
      rw [helperOf, helperOf, h.scriptLoad_eq hlast hfile]
    rw [addScripts_eq, addScripts_eq, h.isDirectory_eq, h.scriptNames_eq, hmapM _ hhelpers]
  unfold forDirectories addTemplates
  rw [h.isDirectory_eq]
  simp only [hscripts]

end Alike

variable {e : Engine} {d : Disk} {name : String}

/-! ### Templates that are there -/

theorem file?_eq_some {p : Path} (h : e.file? d name = some p) :
    e.reaches p = true ∧ ∃ b, d.entry p = .ok (.file b) := by
  unfold file? at h
  obtain ⟨names, hnames, hfind⟩ := Option.bind_eq_some_iff.mp h
  obtain ⟨dir, hdir, rfl⟩ := List.mem_map.mp (List.mem_of_find?_eq_some hfind)
  refine ⟨reaches_eq_true.mpr ⟨dir, hdir, names, steps?_no_up hnames, rfl⟩, ?_⟩
  exact Disk.isFile_eq_true.mp (List.find?_some hfind)

/-- The file of a template can be read, be it text or not. -/
theorem read_of_file? {p : Path} (h : e.file? d name = some p) :
    (∃ b, d.read p = .ok b) ∧ e.readFile d p = d.readText p := by
  obtain ⟨hreaches, b, hb⟩ := file?_eq_some h
  constructor
  · refine ⟨b, ?_⟩
    rw [Disk.read, hb]
    rfl
  · rw [readFile, if_pos (by rw [hreaches, Disk.isFile_eq_true.mpr ⟨b, hb⟩]; rfl)]

/-! ### Preparing a template -/

/-- A template has been prepared before, and its file has the same text still. -/
def Knows (e : Engine) (d : Disk) (name : String) : Prop :=
  ∃ known, e.store.loaded.get? name = some known ∧ e.readFile d known.path = .ok known.text

/-- What keeps a template that is there from being prepared, although its source is not malformed: its file is not
UTF-8, or its text is compiled to no program. -/
inductive Unprepared (e : Engine) (d : Disk) (name : String) : Foreign → Prop where
  | notUnicode {p : Path} {b : ByteArray} (hfile : e.file? d name = some p) (hread : d.read p = .ok b)
    (h : ¬ b.IsValidUTF8) : Unprepared e d name .notUnicode
  | notCompiled {p : Path} {text : List Char} {f : Foreign} (hfile : e.file? d name = some p)
    (hread : d.readText p = .ok text) (h : (e.library d).compile (some name) text = .error (.foreign f)) :
    Unprepared e d name f

theorem load_of_knows (h : e.Knows d name) : ∃ known, (e.library d).load name e.store = .ok (some known, e.store) := by
  obtain ⟨known, hknown, hread⟩ := h
  refine ⟨known, ?_⟩
  have hread : (e.library d).read known.path = .ok known.text := hread
  simp [Template.Library.load, hknown, hread, pure, Except.pure]

/-- A template that is not known is looked for, read and compiled. -/
theorem load_of_not_knows (h : ¬ e.Knows d name) : (e.library d).load name e.store =
    match e.file? d name with
    | none => .ok (none, e.store)
    | some p => do
      let text ← (e.readFile d p).mapError .foreign
      let found : Template.Loaded := { path := p, text, template := ← (e.library d).compile (some name) text }
      return (some found, { e.store with loaded := e.store.loaded.put name found }) := by
  unfold Template.Library.load
  -- A template that is known from before is still looked up if its file has changed or cannot be read.
  cases hknown : e.store.loaded.get? name with
  | none => rfl
  | some known =>
    cases hread : e.readFile d known.path with
    | error f =>
      have hread : (e.library d).read known.path = .error f := hread
      simp only [hread]
      rfl
    | ok text =>
      have hchanged : text ≠ known.text := by
        rintro rfl
        exact h ⟨known, hknown, hread⟩
      have hread : (e.library d).read known.path = .ok text := hread
      simp only [hread, if_neg hchanged]
      rfl

theorem not_unprepared_of_none {f : Foreign} (h : e.file? d name = none) : ¬ e.Unprepared d name f := by
  rintro (⟨hp, -, -⟩ | ⟨hp, -, -⟩) <;> cases h.symm.trans hp

/-- A template that is there is unprepared if its text is not read, or if it is read but not compiled. -/
theorem unprepared_iff {p : Path} {f : Foreign} (hfile : e.file? d name = some p) :
    e.Unprepared d name f ↔ d.readText p = .error f ∨
      ∃ text, d.readText p = .ok text ∧ (e.library d).compile (some name) text = .error (.foreign f) := by
  constructor
  · rintro (⟨hp, hread, hinvalid⟩ | ⟨hp, hread, hcompile⟩)
    · obtain rfl := Option.some.inj (hfile.symm.trans hp)
      exact .inl (Disk.readText_eq_error.mpr (.inr ⟨_, hread, hinvalid, rfl⟩))
    · obtain rfl := Option.some.inj (hfile.symm.trans hp)
      exact .inr ⟨_, hread, hcompile⟩
  · rintro (htext | ⟨text, htext, hcompile⟩)
    · obtain ⟨⟨b, hb⟩, -⟩ := read_of_file? hfile
      rcases Disk.readText_eq_error.mp htext with herror | ⟨b, hread, hinvalid, rfl⟩
      · cases hb.symm.trans herror
      · exact .notUnicode hfile hread hinvalid
    · exact .notCompiled hfile htext hcompile

/-- A template is left unprepared exactly for the reasons that `Unprepared` lists. -/
theorem load_eq_foreign {f : Foreign} :
    (e.library d).load name e.store = .error (.foreign f) ↔ ¬ e.Knows d name ∧ e.Unprepared d name f := by
  -- A template that is known and has not changed is not prepared again, so nothing can go wrong.
  by_cases hknows : e.Knows d name
  · obtain ⟨known, hknown⟩ := load_of_knows hknows
    rw [hknown]
    exact ⟨nofun, fun h => absurd hknows h.1⟩
  rw [load_of_not_knows hknows, iff_true_intro hknows, true_and]
  cases hfile : e.file? d name with
  | none => exact ⟨nofun, fun h => absurd h (not_unprepared_of_none hfile)⟩
  | some p =>
    rw [unprepared_iff hfile]
    simp only [(read_of_file? hfile).2]
    cases htext : d.readText p with
    | error g => simp [bind, Except.bind, Except.mapError]
    | ok text =>
      cases hcompile : (e.library d).compile (some name) text with
      | error defect => simp [bind, Except.bind, Except.mapError, hcompile]
      | ok t => simp [bind, Except.bind, Except.mapError, hcompile, pure, Except.pure]

/-! ### Rendering -/

/-- A source that is compiled and rendered gives a text; all failures on the way are failures to render it. -/
theorem renderString_eq (e : Engine) (d : Disk) (source : String) (names : OrderedMap Value) :
    e.renderString d source names =
      match (e.library d).compile none source.toList with
      | .error _ => .error (.runtime ("Failed to render " ++ Text.quoted source ++ ": " ++ detail))
      | .ok t =>
        match (e.library d).render e.store t names with
        | .ok (text, _) => .ok text
        | .error fault => .error (.runtime ("Failed to render " ++ Text.quoted source ++ ": " ++ fault.words)) := by
  show (renderSource d source names e).1 = _
  unfold renderSource
  rw [Action.get_bind_apply]
  cases (e.library d).compile none source.toList with
  | error => rfl
  | ok t =>
    simp only
    cases (e.library d).render e.store t names <;> rfl

/-- A source renders to a text, or the failure is one of the program itself. -/
theorem renderString_cases (e : Engine) (d : Disk) (source : String) (names : OrderedMap Value) :
    (∃ text, e.renderString d source names = .ok text) ∨
      ∃ message, e.renderString d source names = .error (.runtime message) := by
  rw [renderString_eq]
  cases (e.library d).compile none source.toList with
  | error => exact .inr ⟨_, rfl⟩
  | ok t =>
    simp only
    cases (e.library d).render e.store t names with
    | error => exact .inr ⟨_, rfl⟩
    | ok => exact .inl ⟨_, rfl⟩

/-- A template is found, prepared and rendered. -/
theorem renderTemplate_eq (e : Engine) (d : Disk) (name : String) (names : OrderedMap Value) :
    e.renderTemplate d name names =
      match (e.library d).load (name ++ extension) e.store with
      | .error .malformed => .error (.runtime ("Failed to compile template " ++ name ++ ": " ++ detail))
      | .error (.foreign f) => .error (.foreign f)
      | .ok (none, _) => .error (.runtime ("Template not found: " ++ name ++ extension))
      | .ok (some t, store) =>
        match (e.library d).render store t.template names with
        | .ok (text, _) => .ok text
        | .error fault => .error (.runtime ("Failed to render template " ++ name ++ ": " ++ fault.words)) := by
  show (render d name names e).1 = _
  unfold render
  rw [Action.get_bind_apply]
  rcases (e.library d).load (name ++ extension) e.store with (_ | f) | ⟨_ | t, store⟩
  · rfl
  · rfl
  · rfl
  · simp only [Action.bind_apply, Action.set_apply]
    cases (e.library d).render store t.template names <;> rfl

namespace Shop

/-- A directory of templates with one file, which has the single byte 233: no text in UTF-8. -/
def disk : Disk :=
  { files := { entries := [(["t"], .directory), (["t", "page.jinja"], .file ⟨#[233]⟩)] } }

/-- An engine for the directory. -/
def engine : Engine :=
  { directories := [Path.ofString "/t"] }

end Shop

end Stencil.Engine
