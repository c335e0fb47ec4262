import Mathlib.Data.List.Find
import Mathlib.Data.List.Induction
import Stencil.Proofs.Action
import Stencil.Proofs.Files.Disk

namespace Stencil.Disk

/-!
# Creating directories and writing texts

When a directory is created with those that lead to it, nothing is lost: the disk gets new directories, and only at
places that the path passes on its way. This is also all that a failure leaves behind.

Texts are written one after another, each after the directories that lead to its path were created. A location that
some of these paths lead to has the last text that was written there, and everything else is as before, but for new
directories on the way of the paths. Several paths may lead to one location, and one path may lead through the
directories of another.

In a tree every entry stands in a directory, so there is nothing in a directory that is new. Where nothing else is new
below a location, the same files are found there as before, by the same names.

* `lead`, `place` — where names and paths lead, whatever stands there;
* `Above` — the places that a path passes;
* `Quiet`, `Grown` — a location, and a whole disk, has got nothing but new directories;
* `Prepared` — how the creation of directories ends;
* `prepared_of_makeDirectories` — it ends so, whether it succeeds or not;
* `Output`, `lastText` — texts with their paths, and the one that a location is left with;
* `Effect` — what writing texts does to a disk;
* `effect_write` — writing one text;
* `Effect.append` — writing more texts after others;
* `FileSystem.IsTree` — every entry stands in a directory;
* `QuietBelow`, `Effect.quietBelow` — nothing is new below a location, but for directories, and nothing is if texts are
  written elsewhere;
* `entry_file_iff` — the files below a quiet location are those that were there.
-/

/-! ### Places -/

/-- Where names lead from a location, whatever stands there. -/
def lead (from_ : Location) (names : List String) : Location :=
  names.foldl (fun l name => if name = ".." then l.dropLast else l ++ [name]) from_

/-- Where a path leads, whatever stands there. -/
def place (d : Disk) (p : Path) : Location :=
  lead (d.start p) p.parts

/-- The places that a path passes, with its end. -/
def Above (d : Disk) (p : Path) (l : Location) : Prop :=
  ∃ names, names <+: p.parts ∧ l = lead (d.start p) names

variable {d d₁ d' : Disk} {p : Path} {l : Location} {allowed allowed' : Location → Prop}

theorem walk_eq_lead {fs : FileSystem} {from_ : Location} {names : List String} (h : walk fs from_ names = .ok l) :
    l = lead from_ names := by
  induction names generalizing from_ with
  | nil =>
    cases h
    rfl
  | cons name names ih =>
    -- A walk may stop on its way, but where it goes on, it goes where the names lead.
    unfold walk at h
    rw [lead, List.foldl_cons]
    split at h
    · cases h
    · cases h
    · by_cases hup : name = ".."
      · rw [if_pos hup] at h ⊢
        exact ih h
      · rw [if_neg hup] at h ⊢
        split at h
        · cases h
        · exact ih h

theorem locate_eq_place (h : d.locate p = .ok l) : l = d.place p :=
  walk_eq_lead (locate_eq_ok.mp h).2

theorem above_place : d.Above p (d.place p) :=
  ⟨p.parts, List.prefix_rfl, rfl⟩

theorem Above.of_parent (h : d.Above p.parent l) : d.Above p l := by
  obtain ⟨names, hnames, rfl⟩ := h
  exact ⟨names, hnames.trans (List.dropLast_prefix p.parts), rfl⟩

theorem Extends.place (hd : Extends d d') (p : Path) : d'.place p = d.place p := by
  rw [Disk.place, Disk.place, hd.start]

theorem Extends.above (hd : Extends d d') (h : d'.Above p l) : d.Above p l := by
  obtain ⟨names, hnames, rfl⟩ := h
  exact ⟨names, hnames, by rw [hd.start]⟩

theorem entry_eq_ok {e : Entry} : d.entry p = .ok e ↔ ∃ l, d.locate p = .ok l ∧ d.files.get? l = some e := by
  unfold entry
  rcases hl : d.locate p with f | l
  · exact ⟨nofun, nofun⟩
  · rcases he : d.files.get? l with _ | e' <;> simp [bind, Except.bind, he]

theorem isDirectory_eq_true : d.isDirectory p = true ↔ ∃ l, d.locate p = .ok l ∧ d.files.get? l = some .directory := by
  rw [← entry_eq_ok, isDirectory]
  rcases d.entry p with f | _ | b <;> simp

theorem Extends.isDirectory (hd : Extends d d') (h : d.isDirectory p = true) : d'.isDirectory p = true := by
  obtain ⟨l, hl, hget⟩ := isDirectory_eq_true.mp h
  exact isDirectory_eq_true.mpr ⟨l, hd.locate hl, hd.directory l hget⟩

/-! ### Growth -/

/-- A location is as before; or it has got a directory where nothing was, if this is allowed. -/
def Quiet (allowed : Prop) (d d' : Disk) (l : Location) : Prop :=
  d'.files.get? l = d.files.get? l ∨ allowed ∧ d.files.get? l = none ∧ d'.files.get? l = some .directory

theorem Quiet.trans {P : Prop} (h : Quiet P d d₁ l) (h' : Quiet P d₁ d' l) : Quiet P d d' l := by
  rcases h' with hsame | ⟨hP, hnone, hdir⟩ <;> rcases h with hsame' | ⟨hP', hnone', hdir'⟩
  · exact .inl (hsame.trans hsame')
  · exact .inr ⟨hP', hnone', hsame.trans hdir'⟩
  · exact .inr ⟨hP, hsame' ▸ hnone, hdir⟩
  · rw [hdir'] at hnone
    cases hnone

theorem Quiet.mono {P Q : Prop} (h : Quiet P d d' l) (hmono : P → Q) : Quiet Q d d' l :=
  h.imp_right (And.imp_left hmono)

theorem Quiet.directory {P : Prop} (h : Quiet P d d' l) (hl : d.files.get? l = some .directory) :
    d'.files.get? l = some .directory := by
  rcases h with hsame | ⟨-, -, hdir⟩
  · exact hsame.trans hl
  · exact hdir

/-- No file is lost, changed or created. -/
theorem Quiet.file_iff {P : Prop} (h : Quiet P d d' l) {b : ByteArray} :
    d'.files.get? l = some (.file b) ↔ d.files.get? l = some (.file b) := by
  rcases h with hsame | ⟨-, hnone, hdir⟩
  · rw [hsame]
  · simp [hnone, hdir]

theorem Quiet.bytes? {P : Prop} (h : Quiet P d d' l) : d'.files.bytes? l = d.files.bytes? l := by
  unfold FileSystem.bytes?
  rcases h with hsame | ⟨-, hnone, hdir⟩
  · rw [hsame]
  · rw [hnone, hdir]

/-- A disk has got nothing but new directories, in the places that are allowed. -/
structure Grown (allowed : Location → Prop) (d d' : Disk) : Prop where
  current : d'.current = d.current
  runnable : d'.files.runnable = d.files.runnable
  quiet : ∀ l, Quiet (allowed l) d d' l

@[refl] theorem Grown.refl (allowed : Location → Prop) (d : Disk) : Grown allowed d d :=
  ⟨rfl, rfl, fun _ => .inl rfl⟩

theorem Grown.trans (h : Grown allowed d d₁) (h' : Grown allowed d₁ d') : Grown allowed d d' :=
  ⟨h'.current.trans h.current, h'.runnable.trans h.runnable, fun l => (h.quiet l).trans (h'.quiet l)⟩

theorem Grown.mono (h : Grown allowed d d') (hmono : ∀ l, allowed l → allowed' l) : Grown allowed' d d' :=
  ⟨h.current, h.runnable, fun l => (h.quiet l).mono (hmono l)⟩

theorem Grown.extends (h : Grown allowed d d') : Extends d d' :=
  ⟨h.current, fun l => (h.quiet l).directory⟩

/-- A new directory in a place where nothing is. -/
theorem grown_set (hget : d.files.get? l = none) (hallowed : allowed l) :
    Grown allowed d { d with files := d.files.set l .directory } where
  current := rfl
  runnable := rfl
  quiet l' := by
    by_cases hl : l' = l
    · subst hl
      exact .inr ⟨hallowed, hget, get?_set_self _ (by simp [hget])⟩
    · exact .inl (FileSystem.get?_set_of_ne d.files _ hl)

/-! ### Creating directories -/

/-- How the creation of the directories of a path ends: new directories are on its way, also where it fails; and if it
succeeds, the path leads to a directory. -/
structure Prepared (p : Path) (d : Disk) (r : Except Foreign Unit) (d' : Disk) : Prop where
  grown : Grown (d.Above p) d d'
  isDirectory : r = .ok () → d'.isDirectory p = true

theorem prepared_of_error (hgrown : Grown (d.Above p) d d') (f : Foreign) : Prepared p d (.error f) d' :=
  ⟨hgrown, nofun⟩

theorem makeDirectory_eq_ok (h : d.makeDirectory p = .ok d') :
    ∃ l, d.locate p = .ok l ∧ d.files.get? l = none ∧ d' = { d with files := d.files.set l .directory } := by
  unfold makeDirectory at h
  obtain ⟨l, hl, h⟩ := Action.except_bind_eq_ok.mp h
  rcases hget : d.files.get? l with _ | e <;> rw [hget] at h
  · cases h
    exact ⟨l, hl, hget, rfl⟩
  · cases h

/-- After a directory is ensured, it is there; it is the only one that may be new. -/
theorem prepared_of_ensureDirectory (h : d.ensureDirectory p = .ok d') : Prepared p d (.ok ()) d' := by
  unfold ensureDirectory at h
  split at h
  · rename_i d₁ hmake
    cases h
    obtain ⟨l, hl, hget, rfl⟩ := makeDirectory_eq_ok hmake
    have hgrown : Grown (d.Above p) d { d with files := d.files.set l .directory } :=
      grown_set hget (locate_eq_place hl ▸ above_place)
    have hnew : (d.files.set l .directory).get? l = some .directory := get?_set_self _ (by simp [hget])
    exact ⟨hgrown, fun _ => isDirectory_eq_true.mpr ⟨l, hgrown.extends.locate hl, hnew⟩⟩
  · split at h
    · rename_i hdir
      cases h
      exact ⟨.refl _ _, fun _ => (Bool.and_eq_true_iff.mp hdir).2⟩
    · cases h
  · cases h

theorem ensureOr_apply {otherwise : ExceptT Foreign (StateM Disk) Unit} : ensureOr p otherwise d =
    match d.ensureDirectory p with
    | .ok d' => (.ok (), d')
    | .error (.file .missing) => otherwise d
    | .error f => (.error f, d) := by
  rw [ensureOr, Action.get_bind_apply]
  rcases d.ensureDirectory p with f | d'
  · cases f with
    | file f => cases f <;> rfl
    | _ => rfl
  · rfl

variable {r : Except Foreign Unit}

theorem prepared_of_ensureOr {otherwise : ExceptT Foreign (StateM Disk) Unit}
    (hotherwise : ∀ r' d₁, otherwise d = (r', d₁) → Prepared p d r' d₁) (h : ensureOr p otherwise d = (r, d')) :
    Prepared p d r d' := by
  rw [ensureOr_apply] at h
  split at h
  · rename_i hensure
    cases h
    exact prepared_of_ensureDirectory hensure
  · exact hotherwise r d' h
  · cases h
    exact prepared_of_error (.refl _ _) _

theorem prepared_of_throw {f : Foreign} (h : (throw f : ExceptT Foreign (StateM Disk) Unit) d = (r, d')) :
    Prepared p d r d' := by
  cases h
  exact prepared_of_error (.refl _ _) f

theorem prepared_of_makeDirectoriesUpTo {depth : Nat} (h : makeDirectoriesUpTo depth p d = (r, d')) :
    Prepared p d r d' := by
  -- The directories above come first; what they have changed lies on the way of the path, too.
  induction depth generalizing p r d' with
  | zero => exact prepared_of_ensureOr (fun r' d₁ h' => prepared_of_throw h') h
  | succ depth ih =>
    refine prepared_of_ensureOr (fun r' d₂ h' => ?_) h
    split at h'
    · exact prepared_of_throw h'
    · rcases Action.bind_eq.mp h' with ⟨f, hparent, rfl⟩ | ⟨_, d₁, hparent, hlast⟩
      · exact prepared_of_error ((ih hparent).grown.mono fun l => Above.of_parent) f
      · have hgrown : Grown (d.Above p) d d₁ := (ih hparent).grown.mono fun l => Above.of_parent
        have hprepared := prepared_of_ensureOr (fun r' d₃ h₃ => prepared_of_throw h₃) hlast
        exact ⟨hgrown.trans (hprepared.grown.mono fun l => hgrown.extends.above), hprepared.isDirectory⟩

theorem prepared_of_makeDirectories (h : makeDirectories p d = (r, d')) : Prepared p d r d' :=
  prepared_of_makeDirectoriesUpTo h

/-! ### Texts that are written -/

/-- A text that is written to a path. -/
structure Output where
  path : Path
  text : String

/-- Whether a path leads to a location. -/
def leadsTo (d : Disk) (l : Location) (p : Path) : Bool :=
  match d.locate p with
  | .ok l' => l' == l
  | .error _ => false

/-- The last of some texts whose path leads to a location. -/
def lastText (d : Disk) (outputs : List Output) (l : Location) : Option String :=
  (outputs.reverse.find? fun o => d.leadsTo l o.path).map (·.text)

/-- What writing texts does to a disk: their paths lead to files in directories that are there, a location that one of
them leads to has the last text that was written to it, and nothing else is new but directories that lead to the
paths. -/
structure Effect (outputs : List Output) (d d' : Disk) : Prop where
  kept : Extends d d'
  runnable : d'.files.runnable = d.files.runnable
  located : ∀ o ∈ outputs, (∃ l, d'.locate o.path = .ok l) ∧ d'.isDirectory o.path.parent = true
  written : ∀ l text, lastText d' outputs l = some text → d'.files.get? l = some (.file text.toUTF8)
  others : ∀ l, lastText d' outputs l = none → Quiet (∃ o ∈ outputs, d.Above o.path.parent l) d d' l

variable {outputs before after : List Output}

/-! ### The last text -/

theorem leadsTo_eq_true : d.leadsTo l p = true ↔ d.locate p = .ok l := by
  unfold leadsTo
  cases d.locate p <;> simp

theorem lastText_eq_none : lastText d outputs l = none ↔ ∀ o ∈ outputs, d.locate o.path ≠ .ok l := by
  simp [lastText, leadsTo_eq_true]

theorem lastText_singleton {o : Output} {l₀ : Location} (h : d.locate o.path = .ok l₀) :
    lastText d [o] l = if l₀ = l then some o.text else none := by
  have hleads : d.leadsTo l o.path = (l₀ == l) := by rw [leadsTo, h]
  by_cases hl : l₀ = l <;> simp [lastText, hleads, hl]

/-- What is written later counts. -/
theorem lastText_append : lastText d (before ++ after) l = (lastText d after l).or (lastText d before l) := by
  rw [lastText, List.reverse_append, List.find?_append, Option.map_or]
  rfl

/-- Where all the paths lead somewhere, a disk with more directories makes no difference. -/
theorem Extends.lastText (hd : Extends d d') (h : ∀ o ∈ outputs, ∃ l, d.locate o.path = .ok l) (l : Location) :
    lastText d' outputs l = lastText d outputs l := by
  have hleads : ∀ o ∈ outputs.reverse, d'.leadsTo l o.path = d.leadsTo l o.path := fun o ho => by
    obtain ⟨l₀, hl₀⟩ := h o (List.mem_reverse.mp ho)
    rw [leadsTo, leadsTo, hl₀, hd.locate hl₀]
  rw [Disk.lastText, Disk.lastText, List.find?_congr hleads]

/-! ### Effects -/

theorem Effect.nil (d : Disk) : Effect [] d d where
  kept := .refl d
  runnable := rfl
  located := nofun
  written := nofun
  others _ _ := .inl rfl

/-- Writing a text after its directories were created. -/
theorem effect_write {text : String} (hgrown : Grown (d.Above p.parent) d d₁)
    (hdir : d₁.isDirectory p.parent = true) (h : d₁.write p text.toUTF8 = .ok d') : Effect [⟨p, text⟩] d d' := by
  obtain ⟨l, hl, hget, rfl⟩ := write_eq_ok h
  have hset : Extends d₁ { d₁ with files := d₁.files.set l (.file text.toUTF8) } := extends_set _ hget
  refine ⟨hgrown.extends.trans hset, hgrown.runnable, ?_, ?_, ?_⟩
  · intro o ho
    obtain rfl := List.mem_singleton.mp ho
    exact ⟨⟨l, hset.locate hl⟩, hset.isDirectory hdir⟩
  · intro l' text' hlast
    rw [lastText_singleton (hset.locate hl)] at hlast
    split at hlast
    · rename_i hsame
      subst hsame
      obtain rfl := Option.some.inj hlast
      exact get?_set_self _ hget
    · cases hlast
  · intro l' hlast
    rw [lastText_singleton (hset.locate hl)] at hlast
    split at hlast
    · cases hlast
    · rename_i hother
      have hquiet : Quiet (d.Above p.parent l') d₁ { d₁ with files := d₁.files.set l (.file text.toUTF8) } l' :=
        .inl (FileSystem.get?_set_of_ne d₁.files _ (Ne.symm hother))
      exact ((hgrown.quiet l').trans hquiet).mono fun habove => ⟨_, List.mem_singleton_self _, habove⟩

/-- Writing more texts after others. -/
theorem Effect.append (h : Effect before d d₁) (h' : Effect after d₁ d') : Effect (before ++ after) d d' := by
  -- Paths that led to a place still do after more has been written, so the earlier texts are found there.
  have hbefore : ∀ l, lastText d' before l = lastText d₁ before l :=
    h'.kept.lastText fun o ho => (h.located o ho).1
  refine ⟨h.kept.trans h'.kept, h'.runnable.trans h.runnable, ?_, ?_, ?_⟩
  · intro o ho
    rcases List.mem_append.mp ho with ho | ho
    · obtain ⟨⟨l, hl⟩, hdir⟩ := h.located o ho
      exact ⟨⟨l, h'.kept.locate hl⟩, h'.kept.isDirectory hdir⟩
    · exact h'.located o ho
  · intro l text hl
    rw [lastText_append, hbefore] at hl
    rcases hlast : lastText d' after l with _ | text'
    · rw [hlast, Option.none_or] at hl
      exact (h'.others l hlast).file_iff.mpr (h.written l text hl)
    · rw [hlast, Option.some_or] at hl
      obtain rfl := Option.some.inj hl
      exact h'.written l text' hlast
  · intro l hl
    rw [lastText_append, hbefore, Option.or_eq_none_iff] at hl
    refine ((h.others l hl.2).mono ?_).trans ((h'.others l hl.1).mono ?_)
    · exact fun ⟨o, ho, habove⟩ => ⟨o, List.mem_append_left _ ho, habove⟩
    · exact fun ⟨o, ho, habove⟩ => ⟨o, List.mem_append_right _ ho, h.kept.above habove⟩

end Stencil.Disk

namespace Stencil

/-! ### Trees -/

/-- Every entry stands in a directory. -/
def FileSystem.IsTree (fs : FileSystem) : Prop :=
  ∀ l, fs.get? l ≠ none → fs.get? l.dropLast = some .directory

/-- All that leads to an entry is a directory. -/
theorem FileSystem.IsTree.directory_of_append {fs : FileSystem} (h : fs.IsTree) {l : Location} {names : List String}
    (hnames : names ≠ []) (hget : fs.get? (l ++ names) ≠ none) : fs.get? l = some .directory := by
  induction names using List.reverseRecOn with
  | nil => exact absurd rfl hnames
  | append_singleton names name ih =>
    have hdir : fs.get? (l ++ names) = some .directory := by
      have hup := h _ hget
      rwa [← List.append_assoc, List.dropLast_concat] at hup
    cases names with
    | nil => rwa [List.append_nil] at hdir
    | cons _ _ => exact ih (List.cons_ne_nil _ _) (by simp [hdir])

/-- It is enough to look at the entries. -/
theorem FileSystem.isTree_of_entries {fs : FileSystem}
    (h : ∀ entry ∈ fs.entries, fs.get? entry.1.dropLast = some .directory) : fs.IsTree := by
  intro l hl
  by_cases hroot : l = []
  · rw [hroot]
    rfl
  · rw [get?, if_neg hroot] at hl
    obtain ⟨e, he⟩ := Option.ne_none_iff_exists'.mp hl
    obtain ⟨before, after, hentries, -⟩ := List.lookup_eq_some_iff.mp he
    exact h (l, e) (by simp [hentries])

namespace Disk

/-- Below a location nothing is new, but for directories. -/
def QuietBelow (d d' : Disk) (l : Location) : Prop :=
  ∀ l', l <+: l' → Quiet True d d' l'

variable {d d' : Disk} {fs fs' : FileSystem} {from_ l : Location} {names : List String}

/-- Texts that are written elsewhere leave a location quiet, also where directories are created for them. -/
theorem Effect.quietBelow {outputs : List Output} (h : Effect outputs d d')
    (houtside : ∀ o ∈ outputs, ¬ l <+: d.place o.path) : QuietBelow d d' l := by
  intro l' hl'
  have hnone : lastText d' outputs l' = none := by
    rw [lastText_eq_none]
    intro o ho hlocate
    have hplace : l' = d.place o.path := (locate_eq_place hlocate).trans (h.kept.place o.path)
    exact houtside o ho (hplace ▸ hl')
  exact (h.others l' hnone).mono fun _ => trivial

theorem isFile_eq_true {p : Path} : d.isFile p = true ↔ ∃ b, d.entry p = .ok (.file b) := by
  unfold isFile
  rcases d.entry p with f | _ | b <;> simp

theorem readText_congr {p : Path} (h : d'.entry p = d.entry p) : d'.readText p = d.readText p := by
  rw [readText, readText, read, read, h]

/-! ### Following names -/

theorem walk_append (names' : List String) :
    walk fs from_ (names ++ names') = walk fs from_ names >>= fun l => walk fs l names' := by
  induction names generalizing from_ with
  | nil => rfl
  | cons name names ih =>
    rw [List.cons_append, walk, walk]
    rcases fs.get? from_ with _ | _ | b
    · rfl
    · dsimp only
      split
      · exact ih
      · split
        · rfl
        · exact ih
    · rfl

theorem lead_eq_append (h : ".." ∉ names) : lead from_ names = from_ ++ names := by
  induction names generalizing from_ with
  | nil => rw [List.append_nil, lead, List.foldl_nil]
  | cons name names ih =>
    rw [List.mem_cons, not_or] at h
    rw [lead, List.foldl_cons, if_neg (Ne.symm h.1), ← lead, ih h.2, List.append_assoc, List.singleton_append]

/-- Names that lead somewhere in another file system lead there in a tree, if something is there. -/
theorem walk_of_walk (htree : fs.IsTree) (hup : ".." ∉ names) (h : walk fs' from_ names = .ok l)
    (hget : fs.get? l ≠ none) : walk fs from_ names = .ok l := by
  have hl : l = from_ ++ names := (walk_eq_lead h).trans (lead_eq_append hup)
  subst hl
  induction names generalizing from_ with
  | nil =>
    rw [List.append_nil]
    rfl
  | cons name names ih =>
    rw [List.mem_cons, not_or] at hup
    -- In a tree, all that is above an entry is a directory, so every step of the walk is possible.
    have hdir : fs.get? from_ = some .directory := htree.directory_of_append (List.cons_ne_nil _ _) hget
    rw [List.append_cons] at h hget ⊢
    unfold walk at h ⊢
    rw [hdir]
    rw [if_neg (Ne.symm hup.1)] at h ⊢
    split at h
    · cases h
    · cases h
    · by_cases hlong : name.utf8ByteSize > maxNameLength
      · rw [if_pos hlong] at h
        cases h
      · rw [if_neg hlong] at h ⊢
        exact ih hup.2 h hget

/-- A path below another leads on from where that one leads. -/
theorem locate_append {dir : Path} {l' : Location} (hdir : d.locate dir = .ok l) :
    d.locate { dir with parts := dir.parts ++ names } = .ok l' ↔
      Followed { dir with parts := dir.parts ++ names } ∧ walk d.files l names = .ok l' := by
  have hwalk : walk d.files (d.start { dir with parts := dir.parts ++ names }) (dir.parts ++ names) =
      walk d.files l names := by
    rw [walk_append]
    show walk d.files (d.start dir) dir.parts >>= _ = _
    rw [(locate_eq_ok.mp hdir).2]
    rfl
  rw [locate_eq_ok, hwalk]

/-- The files below a quiet location are those that were there. -/
theorem entry_file_iff (htree : d.files.IsTree) (hd : Extends d d') {dir : Path} (hdir : d.locate dir = .ok l)
    (hquiet : QuietBelow d d' l) (hup : ".." ∉ names) {b : ByteArray} :
    d'.entry { dir with parts := dir.parts ++ names } = .ok (.file b) ↔
      d.entry { dir with parts := dir.parts ++ names } = .ok (.file b) := by
  have hbelow : ∀ {fs : FileSystem} {l' : Location}, walk fs l names = .ok l' → l <+: l' := fun h =>
    ⟨names, ((walk_eq_lead h).trans (lead_eq_append hup)).symm⟩
  rw [entry_eq_ok, entry_eq_ok]
  constructor
  · rintro ⟨l', hl', hfile⟩
    obtain ⟨hfollowed, hwalk⟩ := (locate_append (hd.locate hdir)).mp hl'
    have hget : d.files.get? l' = some (.file b) := (hquiet l' (hbelow hwalk)).file_iff.mp hfile
    have hwalk' : walk d.files l names = .ok l' := walk_of_walk htree hup hwalk (by simp [hget])
    exact ⟨l', (locate_append hdir).mpr ⟨hfollowed, hwalk'⟩, hget⟩
  · rintro ⟨l', hl', hfile⟩
    exact ⟨l', hd.locate hl', (hquiet l' (hbelow ((locate_append hdir).mp hl').2)).file_iff.mpr hfile⟩

end Disk

end Stencil
