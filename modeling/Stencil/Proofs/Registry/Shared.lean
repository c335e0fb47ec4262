import Mathlib.Data.List.Induction
import Mathlib.Data.List.Infix
import Mathlib.Logic.Function.Basic
import Stencil.Proofs.Registry.Calls

namespace Stencil.Registry

/-!
# Registries on the same file

A registry is a snapshot of its file, taken when it is opened, and a change writes all of it. So several registries on
the same file do not add up: the file lists what the registry does that was changed last, and what others have added
since that one was opened is gone. Who is to keep an entry must have read it, or made it.

* `Shared`, `Shared.perform`, `Shared.after` — registries of several holders on one file, and their calls in turn;
* `Call.get?_perform` — a call keeps all entries but those that it is about;
* `Shared.Changes.listed`, `Shared.listed_after` — the file lists what was changed last, until the next change;
* `Shared.Known`, `Shared.Known.perform`, `Shared.Known.after` — an entry stays as long as those who know it spare it,
  and nobody else makes changes;
* `Shared.last_change_wins` — both, along every run.
-/

/-! ### What a call is about -/

section Shared

variable {asked : Option String} {s : Session} {c : Call} {name : String}

/-- A change is made whether it can be written or not. -/
theorem registry_change (f : OrderedMap String → OrderedMap String) (message : String) (s : Session) :
    (change f message s).2.registry = { s.registry with profiles := f s.registry.profiles } := by
  rcases change_ended f message s with ⟨d, -, hs⟩ | ⟨e, -, hs⟩
  · rw [hs]
    rfl
  · rw [hs]

theorem registry_add {given path : String} {isDefault : Bool} {file : Path}
    (hentry : entryFor s.workspace given path isDefault = .ok (name, file)) :
    (add given path isDefault s).2.registry =
      { s.registry with profiles := s.registry.profiles.put name file.toString } := by
  have hregistry := registry_change (·.put name file.toString)
    ("Added profile '" ++ name ++ "' from " ++ file.toString) s
  rw [add_of_entry hentry, Action.bind_apply]
  split
  all_goals
    rename_i hs
    rw [hs] at hregistry
    exact hregistry

theorem registry_remove (hmem : name ∈ s.registry.profiles.keys) :
    (remove name s).2.registry = { s.registry with profiles := s.registry.profiles.erase name } := by
  rw [remove_of_mem hmem]
  exact registry_change _ _ s

/-- A call is about a name: it adds a profile under this name or removes it. -/
def Call.Concerns (w : Workspace) (name : String) : Call → Prop
  | .add given path isDefault => ∃ file, entryFor w given path isDefault = .ok (name, file)
  | .remove other => other = name
  | .reopen => False

/-- A call that is not about a name keeps the entry of the name, however it ends. -/
theorem Call.get?_perform (hc : c ≠ .reopen) (h : ¬ c.Concerns s.workspace name) :
    (c.perform asked s).2.registry.profiles.get? name = s.registry.profiles.get? name := by
  -- A call changes the entry that it is about, whether the change is written or not, and leaves the others.
  cases c with
  | add given path isDefault =>
    rw [perform, Action.map_apply]
    dsimp only
    cases hentry : entryFor s.workspace given path isDefault with
    | error f => rw [add_of_error hentry]
    | ok entry =>
      obtain ⟨other, file⟩ := entry
      have hne : name ≠ other := by
        rintro rfl
        exact h ⟨file, hentry⟩
      rw [registry_add hentry]
      exact OrderedMap.get?_put_of_ne _ _ hne
  | remove other =>
    have hregistry : (perform asked (.remove other) s).2 = (Registry.remove other s).2 := by
      rw [perform, Action.bind_apply]
      rcases Registry.remove other s with ⟨_ | _, s'⟩ <;> rfl
    rw [hregistry]
    by_cases hmem : other ∈ s.registry.profiles.keys
    · rw [registry_remove hmem]
      exact OrderedMap.get?_erase_of_ne _ (Ne.symm h)
    · rw [remove_of_not_mem hmem]
  | reopen => exact absurd rfl hc

/-! ### Registries on the same file -/

/-- Registries on one file, each as its holder has it in memory. Who has not opened the file yet holds none. -/
structure Shared (ι : Type) where
  workspace : Workspace
  held : ι → Option Registry

namespace Shared

variable {ι : Type}

/-- No registry has been opened yet. -/
def start (w : Workspace) : Shared ι where
  workspace := w
  held _ := none

variable [DecidableEq ι]

/-- A holder has got to the end of a call on its own registry. -/
def hold (s : Shared ι) (i : ι) (own : Session) : Shared ι where
  workspace := own.workspace
  held := Function.update s.held i (some own.registry)

/-- A holder does a call on the registry that it holds; to open one, it need not hold any. -/
def perform (asked : Option String) (i : ι) (c : Call) : Action (Shared ι) (Option String) := fun s =>
  match c, s.held i with
  | .reopen, _ =>
    match ofFile asked s.workspace with
    | (.ok r, w) => (.ok none, s.hold i ⟨w, r⟩)
    | (.error f, w) => (.error f, { s with workspace := w })
  | c, some r =>
    match c.perform asked ⟨s.workspace, r⟩ with
    | (res, own) => (res, s.hold i own)
  | _, none => (.error (.foreign .unexpected), s)

/-- The state after calls of several holders in turn, each of which may fail. -/
def after (asked : Option String) (steps : List (ι × Call)) (s : Shared ι) : Shared ι :=
  steps.foldl (fun s step => (perform asked step.1 step.2 s).2) s

/-- What a call of a holder can do. -/
inductive Stepped (asked : Option String) (s : Shared ι) (i : ι) : Call → Except Fault (Option String) → Shared ι → Prop
  /-- the registry is not opened yet -/
  | idle (c : Call) (f : Fault) : Stepped asked s i c (.error f) s
  | opened {r : Registry} {w : Workspace} : ofFile asked s.workspace = (.ok r, w) →
    Stepped asked s i .reopen (.ok none) (s.hold i ⟨w, r⟩)
  | unopened {f : Fault} {w : Workspace} : ofFile asked s.workspace = (.error f, w) →
    Stepped asked s i .reopen (.error f) { s with workspace := w }
  | called {c : Call} {res : Except Fault (Option String)} {r : Registry} {own : Session} : c ≠ .reopen →
    s.held i = some r → c.perform asked ⟨s.workspace, r⟩ = (res, own) → Stepped asked s i c res (s.hold i own)

variable {s s' : Shared ι} {i j : ι} {r : Registry} {res : Except Fault (Option String)}

theorem held_hold {own : Session} :
    (s.hold i own).held j = some r ↔ (j = i ∧ own.registry = r) ∨ (j ≠ i ∧ s.held j = some r) := by
  by_cases h : j = i
  · subst h
    simp [hold]
  · simp [hold, h]

theorem stepped (h : perform asked i c s = (res, s')) : Stepped asked s i c res s' := by
  unfold perform at h
  split at h
  · split at h
    · cases h
      exact .opened ‹_›
    · cases h
      exact .unopened ‹_›
  · rename_i hc hheld
    cases h
    exact .called hc hheld rfl
  · cases h
    exact .idle _ _

/-- Every registry belongs to the file, and lists every name once. -/
def Grounded (asked : Option String) (s : Shared ι) : Prop :=
  ∀ i r, s.held i = some r → Registry.Grounded asked ⟨s.workspace, r⟩

theorem Stepped.environment_eq (h : Stepped asked s i c res s') :
    s'.workspace.environment = s.workspace.environment := by
  cases h with
  | idle => rfl
  | opened ho => exact (ofFile_ended ho).1
  | unopened ho => exact (ofFile_ended ho).1
  | called _ _ h => exact (Call.ended h).environment_eq

theorem Grounded.stepped (hg : Grounded asked s) (h : Stepped asked s i c res s') : Grounded asked s' := by
  intro j r hj
  -- A registry that has not been touched belongs to the file as before.
  have hother : ∀ {r}, s.held j = some r → Registry.Grounded asked ⟨s'.workspace, r⟩ := fun hr =>
    ⟨(fileOf_congr h.environment_eq).trans (hg j _ hr).file, (hg j _ hr).nodup⟩
  cases h with
  | idle => exact hg j r hj
  | opened ho =>
    obtain ⟨-, rfl⟩ | ⟨-, hj⟩ := held_hold.mp hj
    · exact (Registry.opened ho).1
    · exact hother hj
  | unopened ho => exact hother hj
  | called _ hheld h =>
    obtain ⟨rfl, rfl⟩ | ⟨-, hj⟩ := held_hold.mp hj
    · exact (hg j _ hheld).ended (Call.ended h)
    · exact hother hj

theorem after_append_singleton (asked : Option String) (done : List (ι × Call)) (i : ι) (c : Call) (s : Shared ι) :
    after asked (done ++ [(i, c)]) s = (perform asked i c (after asked done s)).2 := by
  rw [after, List.foldl_append]
  rfl

theorem Grounded.after (hg : Grounded asked s) (steps : List (ι × Call)) : Grounded asked (after asked steps s) := by
  induction steps using List.reverseRecOn with
  | nil => exact hg
  | append_singleton done step ih =>
    rw [after_append_singleton]
    exact ih.stepped (Shared.stepped rfl)

/-! #### The last change -/

/-- A call makes a change and writes it. -/
def Changes (asked : Option String) (s : Shared ι) (i : ι) (c : Call) : Prop :=
  c ≠ .reopen ∧ ∃ added, (perform asked i c s).1 = .ok added

/-- As long as the file can be read, a call that changes nothing leaves it as it is. -/
theorem workspace_perform {r : Registry} (hr : ofFile asked s.workspace = (.ok r, s.workspace))
    (h : ¬ Changes asked s i c) : (perform asked i c s).2.workspace = s.workspace := by
  have hstepped : Stepped asked s i c (perform asked i c s).1 (perform asked i c s).2 := stepped rfl
  have hres : ∀ added, c ≠ .reopen → (perform asked i c s).1 ≠ .ok added := fun added hc hadded => h ⟨hc, added, hadded⟩
  generalize (perform asked i c s).1 = res, (perform asked i c s).2 = s' at hstepped hres ⊢
  cases hstepped with
  | idle => rfl
  | opened ho => exact congrArg Prod.snd (ho.symm.trans hr)
  | unopened ho => exact congrArg Prod.snd (ho.symm.trans hr)
  | called hc _ h =>
    cases Call.ended h with
    | refused => rfl
    | added => exact absurd rfl (hres _ hc)
    | removed => exact absurd rfl (hres _ hc)
    | unsaved => rfl
    | reopened => exact absurd rfl hc
    | unopened => exact absurd rfl hc

/-- After a change, the file lists what the registry does that was changed. -/
theorem Changes.listed (hg : Grounded asked s) (h : Changes asked s i c) :
    ∃ r, (perform asked i c s).2.held i = some r ∧ (Legible r.profiles →
      ofFile asked (perform asked i c s).2.workspace = (.ok r, (perform asked i c s).2.workspace)) := by
  obtain ⟨hc, added, hadded⟩ := h
  have hstepped : Stepped asked s i c (perform asked i c s).1 (perform asked i c s).2 := stepped rfl
  rw [hadded] at hstepped
  generalize (perform asked i c s).2 = s' at hstepped ⊢
  cases hstepped with
  | opened => exact absurd rfl hc
  | called _ hheld h =>
    refine ⟨_, held_hold.mpr (.inl ⟨rfl, rfl⟩), fun hl => ?_⟩
    have hown := hg i _ hheld
    cases Call.ended h with
    | added message _ hw => exact kept_changed hown message (OrderedMap.nodup_keys_put hown.nodup _ _) hl hw
    | removed message _ hw => exact kept_changed hown message (nodup_keys_erase hown.nodup _) hl hw
    | reopened => exact absurd rfl hc

/-- Until there is another change, the file lists the same. -/
theorem listed_after (hr : ofFile asked s.workspace = (.ok r, s.workspace)) {later : List (ι × Call)}
    (h : ∀ done j c, done ++ [(j, c)] <+: later → ¬ Changes asked (after asked done s) j c) :
    ofFile asked (after asked later s).workspace = (.ok r, (after asked later s).workspace) := by
  induction later using List.reverseRecOn with
  | nil => exact hr
  | append_singleton done step ih =>
    have hlisted := ih fun _ j c hp => h _ j c (hp.trans (List.prefix_append done [step]))
    rw [after_append_singleton, workspace_perform hlisted (h _ _ _ (List.prefix_refl _))]
    exact hlisted

/-! #### A profile that was added -/

/-- The file lists a profile, and some holders have it in their registries. -/
structure Known (asked : Option String) (name path : String) (informed : ι → Prop) (s : Shared ι) : Prop where
  listed : ∃ r, ofFile asked s.workspace = (.ok r, s.workspace) ∧ r.profiles.get? name = some path
  held : ∀ j, informed j → ∃ r, s.held j = some r ∧ r.profiles.get? name = some path

/-- A call does not touch a name that its holder may be informed of. -/
structure Spares (asked : Option String) (name : String) (informed : Prop) (s : Shared ι) (i : ι) (c : Call) : Prop where
  /-- who is informed does not add or remove the name, except by bad input -/
  untouched : informed → c.Concerns s.workspace name →
    ∃ message invalid, (perform asked i c s).1 = .error (.validation message invalid)
  /-- who is not informed writes nothing -/
  written : Changes asked s i c → informed

variable {path : String} {informed : ι → Prop}

/-- The entry of a name stays in the registry of a holder who does not touch the name. -/
theorem get?_held_perform (hc : c ≠ .reopen) (hr : s.held i = some r)
    (h : c.Concerns s.workspace name → ∃ message invalid, (perform asked i c s).1 = .error (.validation message invalid)) :
    ∃ r', (perform asked i c s).2.held i = some r' ∧ r'.profiles.get? name = r.profiles.get? name := by
  have hstepped : Stepped asked s i c (perform asked i c s).1 (perform asked i c s).2 := stepped rfl
  generalize (perform asked i c s).1 = res, (perform asked i c s).2 = s' at hstepped h ⊢
  cases hstepped with
  | idle => exact ⟨r, hr, rfl⟩
  | opened => exact absurd rfl hc
  | unopened => exact absurd rfl hc
  | called _ hheld hown =>
    obtain rfl := Option.some.inj (hr.symm.trans hheld)
    refine ⟨_, held_hold.mpr (.inl ⟨rfl, rfl⟩), ?_⟩
    by_cases hconcerns : c.Concerns s.workspace name
    · obtain ⟨message, invalid, rfl⟩ := h hconcerns
      -- Bad input does nothing at all.
      cases Call.ended hown with
      | refused => rfl
      | unsaved hf => cases hf
      | unopened => exact absurd rfl hc
    · have hget : (c.perform asked ⟨s.workspace, r⟩).2.registry.profiles.get? name = r.profiles.get? name :=
        Call.get?_perform hc hconcerns
      rwa [hown] at hget

theorem Stepped.held_of_ne (h : Stepped asked s i c res s') (hj : j ≠ i) : s'.held j = s.held j := by
  cases h with
  | idle => rfl
  | opened => exact Function.update_of_ne hj _ _
  | unopened => rfl
  | called => exact Function.update_of_ne hj _ _

/-- What is opened lists what the file does. -/
theorem held_perform_reopen (hr : ofFile asked s.workspace = (.ok r, s.workspace)) :
    (perform asked i .reopen s).2.held i = some r := by
  rw [perform, hr]
  exact Function.update_self _ _ _

theorem Known.perform (hg : Grounded asked s) (hk : Known asked name path informed s)
    (h : Spares asked name (informed i) s i c)
    (hl : ∀ r, (perform asked i c s).2.held i = some r → Legible r.profiles) :
    Known asked name path (fun j => informed j ∨ (j = i ∧ c = .reopen)) (perform asked i c s).2 := by
  have hstepped : Stepped asked s i c (Shared.perform asked i c s).1 (Shared.perform asked i c s).2 := stepped rfl
  obtain ⟨r, hr, hpath⟩ := hk.listed
  -- A holder who is informed spares the name, so the entry stays in the registry that it holds.
  have hown : c ≠ .reopen → informed i →
      ∃ r', (Shared.perform asked i c s).2.held i = some r' ∧ r'.profiles.get? name = some path := fun hc hi => by
    obtain ⟨r₀, hheld, hpath₀⟩ := hk.held i hi
    obtain ⟨r', hr', hget⟩ := get?_held_perform hc hheld (h.untouched hi)
    exact ⟨r', hr', hget.trans hpath₀⟩
  constructor
  · by_cases hchanges : Changes asked s i c
    · obtain ⟨r', hr', hlisted⟩ := hchanges.listed hg
      obtain ⟨r'', hr'', hpath'⟩ := hown hchanges.1 (h.written hchanges)
      obtain rfl := Option.some.inj (hr'.symm.trans hr'')
      exact ⟨r', hlisted (hl r' hr'), hpath'⟩
    · rw [workspace_perform hr hchanges]
      exact ⟨r, hr, hpath⟩
  · intro j hj
    by_cases hji : j = i
    · subst hji
      by_cases hc : c = .reopen
      · subst hc
        exact ⟨r, held_perform_reopen hr, hpath⟩
      · exact hown hc (hj.resolve_right fun h => hc h.2)
    · rw [hstepped.held_of_ne hji]
      exact hk.held j (hj.resolve_right fun h => hji h.1)

/-- Who has opened the file after an addition is informed of it, as is who made it. -/
theorem Known.after (hg : Grounded asked s) (hk : Known asked name path (· = i) s) {later : List (ι × Call)}
    (hl : ∀ done, done <+: later → ∀ j r, (after asked done s).held j = some r → Legible r.profiles)
    (h : ∀ done j c, done ++ [(j, c)] <+: later →
      Spares asked name (j = i ∨ (j, .reopen) ∈ done) (after asked done s) j c) :
    Known asked name path (fun j => j = i ∨ (j, .reopen) ∈ later) (after asked later s) := by
  -- The induction is from the end: the last step finds informed who has opened the file in one before it.
  induction later using List.reverseRecOn with
  | nil => simpa [Shared.after] using hk
  | append_singleton done step ih =>
    obtain ⟨j, c⟩ := step
    have hpre : done <+: done ++ [(j, c)] := List.prefix_append done _
    have hdone := ih (fun _ hp => hl _ (hp.trans hpre)) fun _ j c hp => h _ j c (hp.trans hpre)
    have hstep := hdone.perform (hg.after done) (h done j c (List.prefix_refl _)) fun r hr =>
      hl _ (List.prefix_refl _) j r ((after_append_singleton asked done j c s).symm ▸ hr)
    have hinformed : (fun k => k = i ∨ (k, Call.reopen) ∈ done ++ [(j, c)]) =
        fun k => (k = i ∨ (k, Call.reopen) ∈ done) ∨ (k = j ∧ c = .reopen) := by
      funext k
      simp [or_assoc, eq_comm]
    rw [after_append_singleton, hinformed]
    exact hstep

/-- Who adds a profile is informed of it, and the file lists it. -/
theorem known_of_add (hg : Grounded asked s) {given path : String} {isDefault : Bool}
    (h : perform asked i (.add given path isDefault) s = (.ok (some name), s'))
    (hl : ∀ r, s'.held i = some r → Legible r.profiles) :
    ∃ file, entryFor s.workspace given path isDefault = .ok (name, file) ∧
      Known asked name file.toString (· = i) s' := by
  have hchanges : Changes asked s i (.add given path isDefault) := ⟨nofun, some name, by rw [h]⟩
  obtain ⟨r, hr, hlisted⟩ := hchanges.listed hg
  rw [h] at hr hlisted
  cases stepped h with
  | called _ hheld hown =>
    cases Call.ended hown with
    | @added _ _ _ _ file _ _ hentry _ =>
      have hget : r.profiles.get? name = some file.toString := by
        obtain rfl := (held_hold.mp hr).resolve_right (fun h => h.1 rfl) |>.2
        exact OrderedMap.get?_put_self _ _ _
      refine ⟨file, hentry, ⟨r, hlisted (hl r hr), hget⟩, ?_⟩
      rintro j rfl
      exact ⟨r, hr, hget⟩

/-- **The last change wins.** Several holders open registries on one file, add profiles and remove them in turn, whether
any of this fails or not. After a change, the file lists what the registry does that was changed, and all that is opened
until the next change lists this and nothing else; so what other holders have added is lost if it is not there. A profile
that was added stays listed as long as nobody who is informed of it touches its name, and nobody else makes changes;
informed is who has added the profile, and who has opened the file since. -/
theorem last_change_wins (asked : Option String) (w : Workspace) (earlier : List (ι × Call)) {s : Shared ι}
    (hs : after asked earlier (start w) = s) :
    (∀ i c, Changes asked s i c → ∃ r, (perform asked i c s).2.held i = some r ∧ (Legible r.profiles →
      ∀ later t, after asked later (perform asked i c s).2 = t →
        (∀ done j c', done ++ [(j, c')] <+: later → ¬ Changes asked (after asked done (perform asked i c s).2) j c') →
        ofFile asked t.workspace = (.ok r, t.workspace))) ∧
    ∀ i given path isDefault name s', perform asked i (.add given path isDefault) s = (.ok (some name), s') →
      ∀ later t, after asked later s' = t →
        (∀ done, done <+: later → ∀ j r, (after asked done s').held j = some r → Legible r.profiles) →
        (∀ done j c, done ++ [(j, c)] <+: later →
          Spares asked name (j = i ∨ (j, .reopen) ∈ done) (after asked done s') j c) →
        ∃ file r, entryFor s.workspace given path isDefault = .ok (name, file) ∧
          ofFile asked t.workspace = (.ok r, t.workspace) ∧ r.profiles.get? name = some file.toString := by
  have hstart : Grounded asked (start w : Shared ι) := nofun
  have hg : Grounded asked s := hs ▸ hstart.after earlier
  refine ⟨fun i c h => ?_, fun i given path isDefault name s' h later t ht hl hspares => ?_⟩
  · obtain ⟨r, hr, hlisted⟩ := h.listed hg
    refine ⟨r, hr, fun hl later t ht hquiet => ?_⟩
    subst ht
    exact listed_after (hlisted hl) hquiet
  · subst ht
    obtain ⟨file, hentry, hknown⟩ := known_of_add hg h (hl [] List.nil_prefix i)
    obtain ⟨r, hr, hpath⟩ := (hknown.after (hg.stepped (stepped h)) hl hspares).listed
    exact ⟨file, r, hentry, hr, hpath⟩

end Shared

end Shared

/-! ### Two registries -/

/-- Whether the text of a registry is read as its document can be seen by evaluation. -/
theorem legible_of_denotes {profiles : OrderedMap String}
    (h : (match Yaml.load ((Yaml.writeNode false none false (document profiles) {}).indentTo 0).reversed.reverse with
      | .ok v => (document profiles).denotes v
      | .error _ => false) = true) : Legible profiles := by
  rw [Legible, fileText, Yaml.write, String.toList_ofList]
  exact Yaml.Tree.load_eq_of_denotes h

namespace Shop

/-- One holder opens the registry and adds a profile. It is not to be run when two states are compared. -/
@[irreducible] def added : Shared Bool :=
  (Shared.perform asked false (.add "" "." false) (Shared.after asked [(false, .reopen)] (.start workspace))).2

/-- Then another holder opens the registry and adds the profile under another name. -/
def addedLater : List (Bool × Call) := [(true, .reopen), (true, .add "web" "." false)]

theorem perform_add_added :
    Shared.perform asked false (.add "" "." false) (Shared.after asked [(false, .reopen)] (.start workspace)) =
      (.ok (some "api"), added) :=
  Prod.ext (by decide +kernel) (by rw [added])

theorem legible_addedLater (done : List (Bool × Call)) (hp : done <+: addedLater) (j : Bool) (r : Registry)
    (hr : (Shared.after asked done added).held j = some r) : Legible r.profiles := by
  have hone : Legible [("api", "/Ctgen.yml")] := legible_of_denotes (by decide +kernel)
  have htwo : Legible [("api", "/Ctgen.yml"), ("web", "/Ctgen.yml")] := legible_of_denotes (by decide +kernel)
  have hprofiles : ∀ done ∈ addedLater.inits, ∀ j, ∀ r ∈ (Shared.after asked done added).held j,
      r.profiles = [("api", "/Ctgen.yml")] ∨ r.profiles = [("api", "/Ctgen.yml"), ("web", "/Ctgen.yml")] := by
    decide +kernel
  obtain h | h := hprofiles done ((List.mem_inits _ _).mpr hp) j r hr
  · exact h ▸ hone
  · exact h ▸ htwo

theorem spares_addedLater (done : List (Bool × Call)) (j : Bool) (c : Call) (hp : done ++ [(j, c)] <+: addedLater) :
    Shared.Spares asked "api" (j = false ∨ (j, .reopen) ∈ done) (Shared.after asked done added) j c := by
  have hsteps : (done = [] ∧ j = true ∧ c = .reopen) ∨
      (done = [(true, .reopen)] ∧ j = true ∧ c = .add "web" "." false) := by
    rcases done with _ | ⟨step, _ | ⟨step', done⟩⟩
    · exact .inl ⟨rfl, by simpa [addedLater, List.prefix_cons_iff] using hp⟩
    · exact .inr (by simpa [addedLater, List.prefix_cons_iff] using hp)
    · simp [addedLater, List.prefix_cons_iff] at hp
  obtain ⟨rfl, rfl, rfl⟩ | ⟨rfl, rfl, rfl⟩ := hsteps
  · exact ⟨fun _ hconcerns => hconcerns.elim, fun hchanges => absurd rfl hchanges.1⟩
  · refine ⟨fun _ ⟨file, hfile⟩ => ?_, fun _ => .inr (List.mem_singleton.mpr rfl)⟩
    have hweb : (entryFor (Shared.after asked [(true, .reopen)] added).workspace "web" "." false).map Prod.fst =
        .ok "web" := by decide +kernel
    rw [hfile] at hweb
    exact absurd (Except.ok.inj hweb) (show "api" ≠ "web" by decide)

end Shop

open Shop in
theorem last_change_wins_web :
    Shared.perform asked false (.add "" "." false) (Shared.after asked [(false, .reopen)] (.start workspace)) =
        (.ok (some "api"), added) ∧
      (∃ r, added.held false = some r ∧
        ofFile asked (Shared.after asked [(true, .reopen)] added).workspace =
          (.ok r, (Shared.after asked [(true, .reopen)] added).workspace)) ∧
      ∃ r, ofFile asked (Shared.after asked addedLater added).workspace =
          (.ok r, (Shared.after asked addedLater added).workspace) ∧
        r.profiles.get? "api" = some "/Ctgen.yml" := by
  have hfile : entryFor (Shared.after asked [(false, .reopen)] (.start workspace : Shared Bool)).workspace "" "."
      false = .ok ("api", Path.ofString "/Ctgen.yml") := by decide +kernel
  have hpath : (Path.ofString "/Ctgen.yml").toString = "/Ctgen.yml" := by decide +kernel
  obtain ⟨hlast, hstays⟩ := Shared.last_change_wins asked workspace [(false, .reopen)] rfl
  refine ⟨perform_add_added, ?_, ?_⟩
  · obtain ⟨r, hr, hlisted⟩ := hlast false (.add "" "." false) ⟨nofun, some "api", by rw [perform_add_added]⟩
    rw [perform_add_added] at hr hlisted
    refine ⟨r, hr, hlisted (legible_addedLater [] List.nil_prefix false r hr) _ _ rfl fun done j c hp hchanges => ?_⟩
    -- The only step is that the registry is opened.
    obtain ⟨-, hstep⟩ : done = [] ∧ (j, c) = (true, .reopen) := by
      rcases done with _ | ⟨step, done⟩
      · simpa [List.prefix_cons_iff] using hp
      · simp [List.prefix_cons_iff] at hp
    cases hstep
    exact hchanges.1 rfl
  · obtain ⟨file, r, hentry, hr, hget⟩ := hstays false _ _ _ _ _ perform_add_added addedLater _ rfl legible_addedLater
      spares_addedLater
    obtain rfl : file = Path.ofString "/Ctgen.yml" := (Prod.mk.inj (Except.ok.inj (hentry.symm.trans hfile))).2
    exact ⟨r, hr, hget.trans (congrArg some hpath)⟩

open Shop in
/-- What has been added is lost if another holder makes a change that has opened the file before. -/
theorem earlier_change_lost :
    let opened : List (Bool × Call) := [(false, .reopen), (true, .reopen)]
    let first : Call := .add "" "." false
    let second : Call := .add "web" "." false
    (Shared.perform asked false first (Shared.after asked opened (.start workspace))).1 = .ok (some "api") ∧
      (Shared.perform asked true second (Shared.after asked (opened ++ [(false, first)]) (.start workspace))).1 =
        .ok (some "web") ∧
      (ofFile asked
          (Shared.after asked (opened ++ [(false, first), (true, second)]) (.start workspace)).workspace).1 =
        .ok { file := Path.ofString "/.ctgen/profiles.yml", profiles := [("web", "/Ctgen.yml")] } := by
  decide +kernel

end Stencil.Registry
