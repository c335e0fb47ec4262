import Stencil.Files.Disk
import Stencil.Proofs.Action

namespace Stencil.Disk

/-!
# Reading what was written

A path leads through directories only. It leads to the same location as long as no directory is lost, and a file is
never written in the place of one; so what is read there after a file has been written is what was written.

* `Extends` — no directory is lost;
* `Extends.locate` — so every path that led to a location still leads there;
* `write_eq_ok` — what it takes to write a file, and what it does;
* `read_of_write`, `readText_of_write` — what is read from a file that was just written.
-/

/-- A disk has all the directories of another, and the same one is the current one. -/
structure Extends (d d' : Disk) : Prop where
  current : d'.current = d.current
  directory : ∀ l, d.files.get? l = some .directory → d'.files.get? l = some .directory

variable {d d' : Disk} {p : Path} {bytes : ByteArray}

/-! ### Where paths lead -/

@[refl] theorem Extends.refl (d : Disk) : Extends d d := ⟨rfl, fun _ h => h⟩

theorem Extends.trans {d₁ : Disk} (h : Extends d d₁) (h' : Extends d₁ d') : Extends d d' :=
  ⟨h'.current.trans h.current, fun l hl => h'.directory l (h.directory l hl)⟩

/-- What is put in a place where there is no directory is there. -/
theorem get?_set_self {l : Location} (e : Entry) (hl : d.files.get? l ≠ some .directory) :
    (d.files.set l e).get? l = some e := by
  have hroot : l ≠ [] := by
    rintro rfl
    exact hl rfl
  exact FileSystem.get?_set_self d.files e hroot

/-- A place where there is no directory can be given to anything. -/
theorem extends_set {l : Location} (e : Entry) (hl : d.files.get? l ≠ some .directory) :
    Extends d { d with files := d.files.set l e } where
  current := rfl
  directory l' h := by
    have hne : l' ≠ l := by
      rintro rfl
      exact hl h
    exact (FileSystem.get?_set_of_ne d.files e hne).trans h

/-- Names are followed only from directories, so they lead to where they led before. -/
theorem Extends.walk (hd : Extends d d') {from_ dest : Location} {names : List String}
    (h : walk d.files from_ names = .ok dest) : walk d'.files from_ names = .ok dest := by
  induction names generalizing from_ with
  | nil => exact h
  | cons name names ih =>
    unfold Disk.walk at h ⊢
    -- A step is made from a directory only, and a directory is still one on the other disk.
    rcases hfrom : d.files.get? from_ with _ | _ | b <;> rw [hfrom] at h
    · cases h
    · rw [hd.directory from_ hfrom]
      dsimp only at h ⊢
      by_cases hup : name = ".."
      · rw [if_pos hup] at h ⊢
        exact ih h
      · rw [if_neg hup] at h ⊢
        by_cases hlong : name.utf8ByteSize > maxNameLength
        · rw [if_pos hlong] at h
          cases h
        · rw [if_neg hlong] at h ⊢
          exact ih h
    · cases h

/-- Where the names of a path start from. -/
def start (d : Disk) (p : Path) : Location :=
  if p.isAbsolute then [] else d.current

/-- A path that can be followed: there is no null character in it, and it is not too long. -/
def Followed (p : Path) : Prop :=
  (p.parts.any fun name => name.toList.contains '\x00') = false ∧ p.toString.utf8ByteSize ≤ maxPathLength

/-- A path that can be followed leads to where its names lead. -/
theorem locate_eq_ok {l : Location} :
    d.locate p = .ok l ↔ Followed p ∧ walk d.files (d.start p) p.parts = .ok l := by
  unfold locate Followed
  by_cases hnull : (p.parts.any fun name => name.toList.contains '\x00') = true
  · rw [if_pos hnull, hnull]
    exact ⟨nofun, nofun⟩
  · rw [if_neg hnull]
    by_cases hlong : p.toString.utf8ByteSize > maxPathLength
    · rw [if_pos hlong]
      exact ⟨nofun, fun h => absurd h.1.2 (Nat.not_le.mpr hlong)⟩
    · rw [if_neg hlong, ← start, Action.mapError_eq_ok]
      exact ⟨fun h => ⟨⟨Bool.eq_false_iff.mpr hnull, Nat.not_lt.mp hlong⟩, h⟩, And.right⟩

theorem Extends.start (hd : Extends d d') (p : Path) : d'.start p = d.start p := by
  rw [Disk.start, Disk.start, hd.current]

/-- A path that led to a location still leads there. -/
theorem Extends.locate (hd : Extends d d') {l : Location} (h : d.locate p = .ok l) : d'.locate p = .ok l := by
  obtain ⟨hfollowed, hwalk⟩ := locate_eq_ok.mp h
  exact locate_eq_ok.mpr ⟨hfollowed, hd.start p ▸ hd.walk hwalk⟩

/-! ### Writing and reading -/

/-- A file that can be written is at no place of a directory, and nothing else changes. -/
theorem write_eq_ok (h : d.write p bytes = .ok d') :
    ∃ l, d.locate p = .ok l ∧ d.files.get? l ≠ some .directory ∧
      d' = { d with files := d.files.set l (.file bytes) } := by
  unfold write at h
  cases hl : d.locate p with
  | error f =>
    rw [hl] at h
    cases h
  | ok l =>
    rw [hl] at h
    refine ⟨l, rfl, ?_⟩
    simp only [bind, Except.bind] at h
    -- What is at the place decides: a directory refuses, a file is replaced, and a new one needs its directory.
    split at h
    · cases h
    · rename_i hget
      cases h
      exact ⟨by simp [hget], rfl⟩
    · rename_i hget
      split at h
      · cases h
        exact ⟨by simp [hget], rfl⟩
      · cases h

theorem read_of_write (h : d.write p bytes = .ok d') : d'.read p = .ok bytes := by
  obtain ⟨l, hl, hget, rfl⟩ := write_eq_ok h
  simp only [read, entry, (extends_set (.file bytes) hget).locate hl, bind, Except.bind, get?_set_self _ hget]

/-- Unifying line ends changes nothing where there is no carriage return. -/
theorem unifyLineEnds_eq_self {s : List Char} (h : '\r' ∉ s) : Text.unifyLineEnds s = s := by
  induction s with
  | nil => rfl
  | cons c s ih =>
    rw [List.mem_cons, not_or] at h
    rw [Text.unifyLineEnds, ih h.2]
    · rintro _ rfl
      exact absurd rfl h.1
    · exact Ne.symm h.1

/-- A text without carriage returns is read as it was written. -/
theorem readText_of_write {text : String} (hreturn : '\r' ∉ text.toList) (h : d.write p text.toUTF8 = .ok d') :
    d'.readText p = .ok text.toList := by
  have hvalid : String.fromUTF8? text.toUTF8 = some text := dif_pos text.isValidUTF8
  simp only [readText, read_of_write h, bind, Except.bind, hvalid, unifyLineEnds_eq_self hreturn]

/-- Text is read from bytes that are UTF-8. -/
theorem readText_eq_ok {text : List Char} :
    d.readText p = .ok text ↔ ∃ (b : ByteArray) (h : b.IsValidUTF8), d.read p = .ok b ∧
      text = Text.unifyLineEnds (String.ofByteArray b h).toList := by
  unfold readText
  cases d.read p with
  | error f => exact ⟨nofun, fun ⟨_, _, hb, _⟩ => nomatch hb⟩
  | ok b =>
    by_cases hvalid : b.IsValidUTF8
    · simp only [bind, Except.bind, String.fromUTF8?, dif_pos hvalid, Except.ok.injEq, exists_and_left]
      constructor
      · rintro rfl
        exact ⟨b, rfl, hvalid, rfl⟩
      · rintro ⟨_, rfl, _, rfl⟩
        rfl
    · simp only [bind, Except.bind, String.fromUTF8?, dif_neg hvalid]
      constructor
      · nofun
      · rintro ⟨_, h, hb, _⟩
        exact absurd (Except.ok.inj hb ▸ h) hvalid

/-- No text is read where no bytes are, or where the bytes are not UTF-8. -/
theorem readText_eq_error {f : Foreign} :
    d.readText p = .error f ↔ d.read p = .error f ∨ ∃ b, d.read p = .ok b ∧ ¬ b.IsValidUTF8 ∧ f = .notUnicode := by
  unfold readText
  cases d.read p with
  | error g => simp [bind, Except.bind]
  | ok b =>
    by_cases hvalid : b.IsValidUTF8
    · simp [bind, Except.bind, String.fromUTF8?, hvalid]
    · simp [bind, Except.bind, String.fromUTF8?, hvalid, eq_comm]

end Stencil.Disk
