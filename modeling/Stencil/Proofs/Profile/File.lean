import Stencil.Profile.File
import Stencil.Proofs.Action
import Stencil.Proofs.Files.Disk
import Stencil.Proofs.Profile.Document
import Stencil.Proofs.Yaml.Writer

namespace Stencil

/-!
# Profiles survive their files

A profile that is saved has the text of its document in its file, line by line as it was written. So if that text is
read as the document again, the profile that is loaded is the one that was saved.

* `Yaml.Tree.denotes` — a comparison of values with documents that can be evaluated;
* `Profile.write_of_save` — saving ends by writing the text of the document;
* `Profile.load_of_readText` — a file with this text is loaded as the profile;
* `Profile.survives_writing` — a profile that was read survives its document and its file.
-/

namespace Yaml.Tree

mutual

/-- Whether a value is that of a document. Unlike equality of values, this can be evaluated. -/
def denotes : Tree → Value → Bool
  | .text s, .str s' => s == s'
  | .bool b, .bool b' => b == b'
  | .seq xs, .list vs => denotesItems xs vs
  | .map ps, .dict es => denotesPairs ps es
  | _, _ => false

/-- Whether values are those of the items of a sequence. -/
def denotesItems : List Tree → List Value → Bool
  | [], [] => true
  | x :: xs, v :: vs => x.denotes v && denotesItems xs vs
  | _, _ => false

/-- Whether entries are those of a mapping. -/
def denotesPairs : List (String × Tree) → List (Value × Value) → Bool
  | [], [] => true
  | (k, t) :: ps, (.str k', v) :: es => k == k' && t.denotes v && denotesPairs ps es
  | _, _ => false

end

mutual

theorem eq_of_denotes (t : Tree) (v : Value) (h : t.denotes v = true) : v = t.toValue := by
  cases t <;> cases v <;> simp only [denotes, Bool.false_eq_true, beq_iff_eq] at h
  case text.str => rw [h, toValue]
  case bool.bool => rw [h, toValue]
  case seq.list xs vs => rw [eq_of_denotesItems xs vs h, toValue]
  case map.dict ps es => rw [eq_of_denotesPairs ps es h, toValue]

theorem eq_of_denotesItems (xs : List Tree) (vs : List Value) (h : denotesItems xs vs = true) :
    vs = itemValues xs := by
  match xs, vs with
  | [], [] => rfl
  | [], _ :: _ | _ :: _, [] => cases h
  | x :: xs, v :: vs =>
    simp only [denotesItems, Bool.and_eq_true] at h
    rw [eq_of_denotes x v h.1, eq_of_denotesItems xs vs h.2, itemValues]

theorem eq_of_denotesPairs (ps : List (String × Tree)) (es : List (Value × Value))
    (h : denotesPairs ps es = true) : es = pairValues ps := by
  match ps, es with
  | [], [] => rfl
  | [], _ :: _ | _ :: _, [] => cases h
  | (k, t) :: ps, (key, v) :: es =>
    cases key <;> simp only [denotesPairs, Bool.and_eq_true, beq_iff_eq, Bool.false_eq_true] at h
    rw [h.1.1, eq_of_denotes t v h.1.2, eq_of_denotesPairs ps es h.2, pairValues]

end

/-- The value of a text, checked by evaluation. -/
theorem load_eq_of_denotes {s : List Char} {t : Tree}
    (h : (match load s with | .ok v => t.denotes v | .error _ => false) = true) : load s = .ok t.toValue := by
  cases hv : load s with
  | ok v =>
    rw [hv] at h
    rw [eq_of_denotes t v h]
  | error f =>
    rw [hv] at h
    cases h

end Yaml.Tree

namespace Profile

variable {p : Profile} {d d' : Disk} {path : Path}

/-- Saving ends by writing the text of the document. -/
theorem write_of_save (h : p.save path d = (.ok (), d')) : ∃ d₁ : Disk, d₁.write path p.fileText.toUTF8 = .ok d' := by
  obtain ⟨-, d₁, -, h⟩ := Action.bind_eq_ok.mp h
  obtain ⟨_, _, hget, h⟩ := Action.bind_eq_ok.mp h
  cases hget
  cases hw : d₁.write path p.fileText.toUTF8 with
  | error f =>
    rw [hw] at h
    cases h
  | ok d₂ =>
    rw [hw] at h
    cases h
    exact ⟨d₁, hw⟩

theorem load_of_readText (hp : Accepted p) (htext : d.readText path = .ok p.fileText.toList)
    (hyaml : Yaml.load p.fileText.toList = .ok p.toDocument.toValue) : load d path = .ok p := by
  have hread : readDocument d path = .ok p.toDocument.toValue := by
    simp only [readDocument, htext, hyaml, Except.mapError, bind, Except.bind]
  rw [load, hread]
  exact ofDocument_toDocument_iff.mpr hp

/-- **A profile survives its document and its file.** The document of a profile that was read is accepted, and is read
as this profile again, whatever document it came from. If it is saved, and the text of its document is read as this
document, then it is also loaded again. -/
theorem survives_writing {v : Value} {name : Option String} (h : ofDocument v name = .ok p) :
    ofDocument p.toDocument.toValue = .ok p ∧
    ∀ d d' path, p.save path d = (.ok (), d') → Yaml.load p.fileText.toList = .ok p.toDocument.toValue →
      load d' path = .ok p := by
  have hp := accepted_of_ofDocument h
  refine ⟨ofDocument_toDocument_iff.mpr hp, fun d d' path hsave hyaml => ?_⟩
  obtain ⟨d₁, hwrite⟩ := write_of_save hsave
  exact load_of_readText hp (Disk.readText_of_write (Yaml.return_not_mem_write true p.toDocument) hwrite) hyaml

end Profile

/-! ### A profile with a question -/

namespace Profile.Shop

/-- A document whose options are numbers before they are texts. -/
def document : Value :=
  .dict
    [(.str "profile", .dict [(.str "prompts", .list [.str "kind"])]),
     (.str "prompt", .dict
       [(.str "kind", .dict
         [(.str "prompt", .str "Kind?"),
          (.str "options", .dict [(.int 0, .str "No"), (.int 1, .str "Yes")])])])]

/-- The profile that it describes. -/
def profile : Profile :=
  { config := { prompts := ["kind"] }
    prompt := [("kind", { prompt := "Kind?", options := .mapping [("0", "No"), ("1", "Yes")] })] }

end Profile.Shop

open Profile.Shop in
theorem Profile.survives_writing_in_shop :
    ofDocument document = .ok profile ∧
    ∃ d', save profile (Path.ofString "/Ctgen.yml") {} = (.ok (), d') ∧
      load d' (Path.ofString "/Ctgen.yml") = .ok profile := by
  have h : ofDocument document = .ok profile := by
    decide +kernel
  have hyaml : Yaml.load profile.fileText.toList = .ok profile.toDocument.toValue := by
    rw [fileText, Yaml.write, String.toList_ofList]
    exact Yaml.Tree.load_eq_of_denotes (by decide +kernel)
  exact ⟨h, _, rfl, (survives_writing h).2 {} _ _ rfl hyaml⟩

end Stencil
