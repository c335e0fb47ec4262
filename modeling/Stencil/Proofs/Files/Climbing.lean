import Mathlib.Data.List.Induction
import Stencil.Proofs.Files.Effect

namespace Stencil

/-!
# Paths that climb

Names lead some places up from where they start, and then down again. A path below a directory stays in it exactly if its
names do not lead up, or if they come back down the way that they went up.

* `Disk.Course`, `Disk.course` — how far names lead up, and down by which names;
* `Disk.lead_eq_end` — where names lead is known from their course and where they start;
* `Path.normalize_parts` — the names of an absolute path without two dots are the place where it leads;
* `Path.Within` — a path that is a directory, or lies below it;
* `Path.div_within_iff` — which paths stay within the directory that they start from.
-/

namespace Disk

variable {from_ : Location} {names : List String}

/-! ### Courses -/

/-- How names lead somewhere: so many places up, and from there down by other names. -/
structure Course where
  up : Nat := 0
  down : List String := []

/-- A course with one more name: two dots take the last name back, or lead one place further up. -/
def Course.step (c : Course) (name : String) : Course :=
  if name = ".." then
    if c.down = [] then { c with up := c.up + 1 } else { c with down := c.down.dropLast }
  else { c with down := c.down ++ [name] }

/-- The course of names. -/
def course (names : List String) : Course :=
  names.foldl Course.step {}

/-- Where a course ends that starts at a location; above the root there is only the root. -/
def Course.end (c : Course) (from_ : Location) : Location :=
  from_.take (from_.length - c.up) ++ c.down

theorem course_concat (name : String) : course (names ++ [name]) = (course names).step name := by
  rw [course, List.foldl_append, List.foldl_cons, List.foldl_nil, course]

theorem lead_append (names' : List String) : lead from_ (names ++ names') = lead (lead from_ names) names' := by
  rw [lead, List.foldl_append, lead, lead]

theorem lead_singleton (name : String) : lead from_ [name] = if name = ".." then from_.dropLast else from_ ++ [name] := by
  rw [lead, List.foldl_cons, List.foldl_nil]

/-- One more name leads on from where a course ends. -/
theorem Course.end_step (c : Course) (name : String) :
    (c.step name).end from_ = if name = ".." then (c.end from_).dropLast else c.end from_ ++ [name] := by
  unfold step Course.end
  by_cases hup : name = ".."
  · rw [if_pos hup, if_pos hup]
    by_cases hdown : c.down = []
    · rw [if_pos hdown, hdown, List.append_nil, List.append_nil, List.dropLast_eq_take, List.length_take, List.take_take]
      congr 1
      dsimp only
      omega
    · rw [if_neg hdown, List.dropLast_append_of_ne_nil hdown]
  · rw [if_neg hup, if_neg hup, List.append_assoc]

/-- Names lead to the end of their course. -/
theorem lead_eq_end : lead from_ names = (course names).end from_ := by
  induction names using List.reverseRecOn with
  | nil => simp [lead, course, Course.end]
  | append_singleton names name ih => rw [lead_append, lead_singleton, ih, course_concat, Course.end_step]

/-- A course stays below where it starts if it does not lead up, or if it leads down again by the same names. -/
theorem Course.prefix_end (c : Course) : from_ <+: c.end from_ ↔ from_.drop (from_.length - c.up) <+: c.down := by
  conv_lhs => lhs; rw [← List.take_append_drop (from_.length - c.up) from_]
  exact List.prefix_append_right_inj _

/-- Names without two dots lead down only. -/
theorem course_of_no_dots (h : ".." ∉ names) : course names = { down := names } := by
  induction names using List.reverseRecOn with
  | nil => rfl
  | append_singleton names name ih =>
    rw [List.mem_append, not_or, List.mem_singleton] at h
    rw [course_concat, ih h.1, Course.step, if_neg (Ne.symm h.2)]

end Disk

namespace Path

variable {dir p : Path}

/-! ### Absolute paths -/

theorem isAbsolute_div (h : dir.isAbsolute = true) (p : Path) : (dir / p).isAbsolute = true := by
  show (join dir p).isAbsolute = true
  unfold join
  split
  · assumption
  · exact h

theorem div_of_isAbsolute (h : p.isAbsolute = true) : dir / p = p :=
  if_pos h

theorem div_of_not_isAbsolute (h : p.isAbsolute = false) : dir / p = { dir with parts := dir.parts ++ p.parts } := by
  show join dir p = _
  rw [join, h, if_neg Bool.false_ne_true]

/-- Names that are done, in reverse order, with one more name that is resolved. -/
def resolved (done : List String) (name : String) : List String :=
  if name = ".." then done.tail else name :: done

theorem reverse_resolved (done : List String) (name : String) :
    (resolved done name).reverse = Disk.lead done.reverse [name] := by
  rw [Disk.lead_singleton, resolved]
  split
  · rw [List.dropLast_reverse]
  · rw [List.reverse_cons]

theorem reverse_foldl_resolved (names done : List String) :
    (names.foldl resolved done).reverse = Disk.lead done.reverse names := by
  induction names generalizing done with
  | nil => rfl
  | cons name names ih =>
    rw [List.foldl_cons, ih, reverse_resolved, ← Disk.lead_append, List.singleton_append]

theorem not_mem_resolved {done : List String} (hdone : ".." ∉ done) (name : String) : ".." ∉ resolved done name := by
  unfold resolved
  split
  · exact fun hmem => hdone (List.mem_of_mem_tail hmem)
  · next hup => simp [Ne.symm hup, hdone]

/-- Two dots are never among the names that are done, so it does not matter what a step does then. -/
theorem foldl_eq_foldl_resolved {step : List String → String → List String}
    (hstep : ∀ done name, ".." ∉ done → step done name = resolved done name) (names : List String)
    {done : List String} (hdone : ".." ∉ done) : names.foldl step done = names.foldl resolved done := by
  induction names generalizing done with
  | nil => rfl
  | cons name names ih =>
    rw [List.foldl_cons, List.foldl_cons, hstep _ _ hdone, ih (not_mem_resolved hdone name)]

/-- The names of an absolute path, two dots resolved, are those that lead to its place. -/
theorem normalize_parts (h : p.isAbsolute = true) : p.normalize.parts = Disk.lead [] p.parts := by
  rw [← List.reverse_nil, ← reverse_foldl_resolved]
  refine congrArg List.reverse (foldl_eq_foldl_resolved (fun done name hdone => ?_) p.parts List.not_mem_nil)
  rw [resolved]
  simp only [beq_iff_eq]
  refine if_congr Iff.rfl ?_ rfl
  split
  · rw [h, if_pos rfl, List.tail_nil]
  · exact absurd List.mem_cons_self hdone
  · rfl

theorem place_of_isAbsolute (h : p.isAbsolute = true) (d : Disk) : d.place p = p.normalize.parts := by
  rw [normalize_parts h, Disk.place, Disk.start, h, if_pos rfl]

/-! ### Paths within a directory -/

/-- A path is the directory or lies below it, two dots resolved. -/
def Within (p dir : Path) : Prop :=
  dir.parts <+: p.normalize.parts

instance (p dir : Path) : Decidable (p.Within dir) :=
  inferInstanceAs (Decidable (dir.parts <+: p.normalize.parts))

/-- The names of a relative path lead on from the directory. -/
theorem normalize_div (habs : dir.isAbsolute = true) (hdots : ".." ∉ dir.parts) (h : p.isAbsolute = false) :
    (dir / p).normalize.parts = (Disk.course p.parts).end dir.parts := by
  rw [normalize_parts (isAbsolute_div habs p), div_of_not_isAbsolute h]
  dsimp only
  rw [Disk.lead_append, Disk.lead_eq_append hdots, List.nil_append, Disk.lead_eq_end]

/-- A relative path stays within a directory if it does not climb, or if it comes back down the same way. -/
theorem div_within_iff (habs : dir.isAbsolute = true) (hdots : ".." ∉ dir.parts) (h : p.isAbsolute = false) :
    (dir / p).Within dir ↔
      dir.parts.drop (dir.parts.length - (Disk.course p.parts).up) <+: (Disk.course p.parts).down := by
  rw [Within, normalize_div habs hdots h, Disk.Course.prefix_end]

end Path

end Stencil
