import NamespaceManifest.Diff
import Mathlib.Data.List.Basic

/-!
# Laws of diffs

The longest stretch that a diff looks for is a stretch of both lists (`longest_common`).  So the steps of a
diff, taken one after the other, have all old lines on one side and all new lines on the other
(`flatMap_oldLines_script`, `flatMap_newLines_script`).

Steps that change something end up in a hunk.  Two lists of which one is not the other need such a step, and
a list is kept as a whole by its diff with itself.  Hence a unified diff is empty exactly if the lists
are equal (`unified_eq_nil_iff`).
-/

namespace NamespaceManifest
namespace Diff

/-! ## Common stretches -/

/-- A stretch that lies in two lists and has the same lines in both. -/
structure Stretch.Common (old new : List String) (x : Stretch) : Prop where
  within_old : x.old + x.size ≤ old.length
  within_new : x.new + x.size ≤ new.length
  same : (old.drop x.old).take x.size = (new.drop x.new).take x.size

theorem commonStart_le
    (old new : List String) :
    commonStart old new ≤ old.length ∧ commonStart old new ≤ new.length := by
  fun_induction commonStart old new with
  | case1 a old b new h ih =>
      simp only [List.length_cons]
      omega
  | case2 a old b new h =>
      simp
  | case3 old new h =>
      simp

theorem take_commonStart
    (old new : List String) :
    old.take (commonStart old new) = new.take (commonStart old new) := by
  fun_induction commonStart old new with
  | case1 a old b new h ih =>
      obtain rfl : a = b := by simpa using h
      simp [ih]
  | case2 a old b new h =>
      simp
  | case3 old new h =>
      simp

theorem commonStart_self
    (lines : List String) :
    commonStart lines lines = lines.length := by
  induction lines with
  | nil =>
      rfl
  | cons a lines ih =>
      simp [commonStart, ih]

theorem length_of_drop_eq_cons
    {lines rest : List String} {a : String} {i : Nat}
    (h : lines.drop i = a :: rest) :
    i + (a :: rest).length = lines.length ∧ lines.drop (i + 1) = rest := by
  have hlength := congrArg List.length h
  rw [List.length_drop, List.length_cons] at hlength
  refine ⟨by simp only [List.length_cons]; omega, ?_⟩
  rw [← List.drop_drop, h, List.drop_succ_cons, List.drop_zero]

section Longest

variable {old new : List String} {best : Stretch}

theorem common_longer
    {a b : Stretch}
    (ha : a.Common old new)
    (hb : b.Common old new) :
    (longer a b).Common old new := by
  unfold longer
  split
  · exact hb
  · exact ha

theorem common_longestFrom
    {a : String} {olds news : List String} {i j : Nat}
    (hold : old.drop i = a :: olds)
    (hnew : new.drop j = news)
    (hbest : best.Common old new) :
    (longestFrom (a :: olds) i j news best).Common old new := by
  induction news generalizing j best with
  | nil =>
      exact hbest
  | cons b news ih =>
      obtain ⟨hlength, -⟩ := length_of_drop_eq_cons hold
      obtain ⟨hlength', hnext⟩ := length_of_drop_eq_cons hnew
      obtain ⟨hle, hle'⟩ := commonStart_le (a :: olds) (b :: news)
      have hfound : Stretch.Common old new ⟨i, j, commonStart (a :: olds) (b :: news)⟩ := by
        refine ⟨?_, ?_, ?_⟩
        · show i + commonStart (a :: olds) (b :: news) ≤ old.length
          omega
        · show j + commonStart (a :: olds) (b :: news) ≤ new.length
          omega
        · rw [hold, hnew]
          exact take_commonStart _ _
      exact ih hnext (common_longer hbest hfound)

theorem common_longestAmong
    {olds : List String} {i : Nat}
    (hold : old.drop i = olds)
    (hbest : best.Common old new) :
    (longestAmong new i olds best).Common old new := by
  induction olds generalizing i best with
  | nil =>
      exact hbest
  | cons a olds ih =>
      obtain ⟨-, hnext⟩ := length_of_drop_eq_cons hold
      exact ih hnext (common_longestFrom hold rfl hbest)

/-- What is found is a stretch of both lists. -/
theorem longest_common
    (old new : List String) :
    (longest old new).Common old new := by
  refine common_longestAmong rfl ⟨?_, ?_, ?_⟩
  · simp
  · simp
  · simp

/-- A stretch as long as all new lines stays the longest. -/
theorem longestFrom_of_le
    {olds news : List String} {i j : Nat}
    (h : news.length ≤ best.size) :
    longestFrom olds i j news best = best := by
  induction news generalizing j with
  | nil =>
      rfl
  | cons b news ih =>
      have hle := (commonStart_le olds (b :: news)).2
      have hbest : longer best ⟨i, j, commonStart olds (b :: news)⟩ = best := by
        rw [longer, if_neg]
        show ¬ best.size < commonStart olds (b :: news)
        omega
      rw [longestFrom, hbest]
      refine ih ?_
      simp only [List.length_cons] at h
      omega

theorem longestAmong_of_le
    {olds : List String} {i : Nat}
    (h : new.length ≤ best.size) :
    longestAmong new i olds best = best := by
  induction olds generalizing i with
  | nil =>
      rfl
  | cons a olds ih =>
      rw [longestAmong, longestFrom_of_le h]
      exact ih

end Longest

/-- The longest stretch that a list has in common with itself is the list. -/
theorem longest_self
    (lines : List String) :
    longest lines lines = ⟨0, 0, lines.length⟩ := by
  cases lines with
  | nil =>
      rfl
  | cons a lines =>
      have hfirst : longer ⟨0, 0, 0⟩ ⟨0, 0, commonStart (a :: lines) (a :: lines)⟩ =
          ⟨0, 0, (a :: lines).length⟩ := by
        rw [commonStart_self, longer, if_pos]
        simp
      rw [longest, longestAmong, longestFrom, hfirst, longestFrom_of_le, longestAmong_of_le]
      · exact Nat.le_refl _
      · simp

/-! ## Edit scripts -/

theorem flatMap_oldLines_steps
    (old new : List String) :
    (steps old new).flatMap Edit.oldLines = old := by
  fun_induction steps old new with
  | case1 old new h ih₁ ih₂ =>
      rw [List.flatMap_append, List.flatMap_cons, ih₁, ih₂, Edit.oldLines, ← List.drop_drop,
        List.take_append_drop, List.take_append_drop]
  | case2 old new h =>
      unfold changeOf
      split
      · simp_all
      · simp [Edit.oldLines]

theorem flatMap_newLines_steps
    (old new : List String) :
    (steps old new).flatMap Edit.newLines = new := by
  fun_induction steps old new with
  | case1 old new h ih₁ ih₂ =>
      rw [List.flatMap_append, List.flatMap_cons, ih₁, ih₂, Edit.newLines, (longest_common old new).same,
        ← List.drop_drop, List.take_append_drop, List.take_append_drop]
  | case2 old new h =>
      unfold changeOf
      split
      · simp_all
      · simp [Edit.newLines]

/-- Joining neighbours that keep lines changes neither side of a script. -/
theorem flatMap_joinKept
    {side : Edit → List String}
    (hside : ∀ lines, side (.keep lines) = lines)
    (edits : List Edit) :
    (joinKept edits).flatMap side = edits.flatMap side := by
  fun_induction joinKept edits with
  | case1 =>
      rfl
  | case2 a edits b more hjoined ih =>
      rw [hjoined] at ih
      rw [List.flatMap_cons, List.flatMap_cons, ← ih, List.flatMap_cons, hside, hside, hside,
        List.append_assoc]
  | case3 a edits hjoined ih =>
      rw [List.flatMap_cons, List.flatMap_cons, ih]
  | case4 edit edits h ih =>
      rw [List.flatMap_cons, List.flatMap_cons, ih]

theorem any_isChange_joinKept
    (edits : List Edit) :
    (joinKept edits).any Edit.isChange = edits.any Edit.isChange := by
  fun_induction joinKept edits with
  | case1 =>
      rfl
  | case2 a edits b more hjoined ih =>
      rw [hjoined] at ih
      simpa [Edit.isChange] using ih
  | case3 a edits hjoined ih =>
      simpa [Edit.isChange] using ih
  | case4 edit edits h ih =>
      rw [List.any_cons, List.any_cons, ih]

/-- The old side of a script has the old lines. -/
theorem flatMap_oldLines_script
    (old new : List String) :
    (script old new).flatMap Edit.oldLines = old := by
  rw [script, flatMap_joinKept (fun _ => rfl), flatMap_oldLines_steps]

/-- The new side of a script has the new lines. -/
theorem flatMap_newLines_script
    (old new : List String) :
    (script old new).flatMap Edit.newLines = new := by
  rw [script, flatMap_joinKept (fun _ => rfl), flatMap_newLines_steps]

theorem steps_self
    (lines : List String) :
    (steps lines lines).any Edit.isChange = false := by
  have hnil : steps [] [] = [] := by
    rw [steps, longest_self]
    simp [changeOf]
  rw [steps, longest_self]
  split
  · simp [hnil, Edit.isChange]
  · rename_i hempty
    obtain rfl : lines = [] := by simpa using hempty
    rfl

/-- A script changes something exactly if the lists differ. -/
theorem any_isChange_script_iff
    {old new : List String} :
    (script old new).any Edit.isChange = false ↔ old = new := by
  constructor
  · intro h
    have hsides : ∀ edit ∈ script old new, edit.oldLines = edit.newLines := by
      intro edit hedit
      cases edit with
      | keep lines =>
          rfl
      | change a b =>
          have := List.any_eq_false.mp h _ hedit
          simp [Edit.isChange] at this
    calc old
        = (script old new).flatMap Edit.oldLines := (flatMap_oldLines_script old new).symm
      _ = (script old new).flatMap Edit.newLines := List.flatMap_congr hsides
      _ = new := flatMap_newLines_script old new
  · rintro rfl
    rw [script, any_isChange_joinKept, steps_self]

/-! ## Hunks -/

/-- Whether a hunk shows a change. -/
def Hunk.changes (h : Hunk) : Bool :=
  h.edits.any Edit.isChange

/-- Every change of a script is in a hunk. -/
theorem any_changes_hunksFrom
    (current : Hunk)
    (oldLine newLine : Nat)
    (edits : List Edit) :
    (hunksFrom current oldLine newLine edits).any Hunk.changes =
      (current.changes || edits.any Edit.isChange) := by
  fun_induction hunksFrom current oldLine newLine edits with
  | case1 current oldLine newLine =>
      simp
  | case2 current oldLine newLine lines =>
      simp [Hunk.changes, Edit.isChange]
  | case3 current oldLine newLine lines edits h size hsize ih =>
      simp [ih, Hunk.changes, Edit.isChange]
  | case4 current oldLine newLine lines edits h size hsize ih =>
      simp [ih, Hunk.changes, Edit.isChange]
  | case5 current oldLine newLine old new edits ih =>
      simp [ih, Hunk.changes, Edit.isChange]

theorem hunks_eq_nil_iff
    {edits : List Edit} :
    hunks edits = [] ↔ edits.any Edit.isChange = false := by
  have hfilter : ∀ found : List Hunk,
      (found.filter fun h => h.edits.any Edit.isChange) = [] ↔ found.any Hunk.changes = false := by
    intro found
    simp [Hunk.changes]
  unfold hunks
  split
  · rw [hfilter, any_changes_hunksFrom]
    simp [Hunk.changes, Edit.isChange]
  · rw [hfilter, any_changes_hunksFrom]
    simp [Hunk.changes]

/-- Equal lists, and no others, have an empty unified diff. -/
theorem unified_eq_nil_iff
    {oldTitle newTitle : String} {old new : List String} :
    unified oldTitle newTitle old new = [] ↔ old = new := by
  have hhunks : unified oldTitle newTitle old new = [] ↔ hunks (script old new) = [] := by
    unfold unified
    split
    · rename_i hnone
      simp [hnone]
    · rename_i hsome
      exact iff_of_false (List.cons_ne_nil _ _) hsome
  exact hhunks.trans (hunks_eq_nil_iff.trans any_isChange_script_iff)

/-- The text of a unified diff is empty for equal lists only. -/
theorem intercalate_unified_eq_empty_iff
    {oldTitle newTitle : String} {old new : List String} :
    "\n".intercalate (unified oldTitle newTitle old new) = "" ↔ old = new := by
  rw [← @unified_eq_nil_iff oldTitle newTitle old new]
  constructor
  · intro h
    unfold unified at h ⊢
    split at h
    · rfl
    · rw [String.intercalate_cons_cons] at h
      simp at h
  · intro h
    rw [h]
    rfl

end Diff
end NamespaceManifest
