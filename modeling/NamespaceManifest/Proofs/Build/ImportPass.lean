import NamespaceManifest.Proofs.Build.Failure
import NamespaceManifest.Proofs.Build.Survival

/-!
# Import passes, once and again

Over a manifest of the writer an import pass exchanges lines: apart from empty ones, the new lines are those
of the imports, and the old lines that are no imports themselves
(`Compiler.preprocess_replaces_imports`).  So no stale import is left, and no new one is missing.

Whatever it found, an import pass leaves a manifest that is current (`current_of_writeImports`): either it
had nothing to write, or it has left its own entries, and merging the same imports into them gives them
back (`settled_imported`).  So a second import pass over the same blocks has nothing to do
(`Compiler.preprocess_again`).
-/

namespace NamespaceManifest

open Directive Work

/-! ## One import pass -/

/-- A workspace with a manifest of the usual writer. -/
def manifestSpace (text : String) : Workspace :=
  { tree := { files := [(["NAMESPACE"], Build.markedFile text)] } }

section Again

variable {w : Writer} {s u : Workspace} {p : Path} {imports : List String} {c : Option File}

/-- The entries of an import pass come back from a merge with its imports. -/
theorem settled_imported
    (hsorted : imports.Pairwise (· < ·))
    (hends : ∀ e ∈ imports, Text.EndsInText e) :
    Settled imports (imported w imports c) := by
  unfold imported
  split
  · exact settled_mergeImports hsorted hends fun l hl => Writer.unbroken_of_mem_bodyIn hl
  · -- imports on their own are imports merged with nothing
    have hnone : Settled imports (mergeImports imports []) :=
      settled_mergeImports hsorted hends (by simp)
    rwa [mergeImports_of_subset hsorted (List.nil_subset imports)] at hnone

/-- After imports were written there is nothing to write. -/
theorem current_of_writeImports
    {written : Bool}
    (hw : w.Marked)
    (h : s.Holds p c)
    (hsorted : imports.Pairwise (· < ·))
    (hends : ∀ e ∈ imports, Text.EndsInText e)
    (hend : Ends (writeImports w p imports) s (.ok written) u) :
    ∃ c', u.Holds p c' ∧ Current w imports c' := by
  rcases write_of_writeImports h hend with ⟨hskipped, -, hlog⟩ | ⟨-, hwrite⟩
  · exact ⟨c, hlog.holds h, current_iff.mpr (Or.inl hskipped)⟩
  · rcases Writer.owned_of_write hw h hwrite with ⟨-, hlines, hlog⟩ | ⟨-, -, g, hg, hgowns, hbody⟩
    · exact ⟨c, hlog.holds h, current_iff.mpr (Or.inr hlines)⟩
    · refine ⟨some g, hg, (current_of_owned hgowns).mpr ?_⟩
      rw [hbody]
      exact (settled_imported hsorted hends).symm

/-- Nothing is written over a current manifest. -/
theorem writeImports_of_current
    (hw : w.Marked)
    (hv : Writer.isValidName p.name = true)
    (h : s.Holds p c)
    (hcurrent : Current w imports c) :
    ∃ u, Ends (writeImports w p imports) s (.ok false) u ∧ s.Logged u := by
  cases c with
  | none =>
      obtain rfl | hlines := hcurrent.other rfl
      · exact writeImports_nil h rfl
      · cases hlines
  | some f =>
      obtain ⟨written, u, hend⟩ := writeImports_of_seat imports hv h (Writer.seat_of_holds hv h)
      rcases of_writeImports hw h hend with ⟨rfl, -, hlog⟩ | ⟨-, hstale, -⟩
      · exact ⟨u, hend, hlog⟩
      · exact absurd hcurrent hstale

/-- An import pass over what the same import pass has left. -/
theorem importPass_again
    {blocks : List Block} {report : PassReport}
    (hblocks : ∀ block ∈ blocks, block.Shaped)
    (hw : w.Marked)
    (hv : Writer.isValidName p.name = true)
    (hlogs : s.LogsApart p)
    (hend : Ends (importPass w p blocks) s (.ok report) u) :
    ∃ v, Ends (importPass w p blocks) u (.ok { report with written := false }) v ∧
      v.tree.open? p = u.tree.open? p := by
  obtain ⟨c, t, hc, hlog, hpass, hwrite⟩ := writeImports_of_importPass hlogs hend
  obtain ⟨c', hc', hcurrent⟩ :=
    current_of_writeImports hw (hlog.holds hc) (pairwise_lines hpass)
      (endsInText_of_mem_imports hblocks hpass) hwrite
  obtain ⟨v, hrun, hlog₁⟩ := ends_runPass importKinds none blocks u
  rw [hpass] at hrun
  obtain ⟨v', hskip, hlog₂⟩ := writeImports_of_current hw hv (hlog₁.holds hc') hcurrent
  refine ⟨v', hrun.bind (hskip.bind (ends_pure _ v')), ?_⟩
  exact (hlog₁.trans hlog₂).open?_eq hc'.apart

end Again

end NamespaceManifest
