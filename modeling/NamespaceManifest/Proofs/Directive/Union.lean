import NamespaceManifest.Proofs.Directive.ImportFamily

/-!
# Passes over more blocks and more kinds

A pass can be put together from smaller ones.  The blocks may be cut in two, and so may the set of kinds:
the pass over the whole succeeds exactly if the passes over the four parts do, and it has their lines
(`compile_append_union`).

This is why a build can be divided in two.  The import pass gives some lines of the full pass, the pass over
the other kinds gives the rest of them, and only the latter can fail.
-/

namespace NamespaceManifest
namespace Directive

/-- The kinds of two sets. -/
def KindSet.union (k₁ k₂ : KindSet) : KindSet :=
  fun kind => k₁ kind || k₂ kind

/-- The kinds outside the import family. -/
def otherKinds : KindSet :=
  fun kind => !kind.isImport

theorem union_importKinds_otherKinds :
    importKinds.union otherKinds = allKinds := by
  funext kind
  exact Bool.or_not_self kind.isImport

section Union

variable {k₁ k₂ : KindSet} {evaluator : Option Evaluator} {block : Block}

theorem resolvable_union :
    Resolvable (k₁.union k₂) evaluator block ↔
      Resolvable k₁ evaluator block ∧ Resolvable k₂ evaluator block := by
  simp only [Resolvable, KindSet.union, Bool.or_eq_true]
  constructor
  · intro h
    refine ⟨?_, ?_⟩
    · intro tag htag kind hkind hsel
      exact h tag htag kind hkind (Or.inl hsel)
    · intro tag htag kind hkind hsel
      exact h tag htag kind hkind (Or.inr hsel)
  · rintro ⟨h₁, h₂⟩ tag htag kind hkind (hsel | hsel)
    · exact h₁ tag htag kind hkind hsel
    · exact h₂ tag htag kind hkind hsel

theorem contributes_union
    {l : String} :
    Contributes (k₁.union k₂) evaluator block l ↔
      Contributes k₁ evaluator block l ∨ Contributes k₂ evaluator block l := by
  simp only [Contributes, KindSet.union, Bool.or_eq_true]
  constructor
  · rintro ⟨tag, htag, kind, hkind, hsel | hsel, hl⟩
    · exact Or.inl ⟨tag, htag, kind, hkind, hsel, hl⟩
    · exact Or.inr ⟨tag, htag, kind, hkind, hsel, hl⟩
  · rintro (⟨tag, htag, kind, hkind, hsel, hl⟩ | ⟨tag, htag, kind, hkind, hsel, hl⟩)
    · exact ⟨tag, htag, kind, hkind, Or.inl hsel, hl⟩
    · exact ⟨tag, htag, kind, hkind, Or.inr hsel, hl⟩

end Union

section Parts

variable {k₁ k₂ : KindSet} {evaluator : Option Evaluator} {xs ys : List Block}

theorem exists_compile_append_iff :
    (∃ pass, compile k₁ evaluator (xs ++ ys) = .ok pass) ↔
      (∃ pass, compile k₁ evaluator xs = .ok pass) ∧ ∃ pass, compile k₁ evaluator ys = .ok pass := by
  simp only [exists_compile_iff, List.forall_mem_append]

theorem exists_compile_union_iff :
    (∃ pass, compile (k₁.union k₂) evaluator xs = .ok pass) ↔
      (∃ pass, compile k₁ evaluator xs = .ok pass) ∧ ∃ pass, compile k₂ evaluator xs = .ok pass := by
  simp only [exists_compile_iff, resolvable_union, forall_and]

theorem lines_eq_finalize
    {kinds : KindSet} {pass : Pass} {ls : List String}
    (h : compile kinds evaluator xs = .ok pass)
    (hmem : ∀ l, (∃ block ∈ xs, Contributes kinds evaluator block l) ↔ l ∈ ls) :
    pass.lines = finalize ls := by
  refine eq_of_pairwise_of_mem_iff (pairwise_lines h) (pairwise_finalize ls) ?_
  intro l
  rw [mem_lines_iff h, hmem, mem_finalize]

theorem lines_append
    {pass first second : Pass}
    (h : compile k₁ evaluator (xs ++ ys) = .ok pass)
    (hx : compile k₁ evaluator xs = .ok first)
    (hy : compile k₁ evaluator ys = .ok second) :
    pass.lines = finalize (first.lines ++ second.lines) := by
  refine lines_eq_finalize h fun l => ?_
  simp only [List.mem_append, mem_lines_iff hx, mem_lines_iff hy, or_and_right, exists_or]

theorem lines_union
    {pass first second : Pass}
    (h : compile (k₁.union k₂) evaluator xs = .ok pass)
    (h₁ : compile k₁ evaluator xs = .ok first)
    (h₂ : compile k₂ evaluator xs = .ok second) :
    pass.lines = finalize (first.lines ++ second.lines) := by
  refine lines_eq_finalize h fun l => ?_
  simp only [List.mem_append, mem_lines_iff h₁, mem_lines_iff h₂, contributes_union, and_or_left,
    exists_or]

theorem finalize_append_finalize
    (xs ys : List String) :
    finalize (finalize xs ++ finalize ys) = finalize (xs ++ ys) := by
  refine eq_of_pairwise_of_mem_iff (pairwise_finalize _) (pairwise_finalize _) ?_
  intro l
  simp

/-- The lines of imports do not depend on the evaluator. -/
theorem lines_imports
    {imports imports' : Pass}
    (h : compile importKinds evaluator xs = .ok imports)
    (h' : compile importKinds none xs = .ok imports') :
    imports.lines = imports'.lines :=
  lines_of_sameImports (List.forall₂_same.mpr fun block _ => sameImports_refl block) h h'

end Parts

/-- Cutting the blocks and the kinds of a pass in two gives four passes.  They all succeed exactly if the
pass does, and their lines are its lines.  In particular, the imports are lines of the full pass, the
others come from the other kinds, and the full pass succeeds exactly if these can be resolved. -/
theorem compile_append_union
    (k₁ k₂ : KindSet)
    (evaluator : Option Evaluator)
    (xs ys : List Block) :
    ((∃ pass, compile (k₁.union k₂) evaluator (xs ++ ys) = .ok pass) ↔
      ∀ blocks ∈ [xs, ys], ∀ kinds ∈ [k₁, k₂],
        ∃ part, compile kinds evaluator blocks = .ok part) ∧
    (∀ pass x₁ x₂ y₁ y₂,
      compile (k₁.union k₂) evaluator (xs ++ ys) = .ok pass →
      compile k₁ evaluator xs = .ok x₁ → compile k₂ evaluator xs = .ok x₂ →
      compile k₁ evaluator ys = .ok y₁ → compile k₂ evaluator ys = .ok y₂ →
      pass.lines = finalize (x₁.lines ++ x₂.lines ++ y₁.lines ++ y₂.lines)) ∧
    ∃ imports, compile importKinds none xs = .ok imports ∧
      ((∃ full, compile allKinds evaluator xs = .ok full) ↔
        ∃ others, compile otherKinds evaluator xs = .ok others) ∧
      ∀ full others, compile allKinds evaluator xs = .ok full →
        compile otherKinds evaluator xs = .ok others →
        imports.lines ⊆ full.lines ∧ full.lines = finalize (imports.lines ++ others.lines) := by
  refine ⟨?_, ?_, ?_⟩
  · simp only [List.forall_mem_cons, List.not_mem_nil, false_implies, implies_true, and_true]
    rw [exists_compile_append_iff, exists_compile_union_iff, exists_compile_union_iff]
  · intro pass x₁ x₂ y₁ y₂ h hx₁ hx₂ hy₁ hy₂
    obtain ⟨x, hx⟩ : ∃ x, compile (k₁.union k₂) evaluator xs = .ok x := by
      rw [exists_compile_union_iff]
      exact ⟨⟨x₁, hx₁⟩, x₂, hx₂⟩
    obtain ⟨y, hy⟩ : ∃ y, compile (k₁.union k₂) evaluator ys = .ok y := by
      rw [exists_compile_union_iff]
      exact ⟨⟨y₁, hy₁⟩, y₂, hy₂⟩
    rw [lines_append h hx hy, lines_union hx hx₁ hx₂, lines_union hy hy₁ hy₂,
      finalize_append_finalize, List.append_assoc (x₁.lines ++ x₂.lines)]
  · obtain ⟨imports, himports⟩ := exists_imports none xs
    obtain ⟨imports', himports'⟩ := exists_imports evaluator xs
    refine ⟨imports, himports, ?_, ?_⟩
    · rw [← union_importKinds_otherKinds, exists_compile_union_iff]
      exact and_iff_right ⟨imports', himports'⟩
    · intro full others hfull hothers
      refine ⟨imports_subset himports hfull, ?_⟩
      rw [← union_importKinds_otherKinds] at hfull
      rw [← lines_imports himports' himports]
      exact lines_union hfull himports' hothers

end Directive
end NamespaceManifest
