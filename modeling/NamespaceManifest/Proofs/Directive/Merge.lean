import NamespaceManifest.Proofs.Block.Document
import NamespaceManifest.Proofs.Directive.Pass
import NamespaceManifest.Proofs.Directive.Resolve

/-!
# Merging imports into a body

A merge works on the lines of a body, not on the entries that the lines come from.  What this means is
seen when the imports of a pass are merged into the body of the same pass (`Settled`).  The body comes
back exactly if the entries that are no imports can be cut into lines without harm (`Steady`):

* cut in this way, the entries are still in strict order;
* none of the cut lines reads as an import, or is a line of an import;
* there is more to the body than one empty line.

This holds for imports that end in characters of their own, as those of a document do.  What a merge with
such imports gives is always settled (`settled_mergeImports`).  So is what such imports, in any order, give
together with single lines that are no imports and no lines of the imports (`physicalLines_mergeImports_self`).

Of the lines of a body a merge replaces the imports and no others (`mem_physicalLines_mergeImports_iff`).
-/

namespace NamespaceManifest
namespace Directive

open Text

/-! ## How imports end -/

/-- The imports of shaped blocks end in characters of their own. -/
theorem endsInText_of_contributes
    {evaluator : Option Evaluator} {block : Block} {l : String}
    (hblock : block.Shaped)
    (h : Contributes importKinds evaluator block l) :
    EndsInText l := by
  obtain ⟨tag, htag, kind, hk, hsel, r, hr, hl⟩ := h
  obtain ⟨raw, hraw⟩ := hblock tag htag
  have heval : kind ≠ .evalNamespace := by
    rintro rfl
    cases hsel
  exact endsInText_of_mem_resolve heval (fits_of_shapeTag hk hraw) hr hl

theorem endsInText_of_mem_imports
    {evaluator : Option Evaluator} {blocks : List Block} {imports : Pass}
    (hblocks : ∀ block ∈ blocks, block.Shaped)
    (h : compile importKinds evaluator blocks = .ok imports) :
    ∀ l ∈ imports.lines, EndsInText l := by
  intro l hl
  obtain ⟨block, hblock, hl⟩ := (mem_lines_iff h).mp hl
  exact endsInText_of_contributes (hblocks block hblock) hl

/-! ## The merged lines -/

section Merge

variable {imports entries : List String}

theorem pairwise_mergeImports
    (imports body : List String) :
    (mergeImports imports body).Pairwise (· < ·) := by
  exact pairwise_finalize _

/-- A merge keeps the lines of the body that are neither imports nor lines of the new imports. -/
theorem mem_mergeImports
    {body : List String} {l : String} :
    l ∈ mergeImports imports body ↔
      l ∈ imports ∨ l ∈ body ∧ l ∉ physicalLines imports ∧ isImportLine l = false := by
  simp [mergeImports]

theorem filter_mem_eq
    (hi : imports.Pairwise (· < ·))
    (he : entries.Pairwise (· < ·))
    (hsub : imports ⊆ entries) :
    (entries.filter fun e => e ∈ imports) = imports := by
  refine eq_of_pairwise_of_mem_iff (he.filter _) hi ?_
  intro l
  simp only [List.mem_filter, decide_eq_true_eq]
  constructor
  · exact fun hl => hl.2
  · exact fun hl => ⟨hsub hl, hl⟩

theorem subset_mergeImports
    (imports body : List String) :
    imports ⊆ mergeImports imports body := by
  intro e he
  rw [mem_mergeImports]
  exact Or.inl he

/-- No line of the new imports is lost in a merge. -/
theorem physicalLines_subset_mergeImports
    (hi : imports.Pairwise (· < ·))
    (body : List String) :
    physicalLines imports ⊆ physicalLines (mergeImports imports body) := by
  have hfilter := filter_mem_eq hi (pairwise_mergeImports imports body)
    (subset_mergeImports imports body)
  have hsublist : imports.Sublist (mergeImports imports body) := by
    conv_lhs => rw [← hfilter]
    exact List.filter_sublist
  exact physicalLines_subset hsublist

/-- A merge with nothing but imports gives the imports. -/
theorem mergeImports_of_subset
    {body : List String}
    (hsorted : imports.Pairwise (· < ·))
    (hbody : body ⊆ imports) :
    mergeImports imports body = imports := by
  refine eq_of_pairwise_of_mem_iff (pairwise_mergeImports imports body) hsorted ?_
  intro l
  rw [mem_mergeImports]
  constructor
  · rintro (hl | ⟨hl, -⟩)
    · exact hl
    · exact hbody hl
  · exact Or.inl

theorem ne_empty_of_isImportLine
    {l : String}
    (hl : isImportLine l = true) :
    l ≠ "" := by
  rintro rfl
  exact absurd hl (by decide)

/-- Laid out again, a merge has the lines of the imports and those lines of the body that are no imports, but
for empty ones. -/
theorem mem_physicalLines_mergeImports_iff
    {body : List String} {l : String}
    (hbody : ∀ m ∈ body, Unbroken m.toList)
    (hne : l ≠ "") :
    l ∈ physicalLines (mergeImports imports body) ↔
      l ∈ physicalLines imports ∨ l ∈ body ∧ isImportLine l = false := by
  constructor
  · intro hl
    obtain ⟨e, he, hl⟩ := (mem_physicalLines_iff hne).mp hl
    rw [mem_mergeImports] at he
    rcases he with himport | ⟨hkept, -, hline⟩
    · exact Or.inl ((mem_physicalLines_iff hne).mpr ⟨e, himport, hl⟩)
    · -- a line of the body is its own line
      have hself : laidOut e = [e] := laidOut_unbroken (hbody e hkept)
      have hmem : l ∈ laidOut e := (mem_laidOut_iff hne).mpr hl
      rw [hself, List.mem_singleton] at hmem
      subst hmem
      exact Or.inr ⟨hkept, hline⟩
  · intro hl
    by_cases hfresh : l ∈ physicalLines imports
    · obtain ⟨e, he, hl⟩ := (mem_physicalLines_iff hne).mp hfresh
      exact (mem_physicalLines_iff hne).mpr ⟨e, subset_mergeImports imports body he, hl⟩
    · obtain ⟨hin, hline⟩ := hl.resolve_left hfresh
      have hmerged : l ∈ mergeImports imports body := by
        rw [mem_mergeImports]
        exact Or.inr ⟨hin, hfresh, hline⟩
      refine (mem_physicalLines_iff hne).mpr ⟨l, hmerged, ?_⟩
      rw [lines_unbroken (hbody l hin) hne]
      simp

/-- The imports of a pass, merged into the body of the pass, give this body. -/
def Settled (imports entries : List String) : Prop :=
  physicalLines (mergeImports imports (physicalLines entries)) = physicalLines entries

/-- Entries of which those that are no imports are cut into their lines. -/
def cut (imports entries : List String) : List String :=
  (layout entries).flatMap fun x => if x.1 ∈ imports then [x.1] else x.2

/-- The lines of the entries that are no imports. -/
def rest (imports entries : List String) : List String :=
  ((layout entries).filter fun x => x.1 ∉ imports).flatMap Prod.snd

/-- The entries that are no imports can be cut into lines without harm. -/
structure Steady (imports entries : List String) : Prop where
  sorted : (cut imports entries).Pairwise (· < ·)
  apart : ∀ l ∈ cut imports entries, l ∉ imports →
    isImportLine l = false ∧ l ∉ physicalLines imports
  filled : cut imports entries ≠ [""]

/-- Imports among the entries of a pass. -/
structure Among (imports entries : List String) : Prop where
  sorted_imports : imports.Pairwise (· < ·)
  sorted_entries : entries.Pairwise (· < ·)
  subset : imports ⊆ entries
  ends : ∀ e ∈ imports, EndsInText e

theorem Among.filter_eq
    (h : Among imports entries) :
    (entries.filter fun e => e ∈ imports) = imports := by
  exact filter_mem_eq h.sorted_imports h.sorted_entries h.subset

theorem Among.map_fst_eq
    (h : Among imports entries) :
    ((layout entries).filter fun x => x.1 ∈ imports).map Prod.fst = imports := by
  calc ((layout entries).filter fun x => x.1 ∈ imports).map Prod.fst
      = ((layout entries).map Prod.fst).filter fun e => e ∈ imports := by
        rw [List.filter_map]
        rfl
    _ = imports := by
        rw [map_fst_layout, h.filter_eq]

theorem physicalLines_imports
    (h : ∀ e ∈ imports, EndsInText e) :
    physicalLines imports = imports.flatMap laidOut := by
  refine physicalLines_eq_flatMap_laidOut ?_
  intro e he
  exact h e (List.mem_of_getLast? he)

/-- Pieces of entries are, but for their order, those of the imports and the lines of the others. -/
theorem Among.flatMap_perm
    (h : Among imports entries)
    {g : String × List String → List String} {k : String → List String}
    (himport : ∀ x ∈ layout entries, x.1 ∈ imports → g x = k x.1)
    (hother : ∀ x ∈ layout entries, x.1 ∉ imports → g x = x.2) :
    ((layout entries).flatMap g).Perm (imports.flatMap k ++ rest imports entries) := by
  have hfirst :
      ((layout entries).filter fun x => x.1 ∈ imports).flatMap g = imports.flatMap k := by
    calc ((layout entries).filter fun x => x.1 ∈ imports).flatMap g
        = ((layout entries).filter fun x => x.1 ∈ imports).flatMap fun x => k x.1 := by
          refine List.flatMap_congr ?_
          intro x hx
          obtain ⟨hx, hmem⟩ := List.mem_filter.mp hx
          exact himport x hx (by simpa using hmem)
      _ = imports.flatMap k := by
          rw [← List.flatMap_map, h.map_fst_eq]
  have hsecond :
      ((layout entries).filter fun x => x.1 ∉ imports).flatMap g = rest imports entries := by
    refine List.flatMap_congr ?_
    intro x hx
    obtain ⟨hx, hmem⟩ := List.mem_filter.mp hx
    exact hother x hx (by simpa using hmem)
  have hperm := List.filter_append_perm (fun x : String × List String => decide (x.1 ∈ imports))
    (layout entries)
  rw [← hfirst, ← hsecond, ← List.flatMap_append]
  refine (List.Perm.flatMap_right g ?_).symm
  simpa using hperm

theorem Among.cut_perm
    (h : Among imports entries) :
    (cut imports entries).Perm (imports ++ rest imports entries) := by
  have hperm := h.flatMap_perm
    (g := fun x => if x.1 ∈ imports then [x.1] else x.2) (k := fun e => [e])
    (fun x _ hx => if_pos hx) (fun x _ hx => if_neg hx)
  rwa [List.flatMap_singleton'] at hperm

theorem Among.physicalLines_perm
    (h : Among imports entries) :
    (physicalLines entries).Perm (imports.flatMap laidOut ++ rest imports entries) := by
  rw [← flatMap_snd_layout]
  refine h.flatMap_perm ?_ (fun x _ _ => rfl)
  intro x hx hmem
  have hends := h.ends x.1 hmem
  rw [snd_layout_of_endsInText hx hends, laidOut_of_endsInText hends]

/-- Cutting entries does not change their layout. -/
theorem Among.flatMap_laidOut_cut
    (h : Among imports entries) :
    (cut imports entries).flatMap laidOut = physicalLines entries := by
  rw [cut, List.flatMap_assoc, ← flatMap_snd_layout]
  refine List.flatMap_congr ?_
  intro x hx
  by_cases hmem : x.1 ∈ imports
  · have hends := h.ends x.1 hmem
    rw [if_pos hmem, List.flatMap_singleton, snd_layout_of_endsInText hx hends,
      laidOut_of_endsInText hends]
  · have hsingle : x.2.flatMap laidOut = x.2.flatMap fun l => [l] :=
      List.flatMap_congr fun l hl => laidOut_unbroken (unbroken_of_mem_snd_layout hx hl)
    rw [if_neg hmem, hsingle, List.flatMap_singleton']

/-- Entries that are imports or unbroken are cut already. -/
theorem cut_eq_self
    (hunbroken : ∀ e ∈ entries, e ∉ imports → Unbroken e.toList)
    (hlast : entries.getLast? ≠ some "") :
    cut imports entries = entries := by
  unfold cut
  fun_induction layout entries with
  | case1 =>
      rfl
  | case2 e =>
      have he : e ≠ "" := by
        simpa using hlast
      by_cases hmem : e ∈ imports
      · simp [hmem]
      · simp [hmem, lines_unbroken (hunbroken e (by simp) hmem) he]
  | case3 e d entries ih =>
      have hlast : (d :: entries).getLast? ≠ some "" := by
        simpa [List.getLast?_cons_cons] using hlast
      have ih := ih (fun b hb => hunbroken b (List.mem_cons_of_mem e hb)) hlast
      rw [List.flatMap_cons, ih]
      by_cases hmem : e ∈ imports
      · simp [hmem]
      · simp [hmem, laidOut_unbroken (hunbroken e (by simp) hmem)]

/-- Of lines in strict order the last one is empty only if it is the only one. -/
theorem getLast?_ne_empty
    {ls : List String}
    (hsorted : ls.Pairwise (· < ·))
    (hne : ls ≠ [""]) :
    ls.getLast? ≠ some "" := by
  rcases List.eq_nil_or_concat ls with rfl | ⟨front, e, rfl⟩
  · simp
  · rw [List.concat_eq_append] at hsorted hne ⊢
    rw [List.getLast?_concat]
    rintro ⟨⟩
    cases front with
    | nil =>
        exact hne rfl
    | cons d front =>
        have hlt : d < "" := (List.pairwise_cons.mp hsorted).1 "" (by simp)
        rw [String.lt_iff_toList_lt] at hlt
        exact List.not_lt_nil _ hlt

/-- An import and a line that no import occupies do not start the same layout. -/
theorem laidOut_append_ne
    {e d : String} {es ds : List String}
    (he : e ∈ imports)
    (hd : Unbroken d.toList)
    (hfresh : d ∉ imports.flatMap laidOut) :
    laidOut e ++ es ≠ laidOut d ++ ds := by
  intro heq
  rw [laidOut_unbroken hd] at heq
  cases hlaid : laidOut e with
  | nil =>
      exact laidOut_ne_nil e hlaid
  | cons l ls =>
      rw [hlaid] at heq
      obtain rfl : l = d := (List.cons.inj heq).1
      refine hfresh (List.mem_flatMap.mpr ⟨e, he, ?_⟩)
      simp [hlaid]

/-- Imports and lines that no import occupies are known by their layout, once the imports are. -/
theorem eq_of_flatMap_laidOut_eq
    {as bs : List String}
    (has : ∀ e ∈ as, e ∉ imports → Unbroken e.toList ∧ e ∉ imports.flatMap laidOut)
    (hbs : ∀ e ∈ bs, e ∉ imports → Unbroken e.toList ∧ e ∉ imports.flatMap laidOut)
    (hfilter : (as.filter fun e => e ∈ imports) = bs.filter fun e => e ∈ imports)
    (hlaid : as.flatMap laidOut = bs.flatMap laidOut) :
    as = bs := by
  induction as generalizing bs with
  | nil =>
      cases bs with
      | nil =>
          rfl
      | cons b bs =>
          simp [laidOut_ne_nil] at hlaid
  | cons a as ih =>
      cases bs with
      | nil =>
          simp [laidOut_ne_nil] at hlaid
      | cons b bs =>
          obtain ⟨ha, has'⟩ := List.forall_mem_cons.mp has
          obtain ⟨hb, hbs'⟩ := List.forall_mem_cons.mp hbs
          rw [List.flatMap_cons, List.flatMap_cons] at hlaid
          by_cases hma : a ∈ imports
          · by_cases hmb : b ∈ imports
            · simp only [List.filter_cons, hma, hmb, decide_true, if_true,
                List.cons.injEq] at hfilter
              obtain ⟨rfl, hfilter⟩ := hfilter
              rw [ih has' hbs' hfilter (List.append_cancel_left hlaid)]
            · exact absurd hlaid (laidOut_append_ne hma (hb hmb).1 (hb hmb).2)
          · by_cases hmb : b ∈ imports
            · exact absurd hlaid.symm (laidOut_append_ne hmb (ha hma).1 (ha hma).2)
            · simp only [List.filter_cons, hma, hmb, decide_false, Bool.false_eq_true,
                if_false] at hfilter
              rw [laidOut_unbroken (ha hma).1, laidOut_unbroken (hb hmb).1] at hlaid
              obtain ⟨rfl, htail⟩ := List.cons.inj hlaid
              rw [ih has' hbs' hfilter htail]

theorem among_mergeImports
    (hsorted : imports.Pairwise (· < ·))
    (hends : ∀ e ∈ imports, EndsInText e)
    (body : List String) :
    Among imports (mergeImports imports body) where
  sorted_imports := hsorted
  sorted_entries := pairwise_mergeImports imports body
  subset := subset_mergeImports imports body
  ends := hends

theorem Among.merge
    (h : Among imports entries)
    (body : List String) :
    Among imports (mergeImports imports body) := by
  exact among_mergeImports h.sorted_imports h.ends body

section Body

variable {body : List String}

theorem unbroken_of_mem_mergeImports
    {e : String}
    (hbody : ∀ l ∈ body, Unbroken l.toList)
    (he : e ∈ mergeImports imports body)
    (hmem : e ∉ imports) :
    Unbroken e.toList := by
  rw [mem_mergeImports] at he
  rcases he with he | ⟨he, -, -⟩
  · exact absurd he hmem
  · exact hbody e he

/-- What is merged lies in a body as it is. -/
theorem cut_mergeImports
    (hbody : ∀ l ∈ body, Unbroken l.toList)
    (hne : mergeImports imports body ≠ [""]) :
    cut imports (mergeImports imports body) = mergeImports imports body := by
  refine cut_eq_self ?_ ?_
  · exact fun e he hmem => unbroken_of_mem_mergeImports hbody he hmem
  · exact getLast?_ne_empty (pairwise_mergeImports imports body) hne

end Body

theorem Among.filter_cut
    (h : Among imports entries)
    (hrest : ∀ l ∈ rest imports entries, l ∉ imports) :
    ((cut imports entries).filter fun e => e ∈ imports) = imports := by
  have hpiece : ∀ x ∈ layout entries,
      ((if x.1 ∈ imports then [x.1] else x.2).filter fun e => e ∈ imports) =
        [x.1].filter fun e => e ∈ imports := by
    intro x hx
    by_cases hmem : x.1 ∈ imports
    · rw [if_pos hmem]
    · have hout : ∀ l ∈ x.2, l ∉ imports := by
        intro l hl
        refine hrest l (List.mem_flatMap.mpr ⟨x, ?_, hl⟩)
        simp [hx, hmem]
      rw [if_neg hmem]
      simpa [hmem] using hout
  calc ((cut imports entries).filter fun e => e ∈ imports)
      = (layout entries).flatMap fun x => [x.1].filter fun e => e ∈ imports := by
        rw [cut, List.filter_flatMap, List.flatMap_congr hpiece]
    _ = entries.filter fun e => e ∈ imports := by
        rw [← List.filter_flatMap, ← List.map_eq_flatMap, map_fst_layout]
    _ = imports := h.filter_eq

/-- When a pass is settled, the other lines are just those that the merge keeps. -/
theorem Settled.rest_perm
    (h : Among imports entries)
    (hs : Settled imports entries) :
    (rest imports (mergeImports imports (physicalLines entries))).Perm (rest imports entries) := by
  have hmerged := (h.merge (physicalLines entries)).physicalLines_perm
  rw [hs] at hmerged
  exact (List.perm_append_left_iff _).mp (hmerged.symm.trans h.physicalLines_perm)

theorem Settled.merge_ne
    (h : Among imports entries)
    (hs : Settled imports entries) :
    mergeImports imports (physicalLines entries) ≠ [""] := by
  intro heq
  have hbody : physicalLines entries = [] := by
    rw [← hs, heq]
    decide
  have hmem : "" ∈ mergeImports imports (physicalLines entries) := by
    simp [heq]
  rw [mem_mergeImports] at hmem
  rcases hmem with himport | ⟨hin, -, -⟩
  · obtain ⟨c, hc, -⟩ := h.ends "" himport
    simp at hc
  · rw [hbody] at hin
    cases hin

theorem Among.mem_cut
    {l : String}
    (h : Among imports entries) :
    l ∈ cut imports entries ↔ l ∈ imports ∨ l ∈ rest imports entries := by
  rw [h.cut_perm.mem_iff, List.mem_append]

theorem unbroken_of_mem_rest
    {l : String}
    (hl : l ∈ rest imports entries) :
    Unbroken l.toList := by
  obtain ⟨x, hx, hl⟩ := List.mem_flatMap.mp hl
  exact unbroken_of_mem_snd_layout (List.mem_filter.mp hx).1 hl

/-- A settled pass has its other lines apart from its imports. -/
theorem Settled.apart_of_mem_rest
    {l : String}
    (h : Among imports entries)
    (hs : Settled imports entries)
    (hl : l ∈ rest imports entries) :
    l ∉ imports ∧ isImportLine l = false ∧ l ∉ physicalLines imports := by
  have hl := (hs.rest_perm h).mem_iff.mpr hl
  have hsplit := (h.merge (physicalLines entries)).cut_perm
  rw [cut_mergeImports (fun _ => unbroken_of_mem_physicalLines) (hs.merge_ne h)] at hsplit
  have hnodup : (imports ++ rest imports (mergeImports imports (physicalLines entries))).Nodup :=
    hsplit.nodup_iff.mp ((pairwise_mergeImports imports _).imp ne_of_lt)
  have hout : l ∉ imports := by
    intro hmem
    exact (List.nodup_append.mp hnodup).2.2 l hmem l hl rfl
  have hin : l ∈ mergeImports imports (physicalLines entries) :=
    hsplit.mem_iff.mpr (List.mem_append_right _ hl)
  rw [mem_mergeImports] at hin
  rcases hin with hmem | ⟨-, hnew, hline⟩
  · exact absurd hmem hout
  · exact ⟨hout, hline, hnew⟩

/-- A settled pass is merged to its entries, cut into lines. -/
theorem Settled.merge_eq_cut
    (h : Among imports entries)
    (hs : Settled imports entries) :
    mergeImports imports (physicalLines entries) = cut imports entries := by
  have hfresh := physicalLines_imports h.ends
  have hmerged := h.merge (physicalLines entries)
  refine @eq_of_flatMap_laidOut_eq imports _ _ ?_ ?_ ?_ ?_
  · intro e he hmem
    have hself := unbroken_of_mem_mergeImports (fun _ => unbroken_of_mem_physicalLines) he hmem
    rw [mem_mergeImports] at he
    obtain ⟨-, hnew, -⟩ := he.resolve_left hmem
    exact ⟨hself, hfresh ▸ hnew⟩
  · intro e he hmem
    rw [h.mem_cut] at he
    have hrest := he.resolve_left hmem
    exact ⟨unbroken_of_mem_rest hrest, hfresh ▸ (hs.apart_of_mem_rest h hrest).2.2⟩
  · rw [hmerged.filter_eq, h.filter_cut fun l hl => (hs.apart_of_mem_rest h hl).1]
  · have hlaid := hmerged.flatMap_laidOut_cut
    rw [cut_mergeImports (fun _ => unbroken_of_mem_physicalLines) (hs.merge_ne h)] at hlaid
    rw [hlaid, h.flatMap_laidOut_cut]
    exact hs

/-- A steady pass is merged to its entries, cut into lines. -/
theorem Steady.merge_eq_cut
    (h : Among imports entries)
    (hs : Steady imports entries) :
    mergeImports imports (physicalLines entries) = cut imports entries := by
  refine eq_of_pairwise_of_mem_iff (pairwise_mergeImports imports _) hs.sorted ?_
  intro l
  have hcut := h.mem_cut (l := l)
  rw [mem_mergeImports, h.physicalLines_perm.mem_iff, List.mem_append,
    ← physicalLines_imports h.ends]
  constructor
  · rintro (hmem | ⟨hmem | hrest, hnew, -⟩)
    · exact hcut.mpr (Or.inl hmem)
    · exact absurd hmem hnew
    · exact hcut.mpr (Or.inr hrest)
  · intro hl
    by_cases hmem : l ∈ imports
    · exact Or.inl hmem
    · obtain ⟨hline, hnew⟩ := hs.apart l hl hmem
      have hrest := (hcut.mp hl).resolve_left hmem
      exact Or.inr ⟨Or.inr hrest, hnew, hline⟩

/-- The body of a pass comes back from a merge with its imports exactly if the other entries can be
cut into lines without harm. -/
theorem settled_iff_steady
    (h : Among imports entries) :
    Settled imports entries ↔ Steady imports entries := by
  constructor
  · intro hs
    have hcut := hs.merge_eq_cut h
    refine ⟨?_, ?_, ?_⟩
    · rw [← hcut]
      exact pairwise_mergeImports imports _
    · intro l hl hmem
      rw [h.mem_cut] at hl
      exact (hs.apart_of_mem_rest h (hl.resolve_left hmem)).2
    · rw [← hcut]
      exact hs.merge_ne h
  · intro hs
    have hcut := hs.merge_eq_cut h
    have hne : mergeImports imports (physicalLines entries) ≠ [""] := by
      rw [hcut]
      exact hs.filled
    calc physicalLines (mergeImports imports (physicalLines entries))
        = (mergeImports imports (physicalLines entries)).flatMap laidOut := by
          rw [← (h.merge (physicalLines entries)).flatMap_laidOut_cut,
            cut_mergeImports (fun _ => unbroken_of_mem_physicalLines) hne]
      _ = physicalLines entries := by
          rw [hcut, h.flatMap_laidOut_cut]

/-- Merging the same imports once more changes nothing. -/
theorem settled_mergeImports
    {body : List String}
    (hsorted : imports.Pairwise (· < ·))
    (hends : ∀ e ∈ imports, EndsInText e)
    (hbody : ∀ l ∈ body, Unbroken l.toList) :
    Settled imports (mergeImports imports body) := by
  by_cases hempty : mergeImports imports body = [""]
  · -- an empty line on its own is not laid out, so that the second merge has nothing to start from
    have hnone : imports = [] := by
      rw [List.eq_nil_iff_forall_not_mem]
      intro e he
      have hmerged := subset_mergeImports imports body he
      rw [hempty, List.mem_singleton] at hmerged
      subst hmerged
      obtain ⟨c, hlast, -⟩ := hends "" he
      cases hlast
    have hlines : physicalLines [""] = [] := by
      decide
    rw [Settled, hempty, hnone, hlines,
      mergeImports_of_subset List.Pairwise.nil (List.nil_subset _), physicalLines_nil]
  · have hcut := cut_mergeImports hbody hempty
    rw [settled_iff_steady (among_mergeImports hsorted hends body)]
    refine ⟨?_, ?_, ?_⟩
    · rw [hcut]
      exact pairwise_mergeImports imports body
    · intro l hl hmem
      rw [hcut, mem_mergeImports] at hl
      obtain ⟨-, hnew, hline⟩ := hl.resolve_left hmem
      exact ⟨hline, hnew⟩
    · rwa [hcut]

end Merge

/-! ## Imports and other lines -/

section Apart

variable {imports others : List String}

/-- Entries that end in characters of their own are laid out line by line, with the lines of each and no
others. -/
theorem mem_physicalLines_finalize_iff
    {entries : List String} {l : String}
    (h : ∀ e ∈ entries, EndsInText e) :
    l ∈ physicalLines (finalize entries) ↔ ∃ e ∈ entries, l ∈ laidOut e := by
  have hends : ∀ e ∈ finalize entries, EndsInText e :=
    fun e he => h e (mem_finalize.mp he)
  rw [physicalLines_imports hends, List.mem_flatMap]
  simp only [mem_finalize]

/-- A body of imports and single lines that are apart from them has just these lines. -/
theorem mem_physicalLines_append_iff
    {l : String}
    (himports : ∀ e ∈ imports, EndsInText e)
    (hothers : ∀ m ∈ others, m ≠ "" ∧ Unbroken m.toList) :
    l ∈ physicalLines (finalize (imports ++ others)) ↔ l ∈ physicalLines imports ∨ l ∈ others := by
  have hends : ∀ e ∈ imports ++ others, EndsInText e := by
    intro e he
    rcases List.mem_append.mp he with he | he
    · exact himports e he
    · exact endsInText_of_unbroken (hothers e he).2 (hothers e he).1
  rw [mem_physicalLines_finalize_iff hends, physicalLines_imports himports, List.mem_flatMap]
  constructor
  · rintro ⟨e, he, hl⟩
    rcases List.mem_append.mp he with he | he
    · exact Or.inl ⟨e, he, hl⟩
    · rw [laidOut_unbroken (hothers e he).2, List.mem_singleton] at hl
      exact Or.inr (hl ▸ he)
  · rintro (⟨e, he, hl⟩ | hl)
    · exact ⟨e, List.mem_append_left _ he, hl⟩
    · refine ⟨l, List.mem_append_right _ hl, ?_⟩
      rw [laidOut_unbroken (hothers l hl).2]
      simp

/-- A merge takes the lines of the imports out of the body and puts the imports in their place, whatever the
order in which the lines stood there. -/
theorem mergeImports_finalize_append
    (himports : ∀ e ∈ imports, EndsInText e)
    (hothers : ∀ l ∈ others, l ≠ "" ∧ Unbroken l.toList)
    (hplain : ∀ l ∈ others, isImportLine l = false)
    (hfresh : ∀ l ∈ others, l ∉ physicalLines imports) :
    mergeImports imports (physicalLines (finalize (imports ++ others))) = finalize (imports ++ others) := by
  refine eq_of_pairwise_of_mem_iff (pairwise_mergeImports imports _) (pairwise_finalize _) ?_
  intro l
  rw [mem_mergeImports, mem_finalize, List.mem_append, mem_physicalLines_append_iff himports hothers]
  refine or_congr_right' fun _ => ?_
  constructor
  · rintro ⟨hl, hnew, -⟩
    exact hl.resolve_left hnew
  · exact fun hl => ⟨Or.inr hl, hfresh l hl, hplain l hl⟩

/-- Imports that are merged into the body which they and other lines were laid out in leave the body as it is. -/
theorem physicalLines_mergeImports_self
    (himports : ∀ e ∈ imports, EndsInText e)
    (hothers : ∀ l ∈ others, l ≠ "" ∧ Unbroken l.toList)
    (hplain : ∀ l ∈ others, isImportLine l = false)
    (hfresh : ∀ l ∈ others, l ∉ physicalLines imports) :
    let body := physicalLines (finalize (imports ++ others))
    physicalLines (mergeImports imports body) = body := by
  intro body
  rw [mergeImports_finalize_append himports hothers hplain hfresh]

theorem physicalLines_mergeImports_self_of_interleaved :
    let imports := ["useDynLib(m)", "zzz\naaa", "if (x)\n  import(stats)", "zzz\naaa"]
    let others := ["m", "export(f)"]
    let body := ["export(f)", "if (x)", "  import(stats)", "m", "useDynLib(m)", "zzz", "aaa"]
    (∀ e ∈ imports, EndsInText e) ∧
    (∀ l ∈ others, l ≠ "" ∧ Unbroken l.toList) ∧
    (∀ l ∈ others, isImportLine l = false) ∧
    (∀ l ∈ others, l ∉ physicalLines imports) ∧
    physicalLines (finalize (imports ++ others)) = body ∧
    physicalLines (mergeImports imports body) = body := by
  intro imports others body
  have himports : ∀ e ∈ imports, EndsInText e := by
    simp [imports, EndsInText, isLineBreak]
  have hothers : ∀ l ∈ others, l ≠ "" ∧ Unbroken l.toList := by
    decide
  have hplain : ∀ l ∈ others, isImportLine l = false := by
    decide
  have hfresh : ∀ l ∈ others, l ∉ physicalLines imports := by
    decide +kernel
  have hsorted : finalize (imports ++ others) =
      ["export(f)", "if (x)\n  import(stats)", "m", "useDynLib(m)", "zzz\naaa"] := by
    refine eq_of_pairwise_of_mem_iff (pairwise_finalize _) (by decide) fun l => ?_
    rw [mem_finalize]
    simp only [imports, others, List.cons_append, List.nil_append, List.mem_cons, List.not_mem_nil]
    tauto
  have hbody : physicalLines (finalize (imports ++ others)) = body := by
    rw [hsorted]
    decide +kernel
  have hself := physicalLines_mergeImports_self himports hothers hplain hfresh
  rw [hbody] at hself
  exact ⟨himports, hothers, hplain, hfresh, hbody, hself⟩

end Apart

/-- The imports of shaped blocks stand among the lines of a full pass. -/
theorem among_of_compile
    {evaluator : Option Evaluator} {blocks : List Block} {imports full : Pass}
    (hblocks : ∀ block ∈ blocks, block.Shaped)
    (hi : compile importKinds none blocks = .ok imports)
    (hf : compile allKinds evaluator blocks = .ok full) :
    Among imports.lines full.lines where
  sorted_imports := pairwise_lines hi
  sorted_entries := pairwise_lines hf
  subset := imports_subset hi hf
  ends := endsInText_of_mem_imports hblocks hi

end Directive
end NamespaceManifest
