import NamespaceManifest.Directive.Pass
import NamespaceManifest.Proofs.Directive.Shape
import NamespaceManifest.Proofs.Steps
import Mathlib.Data.List.Sort
import Mathlib.Data.String.Basic

/-!
# Laws of passes

The lines of a pass are a set in disguise: they are in strictly increasing order, so that they are known
once it is known which lines they are.  A line is among them exactly if some tag of some block
contributes it (`mem_lines_iff`).  The issues of a pass are those that the tags leave, each tag once
(`perm_issues`).

A pass succeeds exactly if every tag that it selects can be resolved (`exists_compile_iff`), and it fails only
because of a fragment that gives no lines (`fragmentFails_of_compile`).  The import family can always be
resolved (`exists_imports`), whatever the evaluator is, and its lines are among those of a full pass
(`imports_subset`).
-/

namespace NamespaceManifest
namespace Directive

/-! ## Sorted lines -/

theorem nodup_eraseDups
    (xs : List String) :
    xs.eraseDups.Nodup := by
  induction hn : xs.length using Nat.strong_induction_on generalizing xs with
  | _ n ih =>
      cases xs with
      | nil =>
          simp
      | cons x xs =>
          rw [List.eraseDups_cons, List.nodup_cons]
          constructor
          · simp [List.mem_eraseDups]
          · have hlt : (xs.filter fun b => !b == x).length < n := by
              have := List.length_filter_le (fun b => !b == x) xs
              simp only [List.length_cons] at hn
              omega
            exact ih _ hlt _ rfl

@[simp] theorem mem_finalize
    {l : String} {xs : List String} :
    l ∈ finalize xs ↔ l ∈ xs := by
  simp [finalize, List.mem_eraseDups]

/-- Lines are sorted strictly. -/
theorem pairwise_finalize
    (xs : List String) :
    (finalize xs).Pairwise (· < ·) := by
  have hsorted : (finalize xs).Pairwise fun a b => decide (a ≤ b) = true := by
    refine List.pairwise_mergeSort ?_ ?_ _
    · intro a b c hab hbc
      simp only [decide_eq_true_eq] at hab hbc ⊢
      exact le_trans hab hbc
    · intro a b
      simp only [Bool.or_eq_true, decide_eq_true_eq]
      exact le_total a b
  have hnodup : (finalize xs).Nodup :=
    (List.mergeSort_perm _ _).nodup_iff.mpr (nodup_eraseDups xs)
  refine (hsorted.and hnodup).imp ?_
  rintro a b ⟨hle, hne⟩
  exact lt_of_le_of_ne (by simpa using hle) hne

/-- Lines in strict order are determined by which they are. -/
theorem eq_of_pairwise_of_mem_iff
    {xs ys : List String}
    (hx : xs.Pairwise (· < ·))
    (hy : ys.Pairwise (· < ·))
    (h : ∀ l, l ∈ xs ↔ l ∈ ys) :
    xs = ys := by
  have hperm : xs.Perm ys := by
    refine (List.perm_ext_iff_of_nodup ?_ ?_).mpr h
    · exact hx.imp ne_of_lt
    · exact hy.imp ne_of_lt
  refine hperm.eq_of_pairwise ?_ (hx.imp le_of_lt) (hy.imp le_of_lt)
  intro a b _ _ hab hba
  exact le_antisymm hab hba

/-! ## Contributions of tags -/

/-- A tag of a block whose kind is in a set contributes a line. -/
def Contributes (kinds : KindSet) (evaluator : Option Evaluator) (block : Block) (l : String) :
    Prop :=
  ∃ tag ∈ block.tags, ∃ kind, Kind.ofTag? tag.name = some kind ∧ kinds kind = true ∧
    ∃ r, resolve evaluator block kind tag.value = .ok r ∧ l ∈ r.lines

/-- Every tag of a block whose kind is in a set can be resolved. -/
def Resolvable (kinds : KindSet) (evaluator : Option Evaluator) (block : Block) : Prop :=
  ∀ tag ∈ block.tags, ∀ kind, Kind.ofTag? tag.name = some kind → kinds kind = true →
    ∃ r, resolve evaluator block kind tag.value = .ok r

/-- The visits that a tag of a block asks for. -/
def visitsOf (kinds : KindSet) (tag : Tag) : List (Kind × TagValue) :=
  match Kind.ofTag? tag.name with
  | some kind => if kinds kind then [(kind, tag.value)] else []
  | none => []

theorem mem_visitsOf_iff
    {kinds : KindSet} {tag : Tag} {kind : Kind} {value : TagValue} :
    (kind, value) ∈ visitsOf kinds tag ↔
      kinds kind = true ∧ Kind.ofTag? tag.name = some kind ∧ tag.value = value := by
  unfold visitsOf
  split
  · rename_i k hk
    by_cases hsel : kinds k = true
    · simp only [hsel, if_true, List.mem_singleton, Prod.mk.injEq, hk, Option.some.injEq]
      constructor
      · rintro ⟨rfl, rfl⟩
        exact ⟨hsel, rfl, rfl⟩
      · rintro ⟨-, rfl, rfl⟩
        exact ⟨rfl, rfl⟩
    · simp only [hsel, Bool.false_eq_true, if_false, List.not_mem_nil, false_iff, hk,
        Option.some.injEq, not_and]
      rintro hkind rfl
      exact absurd hkind hsel
  · rename_i hk
    simp [hk]

/-- A list is put together again from its groups. -/
theorem perm_flatMap_groups
    {α : Type}
    (key : α → String)
    (xs : List α) :
    ((xs.map key).eraseDups.flatMap fun k => xs.filter fun x => key x == k).Perm xs := by
  induction hn : xs.length using Nat.strong_induction_on generalizing xs with
  | _ n ih =>
      cases xs with
      | nil =>
          simp
      | cons x xs =>
          -- The first group holds the items with the key of `x`; the other groups are those of the rest.
          obtain ⟨others, hothers⟩ :
              ∃ others, (x :: xs).filter (fun y => !key y == key x) = others := ⟨_, rfl⟩
          have hrest : xs.filter (fun y => !key y == key x) = others := by
            simpa using hothers
          have hlt : others.length < n := by
            have := List.length_filter_le (fun y => !key y == key x) xs
            rw [hrest] at this
            simp only [List.length_cons] at hn
            omega
          have hkeys : ((x :: xs).map key).eraseDups = key x :: (others.map key).eraseDups := by
            rw [List.map_cons, List.eraseDups_cons, List.filter_map, ← hrest]
            rfl
          have hgroup : ∀ k ∈ (others.map key).eraseDups,
              (x :: xs).filter (fun y => key y == k) = others.filter fun y => key y == k := by
            intro k hk
            obtain ⟨y, hy, rfl⟩ := List.mem_map.mp (List.mem_eraseDups.mp hk)
            rw [← hothers] at hy ⊢
            have hne : key y ≠ key x := by simpa using (List.mem_filter.mp hy).2
            rw [List.filter_filter]
            refine List.filter_congr fun z _ => ?_
            by_cases hz : key z = key y
            · simp [hz, hne]
            · simp [hz]
          rw [hkeys, List.flatMap_cons, List.flatMap_congr hgroup]
          refine ((ih _ hlt others rfl).append_left _).trans ?_
          rw [← hothers]
          exact List.filter_append_perm _ _

/-- The tags of a block are visited group by group. -/
theorem visits_eq_flatMap
    (kinds : KindSet)
    (block : Block) :
    visits kinds block = (block.tagNames.flatMap block.occurrences).flatMap (visitsOf kinds) := by
  rw [visits, List.flatMap_assoc]
  refine List.flatMap_congr fun name _ => ?_
  have hname : ∀ tag ∈ block.occurrences name, tag.name = name := by
    intro tag htag
    simpa using (List.mem_filter.mp htag).2
  have hvisits : ∀ tag ∈ block.occurrences name,
      visitsOf kinds tag = visitsOf kinds { tag with name := name } := by
    intro tag htag
    rw [← hname tag htag]
  rw [List.flatMap_congr hvisits]
  cases hk : Kind.ofTag? name with
  | none =>
      simp [visitsOf, hk]
  | some kind =>
      by_cases hsel : kinds kind = true
      · simp [visitsOf, hk, hsel, List.map_eq_flatMap]
      · simp [visitsOf, hk, hsel]

/-- The tags of a block are visited once each. -/
theorem perm_visits
    (kinds : KindSet)
    (block : Block) :
    (visits kinds block).Perm (block.tags.flatMap (visitsOf kinds)) := by
  rw [visits_eq_flatMap]
  exact (perm_flatMap_groups Tag.name block.tags).flatMap_right _

/-- The visited tags are the tags of the selected kinds. -/
theorem mem_visits_iff
    {kinds : KindSet} {block : Block} {kind : Kind} {value : TagValue} :
    (kind, value) ∈ visits kinds block ↔
      kinds kind = true ∧
        ∃ tag ∈ block.tags, Kind.ofTag? tag.name = some kind ∧ tag.value = value := by
  rw [(perm_visits kinds block).mem_iff, List.mem_flatMap]
  simp only [mem_visitsOf_iff]
  constructor
  · rintro ⟨tag, htag, hsel, hk, rfl⟩
    exact ⟨hsel, tag, htag, hk, rfl⟩
  · rintro ⟨hsel, tag, htag, hk, rfl⟩
    exact ⟨tag, htag, hsel, hk, rfl⟩

/-- Every kind is available to a pass. -/
theorem visit_eq_ok_iff
    {evaluator : Option Evaluator} {block : Block} {v : Kind × TagValue} {r : Resolution} :
    visit allKinds evaluator block v = .ok r ↔ resolve evaluator block v.1 v.2 = .ok r := by
  cases h : resolve evaluator block v.1 v.2 <;> simp [visit, allKinds, h]

/-- The lines of a block are those that its tags contribute. -/
theorem mem_compileBlock_lines
    {kinds : KindSet} {evaluator : Option Evaluator} {block : Block} {r : Resolution} {l : String}
    (h : compileBlock allKinds kinds evaluator block = .ok r) :
    l ∈ r.lines ↔ Contributes kinds evaluator block l := by
  obtain ⟨parts, hparts, rfl⟩ := bind_pure_eq_ok_iff.mp h
  simp only [List.mem_flatMap, mem_of_mapM_eq_ok hparts, visit_eq_ok_iff]
  constructor
  · rintro ⟨r, ⟨⟨kind, value⟩, hv, hr⟩, hl⟩
    rw [mem_visits_iff] at hv
    obtain ⟨hsel, tag, htag, hk, rfl⟩ := hv
    exact ⟨tag, htag, kind, hk, hsel, r, hr, hl⟩
  · rintro ⟨tag, htag, kind, hk, hsel, r, hr, hl⟩
    have hv : (kind, tag.value) ∈ visits kinds block := by
      rw [mem_visits_iff]
      exact ⟨hsel, tag, htag, hk, rfl⟩
    exact ⟨r, ⟨(kind, tag.value), hv, hr⟩, hl⟩

/-- The issues that a tag of a block leaves in a pass for a set of kinds. -/
def issuesOf (kinds : KindSet) (evaluator : Option Evaluator) (block : Block) (tag : Tag) :
    List Issue :=
  (visitsOf kinds tag).flatMap fun v =>
    match resolve evaluator block v.1 v.2 with
    | .ok r => r.issues
    | .error _ => []

/-- The issues of a block are those that its tags leave. -/
theorem perm_compileBlock_issues
    {kinds : KindSet} {evaluator : Option Evaluator} {block : Block} {r : Resolution}
    (h : compileBlock allKinds kinds evaluator block = .ok r) :
    r.issues.Perm (block.tags.flatMap (issuesOf kinds evaluator block)) := by
  obtain ⟨parts, hparts, rfl⟩ := bind_pure_eq_ok_iff.mp h
  have hissues : ∀ v part, visit allKinds evaluator block v = .ok part →
      part.issues.Perm
        (match resolve evaluator block v.1 v.2 with
        | .ok r => r.issues
        | .error _ => []) := by
    intro v part hpart
    rw [visit_eq_ok_iff] at hpart
    rw [hpart]
  refine (perm_flatMap_of_mapM_eq_ok hparts hissues).trans ?_
  refine ((perm_visits kinds block).flatMap_right _).trans ?_
  rw [List.flatMap_assoc]
  exact List.Perm.refl _

section Pass

variable {kinds : KindSet} {evaluator : Option Evaluator} {blocks : List Block} {pass : Pass}

/-- A pass sorts what it collects. -/
theorem exists_collect_of_compile
    (h : compile kinds evaluator blocks = .ok pass) :
    ∃ found, collect allKinds kinds evaluator blocks = .ok found ∧
      pass = { lines := finalize found.lines, issues := found.issues } := by
  obtain ⟨found, hfound, rfl⟩ := bind_pure_eq_ok_iff.mp h
  exact ⟨found, hfound, rfl⟩

theorem compile_of_collect
    {found : Resolution}
    (h : collect allKinds kinds evaluator blocks = .ok found) :
    compile kinds evaluator blocks =
      .ok { lines := finalize found.lines, issues := found.issues } := by
  rw [compile, compileWith, h]
  rfl

/-- The lines of a pass are in strict order. -/
theorem pairwise_lines
    (h : compile kinds evaluator blocks = .ok pass) :
    pass.lines.Pairwise (· < ·) := by
  obtain ⟨found, -, rfl⟩ := exists_collect_of_compile h
  exact pairwise_finalize found.lines

/-- In a pass that succeeds every block can be resolved. -/
theorem exists_compileBlock_of_compile
    {block : Block}
    (h : compile kinds evaluator blocks = .ok pass)
    (hblock : block ∈ blocks) :
    ∃ r, compileBlock allKinds kinds evaluator block = .ok r := by
  obtain ⟨found, hfound, -⟩ := exists_collect_of_compile h
  obtain ⟨parts, hparts, -⟩ := bind_pure_eq_ok_iff.mp hfound
  exact exists_mapM_eq_ok_iff.mp ⟨parts, hparts⟩ block hblock

theorem exists_compileBlock_iff
    {block : Block} :
    (∃ r, compileBlock allKinds kinds evaluator block = .ok r) ↔
      Resolvable kinds evaluator block := by
  have hvisits : (∃ r, compileBlock allKinds kinds evaluator block = .ok r) ↔
      ∃ parts, (visits kinds block).mapM (visit allKinds evaluator block) = .ok parts := by
    simp only [compileBlock, bind_pure_eq_ok_iff]
    constructor
    · rintro ⟨r, parts, hparts, -⟩
      exact ⟨parts, hparts⟩
    · rintro ⟨parts, hparts⟩
      exact ⟨_, parts, hparts, rfl⟩
  rw [hvisits, exists_mapM_eq_ok_iff]
  simp only [visit_eq_ok_iff, Prod.forall, mem_visits_iff]
  constructor
  · intro hall tag htag kind hkind hsel
    exact hall kind tag.value ⟨hsel, tag, htag, hkind, rfl⟩
  · rintro hall kind value ⟨hsel, tag, htag, hkind, rfl⟩
    exact hall tag htag kind hkind hsel

/-- A pass succeeds exactly if every selected tag of every block can be resolved. -/
theorem exists_compile_iff :
    (∃ pass, compile kinds evaluator blocks = .ok pass) ↔
      ∀ block ∈ blocks, Resolvable kinds evaluator block := by
  constructor
  · rintro ⟨pass, hpass⟩ block hblock
    rw [← exists_compileBlock_iff]
    exact exists_compileBlock_of_compile hpass hblock
  · intro hall
    simp only [← exists_compileBlock_iff] at hall
    obtain ⟨parts, hparts⟩ := exists_mapM_eq_ok_iff.mpr hall
    exact ⟨_, compile_of_collect (bind_pure_eq_ok_iff.mpr ⟨parts, hparts, rfl⟩)⟩

/-- In a pass that succeeds every selected tag can be resolved. -/
theorem exists_resolve_of_compile
    {block : Block} {tag : Tag} {kind : Kind}
    (h : compile kinds evaluator blocks = .ok pass)
    (hblock : block ∈ blocks)
    (htag : tag ∈ block.tags)
    (hkind : Kind.ofTag? tag.name = some kind)
    (hsel : kinds kind = true) :
    ∃ r, resolve evaluator block kind tag.value = .ok r := by
  have hall : ∀ block ∈ blocks, Resolvable kinds evaluator block := by
    rw [← exists_compile_iff]
    exact ⟨pass, h⟩
  exact hall block hblock tag htag kind hkind hsel

/-- The lines of a pass are those that the blocks contribute. -/
theorem mem_lines_iff
    {l : String}
    (h : compile kinds evaluator blocks = .ok pass) :
    l ∈ pass.lines ↔ ∃ block ∈ blocks, Contributes kinds evaluator block l := by
  have hblocks : ∀ block ∈ blocks, ∃ r, compileBlock allKinds kinds evaluator block = .ok r :=
    fun _ hblock => exists_compileBlock_of_compile h hblock
  obtain ⟨found, hfound, rfl⟩ := exists_collect_of_compile h
  obtain ⟨parts, hparts, rfl⟩ := bind_pure_eq_ok_iff.mp hfound
  simp only [mem_finalize, List.mem_flatMap, mem_of_mapM_eq_ok hparts]
  constructor
  · rintro ⟨r, ⟨block, hblock, hr⟩, hl⟩
    exact ⟨block, hblock, (mem_compileBlock_lines hr).mp hl⟩
  · rintro ⟨block, hblock, hl⟩
    obtain ⟨r, hr⟩ := hblocks block hblock
    exact ⟨r, ⟨block, hblock, hr⟩, (mem_compileBlock_lines hr).mpr hl⟩

/-- The issues of a pass are those that the tags of the blocks leave. -/
theorem perm_issues
    (h : compile kinds evaluator blocks = .ok pass) :
    pass.issues.Perm
      (blocks.flatMap fun block => block.tags.flatMap (issuesOf kinds evaluator block)) := by
  obtain ⟨found, hfound, rfl⟩ := exists_collect_of_compile h
  obtain ⟨parts, hparts, rfl⟩ := bind_pure_eq_ok_iff.mp hfound
  exact perm_flatMap_of_mapM_eq_ok hparts fun _ _ hr => perm_compileBlock_issues hr

end Pass

/-! ## The import family -/

/-- Tags of the import family yield lines, and the value of a tag alone decides which. -/
theorem exists_lines_of_isImport
    {kind : Kind}
    (hk : kind.isImport = true)
    (value : TagValue) :
    ∃ lines, ∀ evaluator block, resolve evaluator block kind value = .ok (.ofLines lines) := by
  cases kind
  case imports | importFrom | importClassesFrom | importMethodsFrom | useDynLib | rawNamespace =>
    exact ⟨_, fun _ _ => rfl⟩
  all_goals
    cases hk

/-- Tags of the import family are resolved, and need no evaluator for it. -/
theorem exists_resolve_of_isImport
    {kind : Kind}
    (hk : kind.isImport = true)
    (block : Block)
    (value : TagValue) :
    ∃ r, ∀ evaluator, resolve evaluator block kind value = .ok r := by
  obtain ⟨lines, hlines⟩ := exists_lines_of_isImport hk value
  exact ⟨.ofLines lines, fun evaluator => hlines evaluator block⟩

/-- The import family of any blocks can be resolved. -/
theorem exists_imports
    (evaluator : Option Evaluator)
    (blocks : List Block) :
    ∃ pass, compile importKinds evaluator blocks = .ok pass := by
  rw [exists_compile_iff]
  intro block _ tag _ kind _ hsel
  obtain ⟨r, hr⟩ := exists_resolve_of_isImport hsel block tag.value
  exact ⟨r, hr evaluator⟩

/-- What the import family contributes is contributed to a full pass. -/
theorem Contributes.of_imports
    {block : Block} {l : String}
    (evaluator : Option Evaluator)
    (h : Contributes importKinds none block l) :
    Contributes allKinds evaluator block l := by
  obtain ⟨tag, htag, kind, hk, hsel, r, hr, hl⟩ := h
  obtain ⟨r', hr'⟩ := exists_resolve_of_isImport hsel block tag.value
  obtain rfl : r' = r := Except.ok.inj ((hr' none).symm.trans hr)
  exact ⟨tag, htag, kind, hk, rfl, r', hr' evaluator, hl⟩

/-- The imports are among the lines of a full pass. -/
theorem imports_subset
    {evaluator : Option Evaluator} {blocks : List Block} {imports full : Pass}
    (hi : compile importKinds none blocks = .ok imports)
    (hf : compile allKinds evaluator blocks = .ok full) :
    imports.lines ⊆ full.lines := by
  intro l hl
  obtain ⟨block, hblock, h⟩ := (mem_lines_iff hi).mp hl
  exact (mem_lines_iff hf).mpr ⟨block, hblock, h.of_imports evaluator⟩

/-! ## Fragments -/

/-- A fragment of some block gives no manifest lines. -/
def FragmentFails (evaluator : Option Evaluator) (blocks : List Block) (fault : EvaluationError) :
    Prop :=
  ∃ block ∈ blocks, ∃ tag ∈ block.tags, tag.name = Kind.evalNamespace.tag ∧
    Evaluation.linesOf evaluator block tag.value.toText = .error fault

/-- Only a fragment can fail to be resolved. -/
theorem resolve_eq_error_iff
    {evaluator : Option Evaluator} {block : Block} {kind : Kind} {value : TagValue}
    {fault : EvaluationError} :
    resolve evaluator block kind value = .error fault ↔
      kind = .evalNamespace ∧ Evaluation.linesOf evaluator block value.toText = .error fault := by
  cases kind
  case evalNamespace =>
    simp only [resolve, true_and]
    cases Evaluation.linesOf evaluator block value.toText <;> simp [Except.map]
  all_goals
    simp [resolve]

/-- A tag that is no fragment is resolved, whatever its value is. -/
theorem exists_resolve_of_ne
    {kind : Kind}
    (hkind : kind ≠ .evalNamespace)
    (evaluator : Option Evaluator)
    (block : Block)
    (value : TagValue) :
    ∃ found, resolve evaluator block kind value = .ok found := by
  cases hresolve : resolve evaluator block kind value with
  | ok found =>
      exact ⟨found, rfl⟩
  | error fault =>
      rw [resolve_eq_error_iff] at hresolve
      exact absurd hresolve.1 hkind

/-- A pass fails because of a fragment. -/
theorem fragmentFails_of_compile
    {kinds : KindSet} {evaluator : Option Evaluator} {blocks : List Block} {e : Error}
    (h : compile kinds evaluator blocks = .error e) :
    ∃ fault, e = .evaluation fault ∧ FragmentFails evaluator blocks fault := by
  have hblocks := bind_pure_eq_error_iff.mp (bind_pure_eq_error_iff.mp h)
  obtain ⟨block, hblock, hfail⟩ := exists_of_mapM_eq_error hblocks
  have hvisits := bind_pure_eq_error_iff.mp hfail
  obtain ⟨⟨kind, value⟩, hv, hvisit⟩ := exists_of_mapM_eq_error hvisits
  rw [mem_visits_iff] at hv
  obtain ⟨-, tag, htag, hkind, rfl⟩ := hv
  cases hresolve : resolve evaluator block kind tag.value with
  | ok r =>
      simp [visit, allKinds, hresolve] at hvisit
  | error fault =>
      obtain rfl : Error.evaluation fault = e := by
        simpa [visit, allKinds, hresolve] using hvisit
      rw [resolve_eq_error_iff] at hresolve
      obtain ⟨rfl, hlines⟩ := hresolve
      exact ⟨fault, rfl, block, hblock, tag, htag, (Kind.tag_of_ofTag? hkind).symm, hlines⟩

/-- No full pass succeeds over a fragment that fails. -/
theorem FragmentFails.compile_ne
    {evaluator : Option Evaluator} {blocks : List Block} {fault : EvaluationError}
    (h : FragmentFails evaluator blocks fault)
    (full : Pass) :
    compile allKinds evaluator blocks ≠ .ok full := by
  intro hfull
  obtain ⟨block, hblock, tag, htag, hname, hlines⟩ := h
  obtain ⟨r, hr⟩ := exists_resolve_of_compile hfull hblock htag (hname ▸ Kind.ofTag?_tag _) rfl
  have hfails : resolve evaluator block .evalNamespace tag.value = .error fault := by
    rw [resolve_eq_error_iff]
    exact ⟨rfl, hlines⟩
  rw [hfails] at hr
  cases hr

end Directive
end NamespaceManifest
