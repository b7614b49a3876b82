import NamespaceManifest.Proofs.Directive.Pass
import Mathlib.Data.List.Forall2

/-!
# Passes in source order

A pass visits the tags of a block name by name and looks through the block again for every name.  It comes to
the same thing as going through the blocks from the first tag to the last.

* Groups keep the order of the tags of one name (`filter_groups`), and only tags of one name can fail.  So a pass
  stops at the first fragment in source order that fails (`compile_eq_error_iff`), although it may have left out
  other tags before it.
* Every tag is visited once, so that nothing is lost or doubled, and a block leaves its issues in another order
  at most (`fromTags_of_compile`).

Both together say what a pass over any blocks is (`compile_of_tagsInOrder`).
-/

namespace NamespaceManifest
namespace Directive

/-! ## The first fault -/

section Faults

variable {ε α β : Type}

/-- The fault of an outcome, if it is a failure. -/
def fault? : Except ε α → Option ε
  | .ok _ => none
  | .error e => some e

theorem fault?_eq_some_iff
    {x : Except ε α} {e : ε} :
    fault? x = some e ↔ x = .error e := by
  cases x <;> simp [fault?]

theorem fault?_bind_pure
    (x : Except ε α)
    (g : α → β) :
    fault? (x >>= fun a => pure (g a)) = fault? x := by
  cases x <;> rfl

/-- Steps stop at the first one that fails. -/
theorem fault?_mapM
    (f : α → Except ε β)
    (xs : List α) :
    fault? (xs.mapM f) = xs.findSome? fun x => fault? (f x) := by
  induction xs with
  | nil =>
      rfl
  | cons x xs ih =>
      rw [List.mapM_cons, List.findSome?_cons, ← ih]
      cases f x with
      | error e =>
          rfl
      | ok y =>
          exact fault?_bind_pure (xs.mapM f) (y :: ·)

theorem findSome?_flatMap
    {γ : Type}
    (f : β → Option γ)
    (g : α → List β)
    (xs : List α) :
    (xs.flatMap g).findSome? f = xs.findSome? fun x => (g x).findSome? f := by
  induction xs with
  | nil =>
      rfl
  | cons x xs ih =>
      rw [List.flatMap_cons, List.findSome?_append, ih, List.findSome?_cons]
      cases (g x).findSome? f <;> rfl

theorem findSome?_filter_of_none
    {p : α → Bool} {f : α → Option β}
    (h : ∀ a, p a = false → f a = none)
    (xs : List α) :
    (xs.filter p).findSome? f = xs.findSome? f := by
  induction xs with
  | nil =>
      rfl
  | cons x xs ih =>
      cases hx : p x with
      | true =>
          rw [List.filter_cons_of_pos hx, List.findSome?_cons, List.findSome?_cons, ih]
      | false =>
          rw [List.filter_cons_of_neg (by simp [hx]), List.findSome?_cons, h x hx, ih]

end Faults

/-! ## Groups -/

/-- Of groups that are visited once each, only one holds items of a key. -/
theorem flatMap_of_nodup
    {α : Type} {f : String → List α} {k : String} {ks : List String}
    (hnodup : ks.Nodup)
    (hother : ∀ k', k' ≠ k → f k' = [])
    (hmissing : k ∉ ks → f k = []) :
    ks.flatMap f = f k := by
  induction hnodup with
  | nil =>
      exact (hmissing List.not_mem_nil).symm
  | @cons k' ks hne hnodup ih =>
      rw [List.flatMap_cons]
      by_cases hk : k' = k
      · subst hk
        have hrest : ks.flatMap f = [] :=
          List.flatMap_eq_nil_iff.mpr fun x hx => hother x (hne x hx).symm
        rw [hrest, List.append_nil]
      · rw [hother k' hk, List.nil_append]
        refine ih fun hmem => hmissing ?_
        simp [hmem, Ne.symm hk]

/-- Groups keep the order of the items of one key. -/
theorem filter_groups
    {α : Type}
    (key : α → String)
    (k : String)
    (xs : List α) :
    ((xs.map key).eraseDups.flatMap fun k' => xs.filter fun x => key x == k').filter
        (fun x => key x == k) =
      xs.filter fun x => key x == k := by
  rw [List.filter_flatMap, flatMap_of_nodup (nodup_eraseDups _) (k := k)]
  · simp
  · intro k' hk
    refine List.filter_eq_nil_iff.mpr fun x hx => ?_
    have hkey : key x = k' := by simpa using (List.mem_filter.mp hx).2
    simp [hkey, hk]
  · intro hmissing
    refine List.filter_eq_nil_iff.mpr fun x hx hkey => hmissing ?_
    have hk : key x = k := by simpa using hkey
    rw [List.mem_eraseDups, ← hk]
    exact List.mem_map_of_mem (List.mem_filter.mp hx).1

/-! ## The first fragment that fails -/

/-- A tag of a block is a selected fragment that gives no manifest lines. -/
structure Fails (kinds : KindSet) (evaluator : Option Evaluator) (block : Block) (tag : Tag)
    (fault : EvaluationError) : Prop where
  selected : kinds .evalNamespace = true
  name_eq : tag.name = Kind.evalNamespace.tag
  lines_eq : Evaluation.linesOf evaluator block tag.value.toText = .error fault

/-- The tags of all blocks in source order, each with its block. -/
def tagsInOrder (blocks : List Block) : List (Block × Tag) :=
  blocks.flatMap fun block => block.tags.map fun tag => (block, tag)

/-- The first tag in source order that fails has this fault. -/
def FirstFault (kinds : KindSet) (evaluator : Option Evaluator) (blocks : List Block)
    (fault : EvaluationError) : Prop :=
  ∃ before block tag after,
    tagsInOrder blocks = before ++ (block, tag) :: after ∧
    Fails kinds evaluator block tag fault ∧
    ∀ o ∈ before, ∀ fault', ¬ Fails kinds evaluator o.1 o.2 fault'

section Faults

variable {kinds : KindSet} {evaluator : Option Evaluator} {block : Block} {blocks : List Block}

/-- The fault of a tag of a block, if it is selected and cannot be resolved. -/
def tagFault? (kinds : KindSet) (evaluator : Option Evaluator) (block : Block) (tag : Tag) :
    Option EvaluationError :=
  (visitsOf kinds tag).findSome? fun v => fault? (resolve evaluator block v.1 v.2)

theorem tagFault?_eq_some_iff
    {tag : Tag} {fault : EvaluationError} :
    tagFault? kinds evaluator block tag = some fault ↔ Fails kinds evaluator block tag fault := by
  constructor
  · intro h
    obtain ⟨⟨kind, value⟩, hv, hfault⟩ := List.exists_of_findSome?_eq_some h
    obtain ⟨hsel, hkind, rfl⟩ := mem_visitsOf_iff.mp hv
    rw [fault?_eq_some_iff, resolve_eq_error_iff] at hfault
    obtain ⟨rfl, hlines⟩ := hfault
    exact ⟨hsel, (Kind.tag_of_ofTag? hkind).symm, hlines⟩
  · rintro ⟨hsel, hname, hlines⟩
    have hvisits : visitsOf kinds tag = [(.evalNamespace, tag.value)] := by
      simp [visitsOf, hname, hsel]
    rw [tagFault?, hvisits, List.findSome?_singleton, fault?_eq_some_iff, resolve_eq_error_iff]
    exact ⟨rfl, hlines⟩

theorem tagFault?_eq_none_iff
    {tag : Tag} :
    tagFault? kinds evaluator block tag = none ↔
      ∀ fault, ¬ Fails kinds evaluator block tag fault := by
  simp only [Option.eq_none_iff_forall_ne_some, ne_eq, tagFault?_eq_some_iff]

/-- The first fault is the one that a search in source order finds. -/
theorem firstFault_iff
    {fault : EvaluationError} :
    FirstFault kinds evaluator blocks fault ↔
      (tagsInOrder blocks).findSome? (fun o => tagFault? kinds evaluator o.1 o.2) = some fault := by
  rw [List.findSome?_eq_some_iff]
  simp only [FirstFault, Prod.exists, tagFault?_eq_some_iff, tagFault?_eq_none_iff]

/-- There is a first fault if there is any. -/
theorem exists_firstFault_iff :
    (∃ fault, FirstFault kinds evaluator blocks fault) ↔
      ∃ o ∈ tagsInOrder blocks, ∃ fault, Fails kinds evaluator o.1 o.2 fault := by
  simp only [firstFault_iff, ← Option.isSome_iff_exists, List.findSome?_isSome_iff]
  simp only [Option.isSome_iff_exists, tagFault?_eq_some_iff]

theorem fault?_visit
    (v : Kind × TagValue) :
    fault? (visit allKinds evaluator block v) =
      (fault? (resolve evaluator block v.1 v.2)).map .evaluation := by
  cases h : resolve evaluator block v.1 v.2 <;> simp [visit, allKinds, h, fault?]

/-- A block stops at its first fragment that fails: all fragments are in one group. -/
theorem fault?_compileBlock
    (kinds : KindSet)
    (evaluator : Option Evaluator)
    (block : Block) :
    fault? (compileBlock allKinds kinds evaluator block) =
      (block.tags.findSome? (tagFault? kinds evaluator block)).map .evaluation := by
  have hother : ∀ tag : Tag, (tag.name == Kind.evalNamespace.tag) = false →
      tagFault? kinds evaluator block tag = none := by
    intro tag htag
    rw [tagFault?_eq_none_iff]
    intro fault hfails
    simp [hfails.name_eq] at htag
  have hgroups := filter_groups Tag.name Kind.evalNamespace.tag block.tags
  have hvisits : (visits kinds block).findSome? (fun v => fault? (resolve evaluator block v.1 v.2)) =
      block.tags.findSome? (tagFault? kinds evaluator block) := by
    rw [visits_eq_flatMap, findSome?_flatMap]
    change List.findSome? (tagFault? kinds evaluator block) _ = _
    rw [← findSome?_filter_of_none hother, ← findSome?_filter_of_none hother block.tags, ← hgroups]
    rfl
  rw [compileBlock, fault?_bind_pure, fault?_mapM, ← hvisits, List.map_findSome?]
  simp only [fault?_visit]
  rfl

/-- A pass stops at the first fragment in source order that fails. -/
theorem compile_eq_error_iff
    {e : Error} :
    compile kinds evaluator blocks = .error e ↔
      ∃ fault, FirstFault kinds evaluator blocks fault ∧ .evaluation fault = e := by
  have hfault : fault? (compile kinds evaluator blocks) =
      ((tagsInOrder blocks).findSome? fun o => tagFault? kinds evaluator o.1 o.2).map
        .evaluation := by
    rw [compile, compileWith, fault?_bind_pure, collect, fault?_bind_pure, fault?_mapM, tagsInOrder,
      findSome?_flatMap, List.map_findSome?]
    simp only [fault?_compileBlock, List.findSome?_map]
    rfl
  simp only [firstFault_iff, ← fault?_eq_some_iff, hfault, Option.map_eq_some_iff]

end Faults

/-! ## Lines and issues -/

/-- What the tags of a block contribute if they are resolved one by one in source order. -/
def resolveInOrder (kinds : KindSet) (evaluator : Option Evaluator) (block : Block) :
    Except EvaluationError (List Resolution) :=
  (block.tags.flatMap (visitsOf kinds)).mapM fun v => resolve evaluator block v.1 v.2

/-- The issues of a block are those that its tags leave one by one, perhaps in another order. -/
def IssuesInOrder (kinds : KindSet) (evaluator : Option Evaluator) (block : Block)
    (issues : List Issue) : Prop :=
  ∃ found, resolveInOrder kinds evaluator block = .ok found ∧
    issues.Perm (found.flatMap (·.issues))

/-- A pass is what the tags of its blocks yield one by one: the lines of all of them, sorted, and the issues
block by block. -/
structure Pass.FromTags (kinds : KindSet) (evaluator : Option Evaluator) (blocks : List Block)
    (pass : Pass) : Prop where
  sorted : pass.lines.Pairwise (· < ·)
  mem_lines : ∀ l, l ∈ pass.lines ↔ ∃ block ∈ blocks, Contributes kinds evaluator block l
  issues : ∃ parts, List.Forall₂ (IssuesInOrder kinds evaluator) blocks parts ∧
    pass.issues = parts.flatten

section Contributions

variable {kinds : KindSet} {evaluator : Option Evaluator} {block : Block} {blocks : List Block}

theorem issuesInOrder_of_compileBlock
    {r : Resolution}
    (h : compileBlock allKinds kinds evaluator block = .ok r) :
    IssuesInOrder kinds evaluator block r.issues := by
  obtain ⟨found, hfound⟩ : ∃ found, resolveInOrder kinds evaluator block = .ok found := by
    refine exists_mapM_eq_ok_iff.mpr fun v hv => ?_
    obtain ⟨hsel, tag, htag, hkind, hvalue⟩ :=
      mem_visits_iff.mp ((perm_visits kinds block).mem_iff.mpr hv)
    obtain ⟨found, hfound⟩ := exists_compileBlock_iff.mp ⟨r, h⟩ tag htag v.1 hkind hsel
    exact ⟨found, hvalue ▸ hfound⟩
  have hissues : (found.flatMap (·.issues)).Perm
      (block.tags.flatMap (issuesOf kinds evaluator block)) := by
    unfold issuesOf
    rw [← List.flatMap_assoc]
    refine perm_flatMap_of_mapM_eq_ok hfound fun v r hr => ?_
    rw [hr]
  exact ⟨found, hfound, (perm_compileBlock_issues h).trans hissues.symm⟩

theorem fromTags_of_compile
    {pass : Pass}
    (h : compile kinds evaluator blocks = .ok pass) :
    pass.FromTags kinds evaluator blocks := by
  refine ⟨pairwise_lines h, fun l => mem_lines_iff h, ?_⟩
  obtain ⟨found, hfound, rfl⟩ := exists_collect_of_compile h
  obtain ⟨parts, hparts, rfl⟩ := bind_pure_eq_ok_iff.mp hfound
  refine ⟨parts.map (·.issues), ?_, List.flatMap_def⟩
  rw [List.forall₂_map_right_iff]
  exact (forall₂_of_mapM_eq_ok hparts).imp fun _ _ hr => issuesInOrder_of_compileBlock hr

end Contributions

/-- Grouping the tags of a block by name does not show in a pass.  It fails if and only if a selected fragment
of some block does, with the fault of the first one in source order.  Otherwise its lines and issues are
those that the tags yield one by one. -/
theorem compile_of_tagsInOrder
    (kinds : KindSet)
    (evaluator : Option Evaluator)
    (blocks : List Block) :
    ((∃ e, compile kinds evaluator blocks = .error e) ↔
      ∃ o ∈ tagsInOrder blocks, ∃ fault, Fails kinds evaluator o.1 o.2 fault) ∧
    (∀ e, compile kinds evaluator blocks = .error e ↔
      ∃ fault, FirstFault kinds evaluator blocks fault ∧ .evaluation fault = e) ∧
    ∀ pass, compile kinds evaluator blocks = .ok pass →
      pass.FromTags kinds evaluator blocks := by
  refine ⟨?_, fun e => compile_eq_error_iff, fun pass hpass => fromTags_of_compile hpass⟩
  rw [← exists_firstFault_iff]
  simp only [compile_eq_error_iff]
  constructor
  · rintro ⟨_, fault, hfirst, -⟩
    exact ⟨fault, hfirst⟩
  · rintro ⟨fault, hfirst⟩
    exact ⟨_, fault, hfirst, rfl⟩

/-- An evaluator that knows some fragments. -/
def knowing (known : List String) : Evaluator where
  run code _ := if code ∈ known then .ok (.text code) else .error (.unknownFragment code)

/-- A tag with a fragment. -/
def codeTag (source : String) : Tag :=
  { name := "evalNamespace", value := .code source }

/-- A tag without words. -/
def bareTag (name : String) : Tag :=
  { name := name, value := .words [] }

/-- A block in which the tags of one name stand apart from each other. -/
def interleavedBlock : Block :=
  { tags := [bareTag "export", codeTag "f", bareTag "exportS3Method", codeTag "g", bareTag "export",
      codeTag "h"] }

/-- Of two unknown fragments the first one ends the pass.  If all are known, the two issues of one name come
before the one that stood between them. -/
theorem compile_of_interleavedBlock :
    FirstFault allKinds (some (knowing ["f"])) [interleavedBlock]
      ⟨"<block>", .failed "unknown fragment: g"⟩ ∧
    ∃ pass, compile allKinds (some (knowing ["f", "g", "h"])) [interleavedBlock] = .ok pass ∧
      pass.FromTags allKinds (some (knowing ["f", "g", "h"])) [interleavedBlock] ∧
      pass.issues.map (·.tag) = ["export", "export", "exportS3Method"] := by
  constructor
  · have hfails : fault? (compile allKinds (some (knowing ["f"])) [interleavedBlock]) =
        some (.evaluation ⟨"<block>", .failed "unknown fragment: g"⟩) := by
      decide +kernel
    obtain ⟨fault, hfirst, hfault⟩ :=
      ((compile_of_tagsInOrder allKinds _ _).2.1 _).mp (fault?_eq_some_iff.mp hfails)
    cases hfault
    exact hfirst
  · have hcollect : collect allKinds allKinds (some (knowing ["f", "g", "h"])) [interleavedBlock] =
        .ok { lines := ["f", "g", "h"]
              issues := [⟨"<block>", "export", .nothingToExport⟩,
                ⟨"<block>", "export", .nothingToExport⟩,
                ⟨"<block>", "exportS3Method", .notAConventionMethod⟩] } := by
      decide +kernel
    have hpass := compile_of_collect hcollect
    exact ⟨_, hpass, (compile_of_tagsInOrder allKinds _ _).2.2 _ hpass, rfl⟩

end Directive
end NamespaceManifest
