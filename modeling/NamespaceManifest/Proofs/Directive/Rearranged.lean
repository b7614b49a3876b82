import NamespaceManifest.Proofs.Directive.Pass
import Mathlib.Data.List.Forall2

/-!
# Passes over rearranged blocks

The blocks of a document, and the tags within a block, can come in any order.  A pass visits them in the
order in which they stand, may stop at a fragment, and collects lines and issues as it goes.

* Work whose steps come in another order fails in both orders or in none, and has the same results but
  for their order (`Alike.mapM_of_perm`).
* A tag resolves to the same thing whatever the order of the tags around it is, if the evaluator looks at
  nothing but the code and the location of a block (`resolve_of_reordered`).

So sorted lines do not depend on the order at all, and issues only in their own order
(`compileWith_of_rearranged`).
-/

namespace NamespaceManifest

/-- The answers of an evaluator depend on the code and on the location of the block only. -/
def Evaluator.Local (e : Evaluator) : Prop :=
  ∀ code a b, Block.location a = Block.location b → e.run code a = e.run code b

/-- Two blocks that differ in the order of their tags only. -/
structure Block.Reordered (a b : Block) : Prop where
  tags : a.tags.Perm b.tags
  object : a.object = b.object
  file : a.file = b.file
  line : a.line = b.line
  name : a.name = b.name

namespace Directive

/-- Blocks in another order, each with its tags in another order. -/
def Rearranged (xs ys : List Block) : Prop :=
  ∃ zs, xs.Perm zs ∧ List.Forall₂ Block.Reordered zs ys

/-! ## Steps in another order -/

section Alike

variable {ε α β : Type}

/-- Two outcomes that are both failures, or both results that stand in a relation. -/
inductive Alike {α β : Type} (R : α → β → Prop) : Except ε α → Except ε β → Prop
  | ok {a : α} {b : β} (h : R a b) : Alike R (.ok a) (.ok b)
  | error (e e' : ε) : Alike R (.error e) (.error e')

namespace Alike

theorem refl
    {R : α → α → Prop}
    (h : ∀ a, R a a)
    (x : Except ε α) :
    Alike R x x := by
  cases x with
  | ok a => exact .ok (h a)
  | error e => exact .error e e

theorem trans
    {R : α → α → Prop} {x y z : Except ε α}
    (h : ∀ {a b c}, R a b → R b c → R a c)
    (hxy : Alike R x y)
    (hyz : Alike R y z) :
    Alike R x z := by
  cases hxy with
  | ok hab =>
      cases hyz with
      | ok hbc => exact .ok (h hab hbc)
  | error e e' =>
      cases hyz with
      | error _ e'' => exact .error e e''

theorem bind
    {α' β' : Type} {R : α → β → Prop} {S : α' → β' → Prop}
    {x : Except ε α} {y : Except ε β} {f : α → Except ε α'} {g : β → Except ε β'}
    (h : Alike R x y)
    (hf : ∀ a b, R a b → Alike S (f a) (g b)) :
    Alike S (x >>= f) (y >>= g) := by
  cases h with
  | ok hab => exact hf _ _ hab
  | error e e' => exact .error e e'

/-- One of two like outcomes is a failure if the other one is. -/
theorem exists_error_iff
    {R : α → β → Prop} {x : Except ε α} {y : Except ε β}
    (h : Alike R x y) :
    (∃ e, x = .error e) ↔ ∃ e, y = .error e := by
  cases h with
  | ok h => simp
  | error e e' => simp

theorem of_ok
    {R : α → β → Prop} {a : α} {b : β}
    (h : Alike R (.ok a : Except ε α) (.ok b)) :
    R a b := by
  cases h with
  | ok h => exact h

/-- Steps in another order have the same results in another order, unless one of them fails. -/
theorem mapM_of_perm
    {xs ys : List α}
    (f : α → Except ε β)
    (h : xs.Perm ys) :
    Alike List.Perm (xs.mapM f) (ys.mapM f) := by
  induction h with
  | nil =>
      exact refl List.Perm.refl _
  | cons x h ih =>
      rw [List.mapM_cons, List.mapM_cons]
      refine (refl (R := Eq) (fun _ => rfl) (f x)).bind ?_
      rintro a _ rfl
      exact ih.bind fun as bs hperm => .ok (hperm.cons a)
  | swap x y xs =>
      -- Whichever step comes first, both have to succeed.
      rw [List.mapM_cons, List.mapM_cons, List.mapM_cons, List.mapM_cons]
      cases f y with
      | error e =>
          cases f x with
          | error e' => exact .error e e'
          | ok a => exact .error e e
      | ok b =>
          cases f x with
          | error e' => exact .error e' e'
          | ok a =>
              cases xs.mapM f with
              | error e => exact .error e e
              | ok as => exact .ok (List.Perm.swap a b as)
  | trans h h' ih ih' =>
      exact trans List.Perm.trans ih ih'

/-- Steps that are alike one by one are alike together. -/
theorem mapM_of_forall₂
    {α' β' : Type} {S : α' → β' → Prop} {f : α → Except ε α'} {g : β → Except ε β'}
    {xs : List α} {ys : List β}
    (h : List.Forall₂ (fun x y => Alike S (f x) (g y)) xs ys) :
    Alike (List.Forall₂ S) (xs.mapM f) (ys.mapM g) := by
  induction h with
  | nil =>
      exact .ok .nil
  | cons hstep h ih =>
      rw [List.mapM_cons, List.mapM_cons]
      exact hstep.bind fun a b hab => ih.bind fun as bs hall => .ok (.cons hab hall)

end Alike

end Alike

/-! ## Contributions in another order -/

/-- The same lines and issues, but for their order. -/
structure Resolution.SameUpToOrder (a b : Resolution) : Prop where
  lines : a.lines.Perm b.lines
  issues : a.issues.Perm b.issues

theorem Resolution.SameUpToOrder.trans
    {a b c : Resolution}
    (hab : a.SameUpToOrder b)
    (hbc : b.SameUpToOrder c) :
    a.SameUpToOrder c := by
  exact ⟨hab.lines.trans hbc.lines, hab.issues.trans hbc.issues⟩

/-- Several contributions as one. -/
def Resolution.join (parts : List Resolution) : Resolution :=
  { lines := parts.flatMap (·.lines), issues := parts.flatMap (·.issues) }

theorem sameUpToOrder_join_of_perm
    {as bs : List Resolution}
    (h : as.Perm bs) :
    (Resolution.join as).SameUpToOrder (.join bs) := by
  exact ⟨h.flatMap_right _, h.flatMap_right _⟩

theorem sameUpToOrder_join_of_forall₂
    {as bs : List Resolution}
    (h : List.Forall₂ Resolution.SameUpToOrder as bs) :
    (Resolution.join as).SameUpToOrder (.join bs) := by
  induction h with
  | nil =>
      exact ⟨List.Perm.refl _, List.Perm.refl _⟩
  | cons hab h ih =>
      exact ⟨hab.lines.append ih.lines, hab.issues.append ih.issues⟩

/-- Sorted lines do not depend on the order that they had. -/
theorem finalize_of_perm
    {xs ys : List String}
    (h : xs.Perm ys) :
    finalize xs = finalize ys := by
  refine eq_of_pairwise_of_mem_iff (pairwise_finalize xs) (pairwise_finalize ys) ?_
  intro l
  rw [mem_finalize, mem_finalize, h.mem_iff]

section Reordered

variable {evaluator : Option Evaluator} {a b : Block}

theorem location_of_reordered
    (h : a.Reordered b) :
    a.location = b.location := by
  rw [Block.location, Block.location, h.file, h.line, h.name]

theorem linesOf_of_reordered
    (he : ∀ e ∈ evaluator, e.Local)
    (h : a.Reordered b)
    (code : String) :
    Evaluation.linesOf evaluator a code = Evaluation.linesOf evaluator b code := by
  have hlocation := location_of_reordered h
  cases evaluator with
  | none =>
      simp only [Evaluation.linesOf, hlocation]
  | some e =>
      have hrun : e.run code a = e.run code b := he e rfl code a b hlocation
      simp only [Evaluation.linesOf, hrun, hlocation]

/-- What a tag contributes does not depend on the order of the tags around it. -/
theorem resolve_of_reordered
    (he : ∀ e ∈ evaluator, e.Local)
    (h : a.Reordered b)
    (kind : Kind)
    (value : TagValue) :
    resolve evaluator a kind value = resolve evaluator b kind value := by
  have hlocation := location_of_reordered h
  cases kind
  case evalNamespace =>
    simp only [resolve, linesOf_of_reordered he h]
  case exports =>
    simp only [resolve, resolveExport, defaultExport, Resolution.complain, h.object, h.name, hlocation]
  case exportS3Method =>
    simp only [resolve, resolveMethod, Resolution.complain, h.object, hlocation]
  all_goals
    rfl

theorem visit_of_reordered
    (available : KindSet)
    (he : ∀ e ∈ evaluator, e.Local)
    (h : a.Reordered b) :
    visit available evaluator a = visit available evaluator b := by
  funext v
  simp only [visit, resolve_of_reordered he h]

theorem visits_of_reordered
    (kinds : KindSet)
    (h : a.Reordered b) :
    (visits kinds a).Perm (visits kinds b) := by
  have hvisits : (a.tags.flatMap (visitsOf kinds)).Perm (b.tags.flatMap (visitsOf kinds)) :=
    h.tags.flatMap_right _
  exact ((perm_visits kinds a).trans hvisits).trans (perm_visits kinds b).symm

/-- A block with its tags in another order fails or contributes the same in another order. -/
theorem alike_compileBlock
    (available kinds : KindSet)
    (he : ∀ e ∈ evaluator, e.Local)
    (h : a.Reordered b) :
    Alike Resolution.SameUpToOrder (compileBlock available kinds evaluator a)
      (compileBlock available kinds evaluator b) := by
  have hsteps := Alike.mapM_of_perm (visit available evaluator b) (visits_of_reordered kinds h)
  unfold compileBlock
  rw [visit_of_reordered available he h]
  exact hsteps.bind fun _ _ hperm => .ok (sameUpToOrder_join_of_perm hperm)

end Reordered

section Rearranged

variable {evaluator : Option Evaluator} {xs ys : List Block}

theorem alike_collect
    (available kinds : KindSet)
    (he : ∀ e ∈ evaluator, e.Local)
    (h : Rearranged xs ys) :
    Alike Resolution.SameUpToOrder (collect available kinds evaluator xs)
      (collect available kinds evaluator ys) := by
  obtain ⟨zs, hperm, hblocks⟩ := h
  have hsteps : List.Forall₂
      (fun a b => Alike Resolution.SameUpToOrder (compileBlock available kinds evaluator a)
        (compileBlock available kinds evaluator b)) zs ys :=
    hblocks.imp fun a b hab => alike_compileBlock available kinds he hab
  have hblockOrder : Alike Resolution.SameUpToOrder (collect available kinds evaluator xs)
      (collect available kinds evaluator zs) :=
    (Alike.mapM_of_perm _ hperm).bind fun _ _ hab => .ok (sameUpToOrder_join_of_perm hab)
  have htagOrder : Alike Resolution.SameUpToOrder (collect available kinds evaluator zs)
      (collect available kinds evaluator ys) :=
    (Alike.mapM_of_forall₂ hsteps).bind fun _ _ hab => .ok (sameUpToOrder_join_of_forall₂ hab)
  exact Alike.trans Resolution.SameUpToOrder.trans hblockOrder htagOrder

/-- A pass over rearranged blocks fails if and only if the pass over the blocks as they stood does.  If they
succeed, they have the same lines, and the same issues but for their order. -/
theorem compileWith_of_rearranged
    (available kinds : KindSet)
    (he : ∀ e ∈ evaluator, e.Local)
    (h : Rearranged xs ys) :
    ((∃ e, compileWith available kinds evaluator xs = .error e) ↔
      ∃ e, compileWith available kinds evaluator ys = .error e) ∧
    ∀ p q, compileWith available kinds evaluator xs = .ok p →
      compileWith available kinds evaluator ys = .ok q →
      p.lines = q.lines ∧ p.issues.Perm q.issues := by
  have halike : Alike (fun p q : Pass => p.lines = q.lines ∧ p.issues.Perm q.issues)
      (compileWith available kinds evaluator xs) (compileWith available kinds evaluator ys) :=
    (alike_collect available kinds he h).bind fun _ _ hr =>
      .ok ⟨finalize_of_perm hr.lines, hr.issues⟩
  refine ⟨halike.exists_error_iff, ?_⟩
  intro p q hp hq
  rw [hp, hq] at halike
  exact halike.of_ok

end Rearranged

/-- An evaluator that answers with the location of a block. -/
def locating : Evaluator :=
  { run := fun _ block => .ok (.text block.location) }

/-- A block of a file that documents nothing. -/
def mixedBlock (tags : List Tag) : Block :=
  { tags := tags, file := some "a" }

/-- A tag with words. -/
def wordTag (name : String) (items : List String) : Tag :=
  { name := name, value := .words items }

/-- A tag with a fragment. -/
def fragmentTag : Tag :=
  { name := "evalNamespace", value := .code "here" }

theorem compileWith_of_turnedBlocks :
    ∃ p q,
      compileWith allKinds allKinds (some locating)
        [mixedBlock [wordTag "export" [], fragmentTag], mixedBlock [wordTag "import" ["x"]]] = .ok p ∧
      compileWith allKinds allKinds (some locating)
        [mixedBlock [wordTag "import" ["x"]], mixedBlock [fragmentTag, wordTag "export" []]] = .ok q ∧
      p.lines = q.lines ∧ p.issues.Perm q.issues := by
  have hlocal : ∀ e ∈ some locating, e.Local := by
    rintro _ ⟨⟩ code a b hlocation
    simp only [locating, hlocation]
  have hturned : Rearranged
      [mixedBlock [wordTag "export" [], fragmentTag], mixedBlock [wordTag "import" ["x"]]]
      [mixedBlock [wordTag "import" ["x"]], mixedBlock [fragmentTag, wordTag "export" []]] := by
    refine ⟨_, List.Perm.swap _ _ _, .cons ?_ (.cons ?_ .nil)⟩
    · exact ⟨List.Perm.refl _, rfl, rfl, rfl, rfl⟩
    · exact ⟨List.Perm.swap _ _ _, rfl, rfl, rfl, rfl⟩
  have hp : collect allKinds allKinds (some locating)
      [mixedBlock [wordTag "export" [], fragmentTag], mixedBlock [wordTag "import" ["x"]]] =
      .ok { lines := ["a", "import(x)"], issues := [⟨"a", "export", .nothingToExport⟩] } := by
    decide +kernel
  have hq : collect allKinds allKinds (some locating)
      [mixedBlock [wordTag "import" ["x"]], mixedBlock [fragmentTag, wordTag "export" []]] =
      .ok { lines := ["import(x)", "a"], issues := [⟨"a", "export", .nothingToExport⟩] } := by
    decide +kernel
  exact ⟨_, _, compile_of_collect hp, compile_of_collect hq,
    (compileWith_of_rearranged allKinds allKinds hlocal hturned).2 _ _ (compile_of_collect hp)
      (compile_of_collect hq)⟩

end Directive
end NamespaceManifest
