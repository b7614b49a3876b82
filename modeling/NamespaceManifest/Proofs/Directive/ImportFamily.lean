import NamespaceManifest.Proofs.Directive.Pass
import Mathlib.Data.List.Forall2

/-!
# What imports depend on

The import pass runs before a module is loaded.  It can, because it looks at nothing but the tags of the import
family: their values decide the lines, whatever these values are, and none of these tags has anything to
complain about.

Two blocks are the same to the import pass if each kind of the import family has the same values in the same
order in both (`Block.SameImports`).  The order in which tags of different kinds stand, other tags, the object,
the name, the place of the block and the evaluator may all differ (`imports_of_sameImports`).
-/

namespace NamespaceManifest

/-- Each kind of the import family has the same values in the same order in two blocks. -/
def Block.SameImports (a b : Block) : Prop :=
  ∀ kind : Directive.Kind, kind.isImport = true →
    (a.occurrences kind.tag).map (·.value) = (b.occurrences kind.tag).map (·.value)

namespace Directive

section SameImports

variable {a b : Block} {xs ys : List Block} {evaluator evaluator' : Option Evaluator}

theorem sameImports_refl
    (a : Block) :
    a.SameImports a :=
  fun _ _ => rfl

theorem sameImports_symm
    (h : a.SameImports b) :
    b.SameImports a :=
  fun kind hk => (h kind hk).symm

/-- A value that an import tag has in a block is one that it has in the other block. -/
theorem exists_tag_of_sameImports
    {kind : Kind} {tag : Tag}
    (h : a.SameImports b)
    (hk : kind.isImport = true)
    (htag : tag ∈ a.tags)
    (hkind : Kind.ofTag? tag.name = some kind) :
    ∃ tag' ∈ b.tags, Kind.ofTag? tag'.name = some kind ∧ tag'.value = tag.value := by
  have hmem : tag ∈ a.occurrences kind.tag :=
    List.mem_filter.mpr ⟨htag, by simp [Kind.tag_of_ofTag? hkind]⟩
  have hvalue : tag.value ∈ (b.occurrences kind.tag).map (·.value) :=
    h kind hk ▸ List.mem_map_of_mem hmem
  obtain ⟨tag', htag', hvalue'⟩ := List.mem_map.mp hvalue
  obtain ⟨hmem', hname⟩ := List.mem_filter.mp htag'
  have hname' : tag'.name = kind.tag := by simpa using hname
  exact ⟨tag', hmem', by rw [hname', Kind.ofTag?_tag], hvalue'⟩

theorem contributes_of_sameImports
    {l : String}
    (h : a.SameImports b)
    (hl : Contributes importKinds evaluator a l)
    (evaluator' : Option Evaluator) :
    Contributes importKinds evaluator' b l := by
  obtain ⟨tag, htag, kind, hkind, hsel, r, hr, hl⟩ := hl
  obtain ⟨tag', htag', hkind', hvalue⟩ := exists_tag_of_sameImports h hsel htag hkind
  obtain ⟨lines, hlines⟩ := exists_lines_of_isImport hsel tag.value
  obtain rfl : Resolution.ofLines lines = r := Except.ok.inj ((hlines evaluator a).symm.trans hr)
  refine ⟨tag', htag', kind, hkind', hsel, .ofLines lines, ?_, hl⟩
  rw [hvalue]
  exact hlines evaluator' b

/-- What some block of a list contributes, some block of the other list does. -/
theorem exists_contributes_of_sameImports
    {l : String}
    (h : List.Forall₂ Block.SameImports xs ys)
    (hl : ∃ block ∈ xs, Contributes importKinds evaluator block l)
    (evaluator' : Option Evaluator) :
    ∃ block ∈ ys, Contributes importKinds evaluator' block l := by
  induction h with
  | nil =>
      simp at hl
  | cons hab h ih =>
      obtain ⟨block, hblock, hl⟩ := hl
      rcases List.mem_cons.mp hblock with rfl | hblock
      · exact ⟨_, List.mem_cons_self, contributes_of_sameImports hab hl evaluator'⟩
      · obtain ⟨block', hblock', hl'⟩ := ih ⟨block, hblock, hl⟩
        exact ⟨block', List.mem_cons_of_mem _ hblock', hl'⟩

theorem lines_of_sameImports
    {p q : Pass}
    (h : List.Forall₂ Block.SameImports xs ys)
    (hp : compile importKinds evaluator xs = .ok p)
    (hq : compile importKinds evaluator' ys = .ok q) :
    p.lines = q.lines := by
  have hflip : List.Forall₂ Block.SameImports ys xs :=
    (h.imp fun _ _ hab => sameImports_symm hab).flip
  refine eq_of_pairwise_of_mem_iff (pairwise_lines hp) (pairwise_lines hq) fun l => ?_
  rw [mem_lines_iff hp, mem_lines_iff hq]
  constructor
  · intro hl
    exact exists_contributes_of_sameImports h hl evaluator'
  · intro hl
    exact exists_contributes_of_sameImports hflip hl evaluator

/-- No tag of the import family complains. -/
theorem issues_of_imports
    {p : Pass}
    (hp : compile importKinds evaluator xs = .ok p) :
    p.issues = [] := by
  have hnone : ∀ block tag, issuesOf importKinds evaluator block tag = [] := by
    intro block tag
    refine List.flatMap_eq_nil_iff.mpr fun v hv => ?_
    obtain ⟨hsel, -, -⟩ := mem_visitsOf_iff.mp hv
    obtain ⟨lines, hlines⟩ := exists_lines_of_isImport hsel v.2
    rw [hlines evaluator block]
    rfl
  have hall : (xs.flatMap fun block => block.tags.flatMap (issuesOf importKinds evaluator block)) = [] :=
    List.flatMap_eq_nil_iff.mpr fun block _ =>
      List.flatMap_eq_nil_iff.mpr fun tag _ => hnone block tag
  have hperm := perm_issues hp
  rw [hall] at hperm
  exact hperm.eq_nil

/-- The import pass succeeds over any blocks with any evaluators, without an issue, and two lists of blocks
whose import tags have the same values have the same lines in it. -/
theorem imports_of_sameImports
    (h : List.Forall₂ Block.SameImports xs ys)
    (evaluator evaluator' : Option Evaluator) :
    ∃ p q, compile importKinds evaluator xs = .ok p ∧ compile importKinds evaluator' ys = .ok q ∧
      p.issues = [] ∧ q.issues = [] ∧ p.lines = q.lines := by
  obtain ⟨p, hp⟩ := exists_imports evaluator xs
  obtain ⟨q, hq⟩ := exists_imports evaluator' ys
  exact ⟨p, q, hp, hq, issues_of_imports hp, issues_of_imports hq, lines_of_sameImports h hp hq⟩

end SameImports

/-- An evaluator that fails on every fragment. -/
def failing : Evaluator where
  run code _ := .error (.unknownFragment code)

/-- A library tag with words. -/
def libraryTag : Tag :=
  { name := "useDynLib", value := .words ["lib", "a", "b"] }

/-- A raw tag with a fragment of code. -/
def rawTag : Tag :=
  { name := "rawNamespace", value := .code "if (TRUE) import(y)" }

/-- An import tag with plain text. -/
def textTag : Tag :=
  { name := "import", value := .text "x z" }

/-- A block of a class that exports and evaluates between its imports. -/
def classBlock : Block :=
  { tags := [libraryTag, { name := "export", value := .words [] }, rawTag,
      { name := "evalNamespace", value := .code "f" }, textTag]
    object := some (.formalClass "Account")
    file := some "a"
    line := some (.number 1) }

/-- A block with the same imports and a name. -/
def namedBlock : Block :=
  { tags := [textTag, { name := "title", value := .text "t" }, rawTag, libraryTag]
    name := some "account" }

theorem imports_of_classBlock :
    List.Forall₂ Block.SameImports [classBlock] [namedBlock] ∧
    ∃ p q, compile importKinds (some failing) [classBlock] = .ok p ∧
      compile importKinds none [namedBlock] = .ok q ∧
      p.issues = [] ∧ q.issues = [] ∧ p.lines = q.lines := by
  have hsame : classBlock.SameImports namedBlock := by
    intro kind hk
    cases kind
    case imports | importFrom | importClassesFrom | importMethodsFrom | useDynLib | rawNamespace =>
      rfl
    all_goals
      cases hk
  have hblocks := List.Forall₂.cons hsame .nil
  exact ⟨hblocks, imports_of_sameImports hblocks _ _⟩

end Directive
end NamespaceManifest
