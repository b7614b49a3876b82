import NamespaceManifest.Proofs.Block.Document
import NamespaceManifest.Proofs.Directive.Pass
import NamespaceManifest.Proofs.Directive.Resolve

/-!
# The account of a document

Every directive tag of a document leaves a trace.  A raw tag that does not fit its shape is dropped with an
issue.  A raw tag that is kept fits the shape of its kind (`fits_of_shapeTag`), and that is what its
resolution needs: the number of words that the shape asks for is enough for a line.  Only two kinds can go
without a line, since they ask for something that the block may not have; they complain instead.  The lines
of a fragment are up to the evaluator.

So each directive tag has exactly one of four fates (`Fate`), and the issues of the document and of the
pass over its blocks are the issues of these fates, with nothing left over (`account_of_document`).
-/

namespace NamespaceManifest
namespace Directive

open BlockDocument Resolution

/-! ## What an evaluator returns -/

/-- The texts that a result holds. -/
def returnedTexts : Value → List String
  | .text s => [s]
  | .list items => items.filterMap fun
      | .text s => some s
      | _ => none
  | _ => []

theorem returnedTexts_of_texts?
    {items : List Value} {lines : List String}
    (h : Evaluation.texts? items = some lines) :
    returnedTexts (.list items) = lines := by
  fun_induction Evaluation.texts? items generalizing lines with
  | case1 =>
      cases h
      rfl
  | case2 s items ih =>
      obtain ⟨rest, hrest, rfl⟩ := Option.map_eq_some_iff.mp h
      simpa [returnedTexts] using ih hrest
  | case3 =>
      cases h

theorem returnedTexts_of_toLines
    {location : String} {result : Value} {lines : List String}
    (h : Evaluation.toLines location result = .ok lines) :
    returnedTexts result = lines := by
  unfold Evaluation.toLines at h
  split at h
  · cases h
    rfl
  · split at h
    · rename_i items found hfound
      cases h
      exact returnedTexts_of_texts? hfound
    · cases h
  · cases h

/-- The lines of a fragment are the texts that its evaluator returns. -/
theorem exists_run_of_linesOf
    {evaluator : Option Evaluator} {block : Block} {code : String} {lines : List String}
    (h : Evaluation.linesOf evaluator block code = .ok lines) :
    ∃ e result, evaluator = some e ∧ e.run code block = .ok result ∧
      returnedTexts result = lines := by
  cases evaluator with
  | none =>
      cases h
  | some e =>
      simp only [Evaluation.linesOf] at h
      split at h
      · rename_i result hrun
        exact ⟨e, result, rfl, hrun, returnedTexts_of_toLines h⟩
      · cases h
      · cases h

theorem exists_run_of_resolve
    {evaluator : Option Evaluator} {block : Block} {value : TagValue} {found : Resolution}
    (h : resolve evaluator block .evalNamespace value = .ok found) :
    ∃ e result, evaluator = some e ∧ e.run value.toText block = .ok result ∧
      found = .ofLines (returnedTexts result) := by
  simp only [resolve] at h
  cases hrun : Evaluation.linesOf evaluator block value.toText with
  | error fault =>
      simp [hrun, Except.map] at h
  | ok lines =>
      simp only [hrun, Except.map, Except.ok.injEq] at h
      obtain ⟨e, result, he, hresult, rfl⟩ := exists_run_of_linesOf hrun
      exact ⟨e, result, he, hresult, h.symm⟩

/-! ## The fates of raw tags -/

/-- The issues that a raw tag of an entry leaves when the entry is read. -/
def loadIssuesOf (r : Reading) (raw : String × String) : List Issue :=
  shapeIssues r.location [raw]

/-- The tags that a raw tag of an entry gives to its block. -/
def tagsOf (r : Reading) (raw : String × String) : List Tag :=
  keptTags r.block.line [raw]

/-- The issues that a raw tag of an entry leaves in a full pass. -/
def passIssuesOf (evaluator : Option Evaluator) (r : Reading) (raw : String × String) :
    List Issue :=
  (tagsOf r raw).flatMap (issuesOf allKinds evaluator r.block)

/-- How a directive tag can end. -/
inductive Fate where
  | dropped
  | resolved
  | complained
  | evaluated
  deriving DecidableEq

/-- A raw tag is kept, without an issue, as a tag of a kind with a resolution. -/
structure Kept (evaluator : Option Evaluator) (r : Reading) (raw : String × String)
    (kind : Kind) (tag : Tag) (found : Resolution) : Prop where
  kind_eq : Kind.ofTag? raw.1 = some kind
  tags_eq : tagsOf r raw = [tag]
  loadIssues_eq : loadIssuesOf r raw = []
  resolves : resolve evaluator r.block kind tag.value = .ok found

/-- What a fate says of a raw tag. -/
def Fate.Holds (evaluator : Option Evaluator) (pass : Pass) (r : Reading) (raw : String × String) :
    Fate → Prop
  | dropped =>
      tagsOf r raw = [] ∧ ∃ issue, loadIssuesOf r raw = [issue] ∧ issue.tag = raw.1
  | resolved =>
      ∃ kind tag found, Kept evaluator r raw kind tag found ∧ kind ≠ .evalNamespace ∧
        found.lines ≠ [] ∧ found.lines ⊆ pass.lines ∧ passIssuesOf evaluator r raw = []
  | complained =>
      ∃ kind tag found, Kept evaluator r raw kind tag found ∧
        (kind = .exports ∨ kind = .exportS3Method) ∧ found.lines = [] ∧
        ∃ issue, passIssuesOf evaluator r raw = [issue] ∧ issue.tag = raw.1
  | evaluated =>
      ∃ tag found e result, Kept evaluator r raw .evalNamespace tag found ∧
        evaluator = some e ∧ e.run tag.value.toText r.block = .ok result ∧
        returnedTexts result ⊆ pass.lines ∧ passIssuesOf evaluator r raw = []

/-- The account of what a document holds: the readings of its entries, its issues, and the full pass over
its blocks. -/
structure Account (evaluator : Option Evaluator) (readings : List Reading) (issues : List Issue)
    (pass : Pass) : Prop where
  fates : ∀ r ∈ readings, ∀ raw ∈ r.raw, (Kind.ofTag? raw.1).isSome →
    ∃! fate : Fate, fate.Holds evaluator pass r raw
  others : ∀ r ∈ readings, ∀ raw ∈ r.raw, Kind.ofTag? raw.1 = none →
    loadIssuesOf r raw = [] ∧ passIssuesOf evaluator r raw = []
  loadIssues : issues = readings.flatMap fun r => r.raw.flatMap (loadIssuesOf r)
  passIssues : pass.issues.Perm
    (readings.flatMap fun r => r.raw.flatMap (passIssuesOf evaluator r))

section Fates

variable {evaluator : Option Evaluator} {pass : Pass} {r : Reading} {raw : String × String}

theorem of_mem_tagsOf
    {tag : Tag}
    (h : tag ∈ tagsOf r raw) :
    tag.name = raw.1 ∧ shapeTag raw.1 raw.2 = .ok tag.value := by
  obtain ⟨text, hmem, hshape⟩ := exists_raw_of_mem_keptTags h
  rw [← List.mem_singleton.mp hmem]
  exact ⟨rfl, hshape⟩

theorem tagsOf_of_shapeTag
    {value : TagValue}
    (h : shapeTag raw.1 raw.2 = .ok value) :
    tagsOf r raw = [{ name := raw.1, value := value, line := r.block.line }] := by
  simp [tagsOf, keptTags, h]

theorem loadIssuesOf_of_shapeTag
    {value : TagValue}
    (h : shapeTag raw.1 raw.2 = .ok value) :
    loadIssuesOf r raw = [] := by
  simp [loadIssuesOf, shapeIssues, h]

theorem dropped_of_shapeTag
    {e : ShapeError}
    (h : shapeTag raw.1 raw.2 = .error e) :
    Fate.dropped.Holds evaluator pass r raw := by
  refine ⟨by simp [tagsOf, keptTags, h], ?_⟩
  exact ⟨⟨r.location, raw.1, .shape e⟩, by simp [loadIssuesOf, shapeIssues, h], rfl⟩

namespace Kept

variable {kind : Kind} {tag : Tag} {found : Resolution}

theorem mem
    (h : Kept evaluator r raw kind tag found) :
    tag ∈ tagsOf r raw := by
  simp [h.tags_eq]

theorem tagsOf_ne_nil
    (h : Kept evaluator r raw kind tag found) :
    tagsOf r raw ≠ [] := by
  simp [h.tags_eq]

theorem fits
    (h : Kept evaluator r raw kind tag found) :
    kind.shape.Fits tag.value :=
  fits_of_shapeTag h.kind_eq (of_mem_tagsOf h.mem).2

theorem passIssues_eq
    (h : Kept evaluator r raw kind tag found) :
    passIssuesOf evaluator r raw = found.issues := by
  have hname : tag.name = raw.1 := (of_mem_tagsOf h.mem).1
  simp [passIssuesOf, h.tags_eq, issuesOf, visitsOf, hname, h.kind_eq, allKinds, h.resolves]

end Kept

/-- The fate that a raw tag can have. -/
def fateOf (evaluator : Option Evaluator) (r : Reading) (raw : String × String) : Fate :=
  if tagsOf r raw = [] then .dropped
  else if Kind.ofTag? raw.1 = some .evalNamespace then .evaluated
  else if passIssuesOf evaluator r raw = [] then .resolved
  else .complained

/-- A raw tag has at most one fate. -/
theorem Fate.Holds.eq_fateOf
    {fate : Fate}
    (h : fate.Holds evaluator pass r raw) :
    fate = fateOf evaluator r raw := by
  cases fate with
  | dropped =>
      simp [fateOf, h.1]
  | resolved =>
      obtain ⟨kind, tag, found, hkept, hkind, -, -, hissues⟩ := h
      simp [fateOf, hkept.tagsOf_ne_nil, hkept.kind_eq, hkind, hissues]
  | complained =>
      obtain ⟨kind, tag, found, hkept, hkind, -, issue, hissues, -⟩ := h
      have hne : kind ≠ .evalNamespace := by
        rcases hkind with rfl | rfl <;> decide
      simp [fateOf, hkept.tagsOf_ne_nil, hkept.kind_eq, hne, hissues]
  | evaluated =>
      obtain ⟨tag, found, e, result, hkept, -⟩ := h
      simp [fateOf, hkept.tagsOf_ne_nil, hkept.kind_eq]

/-- A raw tag that is kept has a fate. -/
theorem Kept.exists_holds
    {kind : Kind} {tag : Tag} {found : Resolution}
    (h : Kept evaluator r raw kind tag found)
    (hlines : found.lines ⊆ pass.lines) :
    ∃ fate : Fate, fate.Holds evaluator pass r raw := by
  by_cases hkind : kind = .evalNamespace
  · subst hkind
    obtain ⟨e, result, he, hresult, rfl⟩ := exists_run_of_resolve h.resolves
    exact ⟨.evaluated, tag, _, e, result, h, he, hresult, hlines, h.passIssues_eq⟩
  · rcases yields_or_complains_of_resolve h.fits hkind h.resolves with hyields | ⟨hexport, hcomplains⟩
    · refine ⟨.resolved, kind, tag, found, h, hkind, hyields.1, hlines, ?_⟩
      rw [h.passIssues_eq, hyields.2]
    · obtain ⟨hnil, issue, hissues, htag⟩ := hcomplains
      refine ⟨.complained, kind, tag, found, h, hexport, hnil, issue, ?_, ?_⟩
      · rw [h.passIssues_eq, hissues]
      · rw [htag, Kind.tag_of_ofTag? h.kind_eq]

end Fates

/-! ## The account -/

theorem filterMap_eq_flatMap_singleton
    {α β : Type}
    (f : α → Option β)
    (xs : List α) :
    xs.filterMap f = xs.flatMap fun x => [x].filterMap f := by
  induction xs with
  | nil =>
      rfl
  | cons x xs ih =>
      rw [List.flatMap_cons, ← ih, ← List.filterMap_append, List.singleton_append]

section Document

variable {source : Option String} {v : Value} {readings : List Reading} {blocks : List Block}
  {issues : List Issue} {evaluator : Option Evaluator} {pass : Pass} {r : Reading}

theorem tags_eq_flatMap_tagsOf
    (hreadings : ReadAs source v readings blocks issues)
    (hr : r ∈ readings) :
    r.block.tags = r.raw.flatMap (tagsOf r) := by
  obtain ⟨index, entry, hreads⟩ := hreadings.exists_reads hr
  rw [hreads.tags]
  exact filterMap_eq_flatMap_singleton _ _

/-- A directive tag that fits its shape is kept, and its lines are lines of the pass. -/
theorem exists_kept
    {raw : String × String} {kind : Kind} {value : TagValue}
    (hreadings : ReadAs source v readings blocks issues)
    (hpass : compile allKinds evaluator blocks = .ok pass)
    (hr : r ∈ readings)
    (hraw : raw ∈ r.raw)
    (hkind : Kind.ofTag? raw.1 = some kind)
    (hshape : shapeTag raw.1 raw.2 = .ok value) :
    ∃ tag found, Kept evaluator r raw kind tag found ∧ found.lines ⊆ pass.lines := by
  obtain ⟨tag, htags⟩ : ∃ tag : Tag, tag = ⟨raw.1, value, r.block.line⟩ := ⟨_, rfl⟩
  have htagsOf : tagsOf r raw = [tag] := by
    rw [tagsOf_of_shapeTag hshape, htags]
  have hblock : r.block ∈ blocks := by
    rw [hreadings.blocks_eq]
    exact List.mem_map_of_mem hr
  have htag : tag ∈ r.block.tags := by
    rw [tags_eq_flatMap_tagsOf hreadings hr]
    exact List.mem_flatMap.mpr ⟨raw, hraw, by simp [htagsOf]⟩
  have hname : Kind.ofTag? tag.name = some kind := by
    rw [htags]
    exact hkind
  obtain ⟨found, hfound⟩ := exists_resolve_of_compile hpass hblock htag hname rfl
  refine ⟨tag, found, ⟨hkind, htagsOf, loadIssuesOf_of_shapeTag hshape, hfound⟩, ?_⟩
  intro l hl
  exact (mem_lines_iff hpass).mpr ⟨r.block, hblock, tag, htag, kind, hname, rfl, found, hfound, hl⟩

/-- A directive tag of a document has exactly one fate. -/
theorem existsUnique_fate
    {raw : String × String}
    (hreadings : ReadAs source v readings blocks issues)
    (hpass : compile allKinds evaluator blocks = .ok pass)
    (hr : r ∈ readings)
    (hraw : raw ∈ r.raw)
    (hdirective : (Kind.ofTag? raw.1).isSome) :
    ∃! fate : Fate, fate.Holds evaluator pass r raw := by
  obtain ⟨kind, hkind⟩ := Option.isSome_iff_exists.mp hdirective
  obtain ⟨fate, hfate⟩ : ∃ fate : Fate, fate.Holds evaluator pass r raw := by
    cases hshape : shapeTag raw.1 raw.2 with
    | error e =>
        exact ⟨.dropped, dropped_of_shapeTag hshape⟩
    | ok value =>
        obtain ⟨tag, found, hkept, hlines⟩ := exists_kept hreadings hpass hr hraw hkind hshape
        exact hkept.exists_holds hlines
  exact ⟨fate, hfate, fun other hother => hother.eq_fateOf.trans hfate.eq_fateOf.symm⟩

/-- A tag of no kind leaves no issue. -/
theorem issues_of_ofTag?_eq_none
    {raw : String × String}
    (hkind : Kind.ofTag? raw.1 = none) :
    loadIssuesOf r raw = [] ∧ passIssuesOf evaluator r raw = [] := by
  have hshape := shapeTag_of_ofTag?_eq_none hkind raw.2
  refine ⟨loadIssuesOf_of_shapeTag hshape, ?_⟩
  simp [passIssuesOf, tagsOf_of_shapeTag hshape, issuesOf, visitsOf, hkind]

theorem perm_passIssues
    (hreadings : ReadAs source v readings blocks issues)
    (hpass : compile allKinds evaluator blocks = .ok pass) :
    pass.issues.Perm (readings.flatMap fun r => r.raw.flatMap (passIssuesOf evaluator r)) := by
  refine (perm_issues hpass).trans ?_
  rw [hreadings.blocks_eq, List.flatMap_map]
  refine List.Perm.of_eq (List.flatMap_congr fun r hr => ?_)
  rw [tags_eq_flatMap_tagsOf hreadings hr, List.flatMap_assoc]
  rfl

/-- Every directive tag of a document has exactly one fate, and there are no issues but theirs. -/
theorem account_of_document
    (hread : read source v = .ok (blocks, issues))
    (hpass : compile allKinds evaluator blocks = .ok pass) :
    ∃ readings, ReadAs source v readings blocks issues ∧
      Account evaluator readings issues pass := by
  obtain ⟨readings, hreadings⟩ := readings_of_read hread
  refine ⟨readings, hreadings, ?_, ?_, ?_, ?_⟩
  · intro r hr raw hraw hdirective
    exact existsUnique_fate hreadings hpass hr hraw hdirective
  · intro r _ raw _ hkind
    exact issues_of_ofTag?_eq_none hkind
  · rw [hreadings.issues_eq]
    exact List.flatMap_congr fun r _ => filterMap_eq_flatMap_singleton _ _
  · exact perm_passIssues hreadings hpass

end Document

/-- A document with a tag for every fate: one with too few words, one with a line, one for which its block
has nothing, and a fragment. -/
def fourFates : Value :=
  .list [.map [(.text "tags", .map
    [(.text "importFrom", .text "stats"), (.text "exportClass", .text "Account"),
     (.text "export", .null), (.text "evalNamespace", .text "lines()")])]]

/-- An evaluator that answers every fragment with two lines. -/
def twoLines : Evaluator where
  run _ _ := .ok (.list [.text "export(b)", .text "export(a)"])

/-- What the blocks of this document hold. -/
def fourFatesBlocks : List Block :=
  [{ tags := [⟨"exportClass", .words ["Account"], none⟩, ⟨"export", .words [], none⟩,
      ⟨"evalNamespace", .code "lines()", none⟩] }]

theorem account_of_fourFates :
    ∃ issues pass,
      read none fourFates = .ok (fourFatesBlocks, issues) ∧
      compile allKinds (some twoLines) fourFatesBlocks = .ok pass ∧
      issues.map (·.tag) = ["importFrom"] ∧ pass.issues.map (·.tag) = ["export"] ∧
      ∃ readings, ReadAs none fourFates readings fourFatesBlocks issues ∧
        Account (some twoLines) readings issues pass := by
  have hread : read none fourFates = .ok (fourFatesBlocks,
      [⟨"block #0", "importFrom", .shape (.tooFew "importFrom" (.words 2 none) 1)⟩]) := by
    decide +kernel
  have hcollect : collect allKinds allKinds (some twoLines) fourFatesBlocks =
      .ok { lines := ["exportClasses(Account)", "export(b)", "export(a)"]
            issues := [⟨"<block>", "export", .nothingToExport⟩] } := by
    decide +kernel
  have hpass := compile_of_collect hcollect
  exact ⟨_, _, hread, hpass, rfl, rfl, account_of_document hread hpass⟩

end Directive
end NamespaceManifest
