import NamespaceManifest.Proofs.Block.Grammar
import NamespaceManifest.Proofs.Directive.Pass

/-!
# What an entry of a document loads as

An entry loads as a block and some issues.  Its raw tags are sorted in order: one that fits its shape is a tag
of the block, with the line of the entry, and any other leaves an issue with what is wrong (`Sorts`).

The location of an entry is found before there is a block, so it is not that of the block by definition.  The
two are the same as soon as the block has a file or a name (`eq_location_of_entryLocation`).  The issues of a
pass over the block stand there too, and so do the errors that end it, unless the evaluator reports them by
itself (`compilesAt_location`).

A document loads entry by entry (`loads_of_read`).
-/

namespace NamespaceManifest

/-- A block has a file or a name that is not empty. -/
def Block.IsLocated (block : Block) : Prop :=
  (∃ file, file ≠ "" ∧ block.file = some file) ∨ ∃ name, name ≠ "" ∧ block.name = some name

namespace BlockDocument

/-- Raw tags with their names are sorted into the tags and the issues of an entry, in order. -/
inductive Sorts (line : Option LineMark) (location : String) :
    List (String × String) → List Tag → List Issue → Prop
  | nil :
      Sorts line location [] [] []
  | kept
      {name text : String} {value : TagValue} {raw : List (String × String)}
      {tags : List Tag} {issues : List Issue}
      (hshape : shapeTag name text = .ok value)
      (rest : Sorts line location raw tags issues) :
      Sorts line location ((name, text) :: raw)
        ({ name := name, value := value, line := line } :: tags) issues
  | rejected
      {name text : String} {e : ShapeError} {raw : List (String × String)}
      {tags : List Tag} {issues : List Issue}
      (hshape : shapeTag name text = .error e)
      (rest : Sorts line location raw tags issues) :
      Sorts line location ((name, text) :: raw)
        tags ({ location := location, tag := name, complaint := .shape e } :: issues)

/-- An entry of a document from a source loads as a block and some issues. -/
inductive Loads (source : Option String) : Value → Block → List Issue → Prop
  | entry
      {fields entries : List (Value × Value)} {location : String}
      {block : Block} {issues : List Issue}
      (htags : ListsTags (field fields "tags") entries)
      (hfile : block.file = (textField fields "file" <|> source))
      (hline : block.line = lineMark? (field fields "line"))
      (hname : block.name = (textField fields "name" <|> nameFromTags (rawTagsOf entries)))
      (hsorts : Sorts block.line location (rawTagsOf entries) block.tags issues)
      (hlocation : block.IsLocated → location = block.location) :
      Loads source (.map fields) block issues

end BlockDocument

namespace Directive

/-- The issues that a tag leaves stand at a location. -/
def Resolution.StandsAt (location : String) (r : Resolution) : Prop :=
  ∀ issue ∈ r.issues, issue.location = location

/-- The issues that a block leaves in a pass stand at a location, and so do the errors of its fragments, apart
from those that an evaluator reports by itself. -/
structure CompilesAt (location : String) (block : Block) : Prop where
  issues : ∀ available kinds evaluator r,
    compileBlock available kinds evaluator block = .ok r → r.StandsAt location
  errors : ∀ available kinds evaluator e,
    compileBlock available kinds evaluator block = .error (.evaluation e) →
      e.location = location ∨
        ∃ own code, evaluator = some own ∧ own.run code block = .error (.reported e)

end Directive

namespace BlockDocument

/-! ## Sorting -/

/-- There is one way to sort raw tags. -/
theorem sorts_iff
    {line : Option LineMark} {location : String} {raw : List (String × String)}
    {tags : List Tag} {issues : List Issue} :
    Sorts line location raw tags issues ↔
      tags = keptTags line raw ∧ issues = shapeIssues location raw := by
  constructor
  · intro h
    induction h with
    | nil =>
        exact ⟨rfl, rfl⟩
    | kept hshape _ ih =>
        obtain ⟨rfl, rfl⟩ := ih
        simp [keptTags, shapeIssues, hshape]
    | rejected hshape _ ih =>
        obtain ⟨rfl, rfl⟩ := ih
        simp [keptTags, shapeIssues, hshape]
  · rintro ⟨rfl, rfl⟩
    induction raw with
    | nil =>
        exact .nil
    | cons tag raw ih =>
        obtain ⟨name, text⟩ := tag
        cases hshape : shapeTag name text with
        | ok value =>
            simpa [keptTags, shapeIssues, hshape] using Sorts.kept hshape ih
        | error e =>
            simpa [keptTags, shapeIssues, hshape] using Sorts.rejected hshape ih

/-! ## Locations -/

theorem presentText?_eq_some
    {s : String}
    (hs : s ≠ "") :
    presentText? (some s) = some s := by
  simp [presentText?, hs]

/-- The location of an entry is that of its block if the block has a file or a name. -/
theorem eq_location_of_entryLocation
    {block : Block} {index : Nat} {location : String}
    (h : entryLocation (presentText? block.file) block.line (presentText? block.name) index =
      .ok location)
    (hblock : block.IsLocated) :
    location = block.location := by
  cases hfile : presentText? block.file with
  | some file =>
      cases hline : block.line with
      | some line =>
          simp only [entryLocation, hfile, hline] at h
          simp only [Block.location, hfile, hline]
          split at h
          · cases h
            rfl
          · cases h
      | none =>
          simp only [entryLocation, hfile, hline, Except.ok.injEq] at h
          simp only [Block.location, hfile, hline, h]
  | none =>
      -- without a file only the name is left, and then neither side falls back on its own text
      simp only [entryLocation, hfile, Except.ok.injEq] at h
      simp only [Block.location, hfile]
      rcases hblock with ⟨file, hne, hsome⟩ | ⟨name, hne, hsome⟩
      · rw [hsome, presentText?_eq_some hne] at hfile
        cases hfile
      · rw [hsome, presentText?_eq_some hne] at h ⊢
        exact h.symm

end BlockDocument

namespace Directive

section Resolve

variable {evaluator : Option Evaluator} {block : Block} {kind : Kind} {value : TagValue}

theorem standsAt_ofLines
    (location : String)
    (lines : List String) :
    (Resolution.ofLines lines).StandsAt location := by
  intro issue hissue
  cases hissue

theorem standsAt_complain
    (block : Block)
    (tag : String)
    (complaint : Complaint) :
    (Resolution.complain block tag complaint).StandsAt block.location := by
  intro issue hissue
  rw [List.mem_singleton.mp hissue]

theorem standsAt_resolveExport :
    (resolveExport block value).StandsAt block.location := by
  unfold resolveExport
  split
  · unfold defaultExport
    split
    · split
      · exact standsAt_ofLines _ _
      · exact standsAt_complain _ _ _
    all_goals
      exact standsAt_ofLines _ _
  · exact standsAt_ofLines _ _

theorem standsAt_resolveMethod :
    (resolveMethod block value).StandsAt block.location := by
  unfold resolveMethod
  split
  · exact standsAt_ofLines _ _
  · exact standsAt_ofLines _ _
  · exact standsAt_ofLines _ _
  · exact standsAt_complain _ _ _

theorem standsAt_of_resolve
    {r : Resolution}
    (h : resolve evaluator block kind value = .ok r) :
    r.StandsAt block.location := by
  cases kind
  case exports =>
    cases h
    exact standsAt_resolveExport
  case exportS3Method =>
    cases h
    exact standsAt_resolveMethod
  case evalNamespace =>
    simp only [resolve] at h
    cases hlines : Evaluation.linesOf evaluator block value.toText with
    | error e =>
        simp [hlines, Except.map] at h
    | ok lines =>
        simp only [hlines, Except.map, Except.ok.injEq] at h
        subst h
        exact standsAt_ofLines _ _
  all_goals
    cases h
    exact standsAt_ofLines _ _

theorem location_of_toLines
    {location : String} {result : Value} {e : EvaluationError}
    (h : Evaluation.toLines location result = .error e) :
    e.location = location := by
  unfold Evaluation.toLines at h
  split at h
  · cases h
  · split at h
    · cases h
    · cases h
      rfl
  · cases h
    rfl

/-- A fragment fails where its block stands, unless the evaluator reports an error of its own. -/
theorem location_of_linesOf
    {code : String} {e : EvaluationError}
    (h : Evaluation.linesOf evaluator block code = .error e) :
    e.location = block.location ∨
      ∃ own code, evaluator = some own ∧ own.run code block = .error (.reported e) := by
  unfold Evaluation.linesOf at h
  split at h
  · cases h
    exact .inl rfl
  · rename_i own
    split at h
    · exact .inl (location_of_toLines h)
    · rename_i hrun
      cases h
      exact .inr ⟨own, code, rfl, hrun⟩
    · cases h
      exact .inl rfl

end Resolve

/-- A block compiles where it stands. -/
theorem compilesAt_location
    (block : Block) :
    CompilesAt block.location block where
  issues := by
    intro available kinds evaluator r h issue hissue
    obtain ⟨parts, hparts, rfl⟩ := bind_pure_eq_ok_iff.mp h
    obtain ⟨part, hpart, hmem⟩ := List.mem_flatMap.mp hissue
    obtain ⟨v, -, hvisit⟩ := (mem_of_mapM_eq_ok hparts).mp hpart
    unfold visit at hvisit
    split at hvisit
    · split at hvisit
      · rename_i hresolve
        cases hvisit
        exact standsAt_of_resolve hresolve issue hmem
      · cases hvisit
    · cases hvisit
  errors := by
    intro available kinds evaluator e h
    obtain ⟨v, -, hvisit⟩ := exists_of_mapM_eq_error (bind_pure_eq_error_iff.mp h)
    unfold visit at hvisit
    split at hvisit
    · split at hvisit
      · cases hvisit
      · rename_i hresolve
        cases hvisit
        obtain ⟨-, hlines⟩ := resolve_eq_error_iff.mp hresolve
        exact location_of_linesOf hlines
    · cases hvisit

end Directive

namespace BlockDocument

/-! ## Entries and documents -/

/-- An entry that is read loads as its block and its issues. -/
theorem loads_of_readEntry
    {source : Option String} {index : Nat} {fields : List (Value × Value)}
    {block : Block} {issues : List Issue}
    (h : readEntry source index fields = .ok (block, issues)) :
    Loads source (.map fields) block issues := by
  simp only [readEntry, bind, Except.bind, pure, Except.pure] at h
  split at h
  · cases h
  · rename_i raw hraw
    obtain ⟨entries, htags, rfl⟩ := listsTags_of_rawTags hraw
    split at h
    · cases h
    · rename_i location hlocation
      split at h
      · cases h
      · cases h
        exact .entry htags rfl rfl rfl (sorts_iff.mpr ⟨rfl, rfl⟩)
          (eq_location_of_entryLocation hlocation)

/-- A document loads entry by entry: its blocks and its issues are those of its entries, in order.  A block
compiles where the issues of its entry stand. -/
theorem loads_of_read
    {source : Option String} {v : Value} {blocks : List Block} {issues : List Issue}
    (h : read source v = .ok (blocks, issues)) :
    (∃ items parts,
      ListsEntries v items ∧
      List.Forall₂ (fun entry (part : Block × List Issue) => Loads source entry part.1 part.2)
        items parts ∧
      blocks = parts.map Prod.fst ∧
      issues = parts.flatMap Prod.snd) ∧
    ∀ block ∈ blocks, Directive.CompilesAt block.location block := by
  refine ⟨?_, fun block _ => Directive.compilesAt_location block⟩
  obtain ⟨items, hitems⟩ := listsEntries_of_read h
  rw [read_eq_readEntries source hitems] at h
  obtain ⟨readings, hreadings, rfl, rfl⟩ := readings_of_readEntries h
  refine ⟨items, readings.map fun r => (r.block, shapeIssues r.location r.raw), hitems, ?_, ?_, ?_⟩
  · rw [List.forall₂_map_right_iff, ← List.zipIdx_map_fst 0 items, List.forall₂_map_left_iff]
    refine hreadings.imp fun entry r hr => ?_
    obtain ⟨fields, hfields, -, hentry⟩ := hr.found
    rw [hfields]
    exact loads_of_readEntry hentry
  · simp
  · simp [List.flatMap_map]

/-- A document whose entries list their tags in different ways and stand at a truth value and at a name. -/
def mixedDocument : Value :=
  .list [
    .map [(.text "file", .text "R/a.R"), (.text "line", .bool true),
      (.text "tags", .map [(.text "importFrom", .list [.text "rlang abort", .text "rlang"])])],
    .map [(.text "tags", .list [.map [(.text "import", .null)], .map [(.text "name", .text " f ")]])]]

theorem loads_of_mixedDocument :
    ∃ blocks issues,
      read none mixedDocument = .ok (blocks, issues) ∧
      (blocks.map fun block => block.tags.map Tag.name) = [["importFrom"], ["name"]] ∧
      (issues.map fun issue => (issue.location, issue.tag)) =
        [("R/a.R:True", "importFrom"), ("f", "import")] ∧
      ∃ items parts,
        ListsEntries mixedDocument items ∧
        List.Forall₂ (fun entry (part : Block × List Issue) => Loads none entry part.1 part.2)
          items parts ∧
        blocks = parts.map Prod.fst ∧
        issues = parts.flatMap Prod.snd :=
  ⟨_, _, rfl, rfl, rfl, (loads_of_read rfl).1⟩

end BlockDocument

end NamespaceManifest
