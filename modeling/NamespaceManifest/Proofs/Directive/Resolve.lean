import NamespaceManifest.Directive.Resolve
import NamespaceManifest.Proofs.Directive.Shape

/-!
# Laws of resolutions

A tag that fits its shape resolves to something that can be used.

* Its lines are directives with words of its kind, unless it takes code (`isDirectiveIn_of_mem_resolve`); a raw
  directive ends in a character of its own, as a directive does (`endsInText_of_mem_resolve`).
* The words that its shape asks for are enough for a line.  Only two kinds can go without one, since they
  ask for something that the block may not have, and they complain instead
  (`yields_or_complains_of_resolve`).
-/

namespace NamespaceManifest
namespace Directive

open Text

/-! ## Directives -/

theorem toList_line
    (directive arguments : String) :
    (line directive arguments).toList =
      directive.toList ++ '(' :: (arguments.toList ++ [')']) := by
  simp [line]

/-- A text that is a directive with its arguments. -/
def IsDirective (l : String) : Prop :=
  ∃ directive arguments, l = line directive arguments

theorem IsDirective.endsInText
    {l : String}
    (h : IsDirective l) :
    EndsInText l := by
  obtain ⟨directive, arguments, rfl⟩ := h
  exact ⟨')', by simp [line, List.getLast?_cons], by decide⟩

/-- The words of the directives that the tags of a kind resolve to.  Tags that take code can resolve to anything. -/
def Kind.directives : Kind → List String
  | imports => ["import"]
  | importFrom => ["importFrom"]
  | importClassesFrom => ["importClassesFrom"]
  | importMethodsFrom => ["importMethodsFrom"]
  | useDynLib => ["useDynLib"]
  | rawNamespace | evalNamespace => []
  | exports => ["export", "exportClasses", "exportMethods", "S3method"]
  | exportClass => ["exportClasses"]
  | exportMethod => ["exportMethods"]
  | exportS3Method => ["S3method"]
  | exportPattern => ["exportPattern"]

/-- A text that is a directive with one of some words. -/
def IsDirectiveIn (directives : List String) (l : String) : Prop :=
  ∃ directive ∈ directives, ∃ arguments, l = line directive arguments

theorem IsDirectiveIn.isDirective
    {directives : List String} {l : String}
    (h : IsDirectiveIn directives l) :
    IsDirective l := by
  obtain ⟨directive, -, arguments, rfl⟩ := h
  exact ⟨directive, arguments, rfl⟩

section Words

variable {directives : List String} {directive l : String}

theorem isDirectiveIn_of_mem_onePerLine
    {names : List String}
    (hdirective : directive ∈ directives)
    (hl : l ∈ onePerLine directive names) :
    IsDirectiveIn directives l := by
  obtain ⟨name, -, rfl⟩ := List.mem_map.mp hl
  exact ⟨directive, hdirective, _, rfl⟩

theorem isDirectiveIn_of_mem_repeatFirst
    {items : List String}
    (hdirective : directive ∈ directives)
    (hl : l ∈ repeatFirst directive items) :
    IsDirectiveIn directives l := by
  cases items with
  | nil =>
      cases hl
  | cons first names =>
      obtain ⟨name, -, rfl⟩ := List.mem_map.mp hl
      exact ⟨directive, hdirective, _, rfl⟩

theorem isDirectiveIn_of_mem_libraryLines
    {value : TagValue}
    (hl : l ∈ libraryLines value) :
    IsDirectiveIn Kind.useDynLib.directives l := by
  unfold libraryLines at hl
  split at hl
  · cases hl
  · exact ⟨"useDynLib", by decide, _, List.mem_singleton.mp hl⟩
  · split at hl
    · exact ⟨"useDynLib", by decide, _, List.mem_singleton.mp hl⟩
    · exact isDirectiveIn_of_mem_repeatFirst (by decide) hl

theorem isDirectiveIn_of_mem_defaultExport
    {block : Block}
    (hl : l ∈ (defaultExport block).lines) :
    IsDirectiveIn Kind.exports.directives l := by
  unfold defaultExport at hl
  split at hl
  · split at hl
    · exact isDirectiveIn_of_mem_onePerLine (by decide) hl
    · cases hl
  case h_5 =>
    exact ⟨"S3method", by decide, _, List.mem_singleton.mp hl⟩
  all_goals
    exact isDirectiveIn_of_mem_onePerLine (by decide) hl

theorem isDirectiveIn_of_mem_resolveMethod
    {block : Block} {value : TagValue}
    (hl : l ∈ (resolveMethod block value).lines) :
    IsDirectiveIn Kind.exportS3Method.directives l := by
  unfold resolveMethod at hl
  split at hl
  case h_4 =>
    cases hl
  all_goals
    exact ⟨"S3method", by decide, _, List.mem_singleton.mp hl⟩

end Words

/-- A tag that takes no code resolves to directives with words of its kind. -/
theorem isDirectiveIn_of_mem_resolve
    {evaluator : Option Evaluator} {block : Block} {kind : Kind} {value : TagValue}
    {found : Resolution} {l : String}
    (hraw : kind ≠ .rawNamespace)
    (heval : kind ≠ .evalNamespace)
    (h : resolve evaluator block kind value = .ok found)
    (hl : l ∈ found.lines) :
    IsDirectiveIn kind.directives l := by
  cases kind
  case rawNamespace =>
    exact absurd rfl hraw
  case evalNamespace =>
    exact absurd rfl heval
  case imports | exportClass | exportMethod | exportPattern =>
    cases h
    exact isDirectiveIn_of_mem_onePerLine (by decide) hl
  case importFrom | importClassesFrom | importMethodsFrom =>
    cases h
    exact isDirectiveIn_of_mem_repeatFirst (by decide) hl
  case useDynLib =>
    cases h
    exact isDirectiveIn_of_mem_libraryLines hl
  case exports =>
    cases h
    unfold resolveExport at hl
    split at hl
    · exact isDirectiveIn_of_mem_defaultExport hl
    · exact isDirectiveIn_of_mem_onePerLine (by decide) hl
  case exportS3Method =>
    cases h
    exact isDirectiveIn_of_mem_resolveMethod hl

theorem isDirective_of_mem_resolve
    {evaluator : Option Evaluator} {block : Block} {kind : Kind} {value : TagValue}
    {found : Resolution} {l : String}
    (hraw : kind ≠ .rawNamespace)
    (heval : kind ≠ .evalNamespace)
    (h : resolve evaluator block kind value = .ok found)
    (hl : l ∈ found.lines) :
    IsDirective l := by
  exact (isDirectiveIn_of_mem_resolve hraw heval h hl).isDirective

theorem endsInText_of_mem_rawLines
    {value : TagValue} {l : String}
    (hfits : Shape.code.Fits value)
    (hl : l ∈ rawLines value) :
    EndsInText l := by
  cases value with
  | code source =>
      obtain rfl := List.mem_singleton.mp hl
      exact hfits
  | words items => exact hfits.elim
  | text s => exact hfits.elim

/-- What a tag resolves to, unless an evaluator gives it, ends in a character of its own. -/
theorem endsInText_of_mem_resolve
    {evaluator : Option Evaluator} {block : Block} {kind : Kind} {value : TagValue}
    {found : Resolution} {l : String}
    (heval : kind ≠ .evalNamespace)
    (hfits : kind.shape.Fits value)
    (h : resolve evaluator block kind value = .ok found)
    (hl : l ∈ found.lines) :
    EndsInText l := by
  by_cases hraw : kind = .rawNamespace
  · subst hraw
    cases h
    exact endsInText_of_mem_rawLines hfits hl
  · exact (isDirective_of_mem_resolve hraw heval h hl).endsInText

/-! ## Lines and complaints -/

namespace Resolution

/-- At least one line and no issue. -/
def Yields (found : Resolution) : Prop :=
  found.lines ≠ [] ∧ found.issues = []

/-- No line and exactly one issue, which names a tag. -/
def Complains (found : Resolution) (tag : String) : Prop :=
  found.lines = [] ∧ ∃ issue, found.issues = [issue] ∧ issue.tag = tag

theorem yields_ofLines
    {lines : List String}
    (h : lines ≠ []) :
    (ofLines lines).Yields :=
  ⟨h, rfl⟩

theorem complains_complain
    (block : Block)
    (tag : String)
    (complaint : Complaint) :
    (complain block tag complaint).Complains tag :=
  ⟨rfl, _, rfl, rfl⟩

end Resolution

open Resolution

theorem le_length_of_fits
    {least : Nat} {most : Option Int} {value : TagValue}
    (h : (Shape.words least most).Fits value) :
    least ≤ value.toWords.length := by
  cases value with
  | words items => exact Int.ofNat_le.mp h.1
  | text s => exact h.elim
  | code source => exact h.elim

theorem onePerLine_ne_nil
    {names : List String}
    (directive : String)
    (h : 1 ≤ names.length) :
    onePerLine directive names ≠ [] := by
  have hne : names ≠ [] := List.length_pos_iff.mp h
  simpa [onePerLine] using hne

theorem repeatFirst_ne_nil
    {names : List String}
    (directive : String)
    (h : 2 ≤ names.length) :
    repeatFirst directive names ≠ [] := by
  match names, h with
  | first :: second :: names, _ => simp [repeatFirst]

theorem libraryLines_ne_nil
    {value : TagValue}
    (h : 1 ≤ value.toWords.length) :
    libraryLines value ≠ [] := by
  unfold libraryLines
  split
  · rename_i hwords
    simp [hwords] at h
  · simp
  · rename_i hnone hone
    split
    · simp
    · refine repeatFirst_ne_nil _ ?_
      match hwords : value.toWords with
      | [] => exact absurd hwords hnone
      | [library] => exact absurd hwords (hone library)
      | first :: second :: names => simp

theorem rawLines_ne_nil
    {value : TagValue}
    (h : Shape.code.Fits value) :
    rawLines value ≠ [] := by
  cases value with
  | code source => simp [rawLines]
  | words items => exact h.elim
  | text s => exact h.elim

theorem yields_or_complains_defaultExport
    (block : Block) :
    (defaultExport block).Yields ∨ (defaultExport block).Complains Kind.exports.tag := by
  unfold defaultExport
  split
  · split
    · exact Or.inl (yields_ofLines (onePerLine_ne_nil _ (by simp)))
    · exact Or.inr (complains_complain block _ _)
  all_goals
    exact Or.inl (yields_ofLines (by simp [onePerLine]))

theorem yields_or_complains_resolveExport
    (block : Block)
    (value : TagValue) :
    (resolveExport block value).Yields ∨ (resolveExport block value).Complains Kind.exports.tag := by
  unfold resolveExport
  split
  · exact yields_or_complains_defaultExport block
  · rename_i hne
    refine Or.inl (yields_ofLines (onePerLine_ne_nil _ ?_))
    exact List.length_pos_iff.mpr hne

theorem yields_or_complains_resolveMethod
    (block : Block)
    (value : TagValue) :
    (resolveMethod block value).Yields ∨
      (resolveMethod block value).Complains Kind.exportS3Method.tag := by
  unfold resolveMethod
  split
  · exact Or.inl (yields_ofLines (by simp))
  · exact Or.inl (yields_ofLines (by simp))
  · exact Or.inl (yields_ofLines (by simp))
  · exact Or.inr (complains_complain block _ _)

/-- A tag that fits its shape yields lines, unless it needs what its block does not have. -/
theorem yields_or_complains_of_resolve
    {evaluator : Option Evaluator} {block : Block} {kind : Kind} {value : TagValue}
    {found : Resolution}
    (hfits : kind.shape.Fits value)
    (hkind : kind ≠ .evalNamespace)
    (h : resolve evaluator block kind value = .ok found) :
    found.Yields ∨ ((kind = .exports ∨ kind = .exportS3Method) ∧ found.Complains kind.tag) := by
  cases kind
  case evalNamespace =>
    exact absurd rfl hkind
  case imports | exportClass | exportMethod | exportPattern =>
    cases h
    exact Or.inl (yields_ofLines (onePerLine_ne_nil _ (le_length_of_fits hfits)))
  case importFrom | importClassesFrom | importMethodsFrom =>
    cases h
    exact Or.inl (yields_ofLines (repeatFirst_ne_nil _ (le_length_of_fits hfits)))
  case useDynLib =>
    cases h
    exact Or.inl (yields_ofLines (libraryLines_ne_nil (le_length_of_fits hfits)))
  case rawNamespace =>
    cases h
    exact Or.inl (yields_ofLines (rawLines_ne_nil hfits))
  case exports =>
    cases h
    exact (yields_or_complains_resolveExport block value).imp_right fun hc => ⟨Or.inl rfl, hc⟩
  case exportS3Method =>
    cases h
    exact (yields_or_complains_resolveMethod block value).imp_right fun hc => ⟨Or.inr rfl, hc⟩

end Directive
end NamespaceManifest
