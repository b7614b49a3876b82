import NamespaceManifest.Block.Issue
import NamespaceManifest.Directive.Kind
import NamespaceManifest.Directive.Line
import NamespaceManifest.Evaluation.Basic

/-!
# Resolving tags to directive lines

A directive tag of a block resolves to manifest lines, or to an issue when the block does not have
what the tag needs.

* The tags of the import family and the explicit export tags depend on their value only.
* A bare export asks for the directive that the documented object implies.
* A bare method export takes what its words leave open from a documented convention method.
* An evaluated tag takes its lines from an evaluator; it is the only one that can fail.
-/

namespace NamespaceManifest
namespace Directive

/-- What one tag contributes: lines for the manifest and issues. -/
structure Resolution where
  lines : List String
  issues : List Issue := []
  deriving Repr, BEq, DecidableEq

namespace Resolution

/-- Lines without an issue. -/
def ofLines (lines : List String) : Resolution := { lines := lines }

/-- No lines and one issue. -/
def complain (block : Block) (tag : String) (complaint : Complaint) : Resolution :=
  { lines := []
    issues := [{ location := block.location, tag := tag, complaint := complaint }] }

end Resolution

/-- The directive that a bare export of a block implies. -/
def defaultExport (block : Block) : Resolution :=
  match block.object with
  | none =>
      match presentText? block.name with
      | some name => .ofLines (onePerLine "export" [name])
      | none => .complain block "export" .nothingToExport
  | some (.formalClass className) => .ofLines (onePerLine "exportClasses" [className])
  | some (.formalGeneric generic) => .ofLines (onePerLine "export" [generic])
  | some (.formalMethod generic) => .ofLines (onePerLine "exportMethods" [generic])
  | some (.conventionMethod generic className) => .ofLines [s3Method generic className]
  | some (.recordClass className) => .ofLines (onePerLine "exportClasses" [className])
  | some (.plain name exportName) =>
      .ofLines (onePerLine "export" [(presentText? exportName).getD name])

/-- The lines of an export tag. -/
def resolveExport (block : Block) (value : TagValue) : Resolution :=
  match value.toWords with
  | [] => defaultExport block
  | names => .ofLines (onePerLine "export" names)

/-- The lines of a method export: two words are used as they are, one word is the generic, and what
is left open comes from a documented convention method. -/
def resolveMethod (block : Block) (value : TagValue) : Resolution :=
  match value.toWords, block.object with
  | generic :: className :: _, _ => .ofLines [s3Method generic className]
  | [generic], some (.conventionMethod _ className) => .ofLines [s3Method generic className]
  | [], some (.conventionMethod generic className) => .ofLines [s3Method generic className]
  | _, _ => .complain block Kind.exportS3Method.tag .notAConventionMethod

/-- The lines of a native library tag: arguments with a comma pass through as they are. -/
def libraryLines (value : TagValue) : List String :=
  match value.toWords with
  | [] => []
  | [library] => [line "useDynLib" (Name.autoQuote library)]
  | items =>
      if items.any fun word => word.toList.contains ',' then
        [line "useDynLib" (" ".intercalate items)]
      else repeatFirst "useDynLib" items

/-- The lines of a raw tag: its text as it stands, if there is any. -/
def rawLines (value : TagValue) : List String :=
  match value with
  | .code source => [source]
  | .words items => if items.isEmpty then [] else [value.toText]
  | .text s => if s.isEmpty then [] else [s]

/-- What a tag of a kind with a value contributes for a block. -/
def resolve (evaluator : Option Evaluator) (block : Block) (kind : Kind) (value : TagValue) :
    Except EvaluationError Resolution :=
  match kind with
  | .imports => .ok (.ofLines (onePerLine "import" value.toWords))
  | .importFrom => .ok (.ofLines (repeatFirst "importFrom" value.toWords))
  | .importClassesFrom => .ok (.ofLines (repeatFirst "importClassesFrom" value.toWords))
  | .importMethodsFrom => .ok (.ofLines (repeatFirst "importMethodsFrom" value.toWords))
  | .useDynLib => .ok (.ofLines (libraryLines value))
  | .rawNamespace => .ok (.ofLines (rawLines value))
  | .evalNamespace => (Evaluation.linesOf evaluator block value.toText).map .ofLines
  | .exports => .ok (resolveExport block value)
  | .exportClass => .ok (.ofLines (onePerLine "exportClasses" value.toWords))
  | .exportMethod => .ok (.ofLines (onePerLine "exportMethods" value.toWords))
  | .exportS3Method => .ok (resolveMethod block value)
  | .exportPattern => .ok (.ofLines (onePerLine "exportPattern" value.toWords))

end Directive
end NamespaceManifest
