import NamespaceManifest.Directive.Resolve
import NamespaceManifest.Error

/-!
# Passes over blocks

A pass resolves the tags of some kinds in all blocks.  Within a block the tags are visited name by
name, in the order in which the names first appear.  The lines of a pass are sorted by code point and
hold no line twice; the issues keep the order in which they arise.

Merging the imports of a pass into the body of a manifest replaces the lines of the import family
that the body holds.
-/

namespace NamespaceManifest
namespace Directive

/-- The lines and issues that a pass over blocks yields. -/
structure Pass where
  lines : List String
  issues : List Issue := []
  deriving Repr, BEq, DecidableEq

/-- Lines without repetition, sorted by code point. -/
def finalize (lines : List String) : List String :=
  lines.eraseDups.mergeSort fun a b => a ≤ b

/-- The tags of a block that a set of kinds selects, grouped by name. -/
def visits (kinds : KindSet) (block : Block) : List (Kind × TagValue) :=
  block.tagNames.flatMap fun name =>
    match Kind.ofTag? name with
    | some kind =>
        if kinds kind then (block.occurrences name).map fun tag => (kind, tag.value) else []
    | none => []

/-- What a visited tag contributes, provided that its kind is among the available ones. -/
def visit (available : KindSet) (evaluator : Option Evaluator) (block : Block)
    (v : Kind × TagValue) : Except Error Resolution :=
  if available v.1 then
    match resolve evaluator block v.1 v.2 with
    | .ok r => .ok r
    | .error e => .error (.evaluation e)
  else .error (.unregistered v.1.tag)

/-- What the tags of a block contribute. -/
def compileBlock (available kinds : KindSet) (evaluator : Option Evaluator) (block : Block) :
    Except Error Resolution := do
  let parts ← (visits kinds block).mapM (visit available evaluator block)
  return { lines := parts.flatMap (·.lines), issues := parts.flatMap (·.issues) }

/-- What the tags of all blocks contribute, before the lines are sorted. -/
def collect (available kinds : KindSet) (evaluator : Option Evaluator) (blocks : List Block) :
    Except Error Resolution := do
  let parts ← blocks.mapM (compileBlock available kinds evaluator)
  return { lines := parts.flatMap (·.lines), issues := parts.flatMap (·.issues) }

/-- The pass over blocks for a set of kinds, of which only the available ones can be resolved. -/
def compileWith (available kinds : KindSet) (evaluator : Option Evaluator) (blocks : List Block) :
    Except Error Pass := do
  let found ← collect available kinds evaluator blocks
  return { lines := finalize found.lines, issues := found.issues }

/-- The pass over blocks for a set of kinds. -/
def compile (kinds : KindSet) (evaluator : Option Evaluator) (blocks : List Block) :
    Except Error Pass :=
  compileWith allKinds kinds evaluator blocks

/-- The imports of a pass together with the lines of a manifest body that are neither imports nor
among the lines that the imports occupy. -/
def mergeImports (imports body : List String) : List String :=
  let fresh := Text.physicalLines imports
  finalize (imports ++ body.filter fun s => !fresh.contains s && !isImportLine s)

end Directive
end NamespaceManifest
