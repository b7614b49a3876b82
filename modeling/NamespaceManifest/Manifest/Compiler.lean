import NamespaceManifest.Directive.Pass
import NamespaceManifest.Manifest.Writer

/-!
# The compiler of a manifest

A manifest is compiled in two passes.  The import pass resolves the import family and writes the result
at once: over a manifest that belongs to the writer it replaces the import lines and keeps the others.
The full pass resolves everything; its result is written in a step of its own that refuses to replace
a manifest written by hand.

The compiler remembers which pass it completed last, because output requires a completed full pass.
-/

namespace NamespaceManifest

open Directive

/-- The visits of a pass that are carried out: all of them, or those up to the first failure. -/
def carriedOut (evaluator : Option Evaluator) :
    List (Block × Kind × TagValue) → List (Block × Kind × TagValue)
  | [] => []
  | (block, v) :: visits =>
      match visit allKinds evaluator block v with
      | .ok _ => (block, v) :: carriedOut evaluator visits
      | .error _ => [(block, v)]

/-- The records of the fragments that a pass hands to an announced evaluator. -/
def evaluationRecords (kinds : KindSet) (evaluator : Option Evaluator) (blocks : List Block) :
    List LogRecord :=
  if evaluator.any (·.announced) then
    let all := blocks.flatMap fun block => (visits kinds block).map fun v => (block, v)
    ((carriedOut evaluator all).filter fun step => step.2.1 == .evalNamespace).map fun step =>
      { level := .debug
        channel := .evaluation
        message := "Evaluating fragment from " ++ step.1.location }
  else []

/-- A pass over blocks, with its log records. -/
def runPass (kinds : KindSet) (evaluator : Option Evaluator) (blocks : List Block) : Work Pass := do
  Work.records (evaluationRecords kinds evaluator blocks)
  let found ← Work.ofExcept (collect allKinds kinds evaluator blocks)
  Work.records (found.issues.map (LogRecord.ofIssue .compiler))
  let lines := finalize found.lines
  Work.note .debug .compiler
    ("Resolved " ++ toString found.lines.length ++ " directive(s) into " ++ toString lines.length
      ++ " line(s) from " ++ toString blocks.length ++ " block(s)")
  return { lines := lines, issues := found.issues }

/-- Writes the imports of a pass, unless there are none and the manifest is not the writer's.  The
result says whether the manifest was written. -/
def writeImports (w : Writer) (p : Path) (imports : List String) : Work Bool := do
  if ← w.isGenerated p then
    w.write p (mergeImports imports ((← w.body? p).getD [])) false
  else if imports.isEmpty then
    Work.note .debug .compiler ("Pre-pass produced no imports; leaving " ++ p.display ++ " alone")
    return false
  else w.write p imports false

/-- A pass and whether its lines were written. -/
structure PassReport where
  pass : Pass
  written : Bool
  deriving Repr, BEq, DecidableEq

/-- The import pass over blocks. -/
def importPass (w : Writer) (p : Path) (blocks : List Block) : Work PassReport := do
  let pass ← runPass importKinds none blocks
  let written ← writeImports w p pass.lines
  return { pass := pass, written := written }

/-- The full pass over blocks, which writes nothing. -/
def fullPass (evaluator : Option Evaluator) (blocks : List Block) : Work Pass :=
  runPass allKinds evaluator blocks

/-- Writes the lines of a full pass, unless that would replace a manifest written by hand. -/
def writeOutput (w : Writer) (p : Path) (pass : Pass) : Work PassReport := do
  let written ← w.write p pass.lines true
  return { pass := pass, written := written }

/-- Which pass a compiler completed last. -/
inductive Stage where
  | uninitialized
  | importsDone
  | complete
  deriving Repr, BEq, DecidableEq

/-- A stage in words. -/
def Stage.display : Stage → String
  | uninitialized => "uninitialized"
  | importsDone => "pre-pass-complete"
  | complete => "full-pass-complete"

/-- The compiler of one manifest. -/
structure Compiler where
  path : Path
  writer : Writer
  stage : Stage := .uninitialized

namespace Compiler

/-- The import pass: the stage moves on once the blocks are resolved, whether or not the manifest can
be written then. -/
def preprocess (c : Compiler) (blocks : List Block) (s : Workspace) :
    Compiler × Run PassReport :=
  let run := importPass c.writer c.path blocks s
  match compile importKinds none blocks with
  | .ok _ => ({ c with stage := .importsDone }, run)
  | .error _ => (c, run)

/-- The full pass: the stage moves on if it succeeds. -/
def process (c : Compiler) (evaluator : Option Evaluator) (blocks : List Block)
    (s : Workspace) : Compiler × Run Pass :=
  let run := fullPass evaluator blocks s
  match run.outcome with
  | .ok _ => ({ c with stage := .complete }, run)
  | .error _ => (c, run)

/-- Writes a pass, which takes a completed full pass. -/
def output (c : Compiler) (pass : Pass) : Work PassReport :=
  if c.stage = .complete then writeOutput c.writer c.path pass
  else Work.fail .fullPassMissing

/-- Removes the manifest if it belongs to the writer. -/
def clean (c : Compiler) : Work Bool :=
  c.writer.clean c.path

end Compiler
end NamespaceManifest
