import NamespaceManifest.Block.Load
import NamespaceManifest.Config
import NamespaceManifest.Diff
import NamespaceManifest.Manifest.Compiler

/-!
# Builds

A build loads the configuration of a module and its blocks and brings the manifest up to date: first
the import pass, then, unless only imports are asked for, the full pass and its output.  The evaluator
of the module is looked up between the two.

A dry run computes the same lines, writes nothing, and shows the difference to the manifest.
-/

namespace NamespaceManifest

open Directive

/-- What to build. -/
structure BuildRequest where
  root : String := "."
  blocks : Option String := none
  module : Option String := none
  evaluator : Option Evaluator := none
  importsOnly : Bool := false
  dryRun : Bool := false

/-- What a build yields. -/
structure BuildOutcome where
  path : Path
  lines : List String
  issues : List Issue
  written : Bool := false
  dryRun : Bool := false
  diff : String := ""

namespace Build

/-- The settings of the module with a root folder, which must exist. -/
def configOf (env : Environment) (root : String) (t : Tree) : Except Error Config := do
  let expanded ← env.expand (Path.ofText root)
  let folder := env.resolve expanded
  if ← Error.atPath folder (t.hasFolder folder) then Config.load env folder t
  else throw (.rootMissing folder)

/-- Settings with those of a request in their place. -/
def override (request : BuildRequest) (config : Config) : Config :=
  { config with
    blocks := (presentText? request.blocks).getD config.blocks
    module := presentText? request.module <|> config.module }

/-- The path of the block document, from the root folder of the module. -/
def blocksPath (env : Environment) (config : Config) : Except Error Path := do
  let expanded ← env.expand (Path.ofText config.blocks)
  return config.root.join expanded

/-- The evaluator of a request, or else the one of the configured module. -/
def evaluatorFor (env : Environment) (request : BuildRequest) (config : Config) :
    Except Error (Option Evaluator) :=
  match request.evaluator, presentText? config.module with
  | some e, _ => .ok (some e)
  | none, some name => env.evaluatorOf name
  | none, none => .ok none

/-- The difference between a manifest and the lines of a pass. -/
def diffText (w : Writer) (p : Path) (lines : List String) : Work String := do
  let current := ((← Work.open? p).map w.bodyOf).getD []
  return "\n".intercalate
    (Diff.unified (p.name ++ " (current)") (p.name ++ " (generated)") current lines)

/-- The pass of a dry run. -/
def dryPass (env : Environment) (request : BuildRequest) (config : Config) (blocks : List Block) :
    Work Pass := do
  if request.importsOnly then runPass importKinds none blocks
  else
    let evaluator ← Work.ofExcept (evaluatorFor env request config)
    fullPass evaluator blocks

/-- The passes of a build and their output. -/
def passes (env : Environment) (request : BuildRequest) (config : Config) (blocks : List Block) :
    Work PassReport := do
  let w := Writer.ofMarker config.marker
  let imports ← importPass w config.manifestPath blocks
  if request.importsOnly then return imports
  else
    let evaluator ← Work.ofExcept (evaluatorFor env request config)
    let full ← fullPass evaluator blocks
    let output ← writeOutput w config.manifestPath full
    return { output with written := imports.written || output.written }

/-- A build of blocks that are loaded already, with the issues of loading them. -/
def ofBlocks (env : Environment) (request : BuildRequest) (config : Config) (blocks : List Block)
    (issues : List Issue) : Work BuildOutcome := do
  let p := config.manifestPath
  if request.dryRun then
    let pass ← dryPass env request config blocks
    let diff ← diffText (Writer.ofMarker config.marker) p pass.lines
    return { path := p
             lines := pass.lines
             issues := issues ++ pass.issues
             dryRun := true
             diff := diff }
  else
    let report ← passes env request config blocks
    return { path := p
             lines := report.pass.lines
             issues := issues ++ report.pass.issues
             written := report.written }

/-- Builds the manifest of a module. -/
def run (env : Environment) (request : BuildRequest) : Work BuildOutcome := do
  let found ← Work.inspect (configOf env request.root)
  let config := override request found
  Work.note .info .build ("Building " ++ config.manifest ++ " for " ++ config.root.display)
  let document ← Work.ofExcept (blocksPath env config)
  let (blocks, issues) ← BlockDocument.load document
  Work.records (issues.map (LogRecord.ofIssue .build))
  Work.note .debug .build ("Processing " ++ toString blocks.length ++ " block(s)")
  ofBlocks env request config blocks issues

/-- Removes the manifest of a module if it was generated. -/
def clean (env : Environment) (root : String) : Work Bool := do
  let config ← Work.inspect (configOf env root)
  let removed ← (Writer.ofMarker config.marker).clean config.manifestPath
  if !removed then
    Work.note .info .build ("Nothing to clean at " ++ config.manifestPath.display)
  return removed

end Build
end NamespaceManifest
