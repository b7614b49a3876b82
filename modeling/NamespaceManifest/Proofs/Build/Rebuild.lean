import NamespaceManifest.Proofs.Build.Foreign

/-!
# Building the same thing twice

A full build that succeeded can be repeated.  The second build finds the lines of the full pass in the
manifest, and its import pass merges the imports into them.  If the manifest is not the writer's, there is
nothing to merge.  If it is, the merge gives these lines back just when the pass is steady.  Otherwise
other lines are written by the import pass, and the full pass has to write its own ones again
(`rebuild_written_iff`).

Lines of an evaluator need not be steady (`rebuild_writes_evaluated_import`).
-/

namespace NamespaceManifest
namespace Build

open Directive Work

variable {env : Environment} {request : BuildRequest} {config : Config} {blocks : List Block}
variable {issues : List Issue} {s : Workspace} {o : BuildOutcome}

section Again

variable {imports full : Pass} {f : File}

/-- The passes over what a build left.  They write exactly if the import pass does. -/
theorem passes_of_built
    (hw : config.writer.Marked)
    (honly : request.importsOnly = false)
    (hbuilt : Built env request config blocks imports full f s) :
    ∃ written u, Ends (passes env request config blocks) s (.ok ⟨full, written⟩) u ∧
      (written = false ↔ Current config.writer imports.lines (some f)) ∧
      (written = false → s.Logged u) := by
  have hv := hbuilt.valid
  obtain ⟨written, v, himport⟩ :=
    importPass_of_seat hv hbuilt.holds (Writer.seat_of_holds hv hbuilt.holds) hbuilt.importing
  obtain ⟨c, hc, -, hcases⟩ := of_importPass hw hbuilt.holds.apart himport
  obtain rfl := hc.content_eq hbuilt.holds
  rcases hcases with ⟨rfl, hcurrent, hlog⟩ | ⟨rfl, hstale, g, hg, hgowns⟩
  · -- nothing is merged, and the full pass finds its lines
    obtain ⟨v', hlog', hfinish⟩ := ends_finish honly hbuilt.resolves ⟨imports, false⟩ v
    obtain ⟨u, hwrite, hlog''⟩ :=
      Writer.write_upToDate hv (hlog'.holds (hlog.holds hbuilt.holds)) hbuilt.body
    refine ⟨false, u, ?_, by simp [hcurrent], fun _ => (hlog.trans hlog').trans hlog''⟩
    rw [passes_eq]
    exact himport.bind (hfinish _ u hwrite)
  · -- the import pass has left its own file
    obtain ⟨v', hlog', hfinish⟩ := ends_finish honly hbuilt.resolves ⟨imports, true⟩ v
    have hcheck : true = true → ∀ f ∈ some g, config.writer.owns f = true ∨
        config.writer.bodyOf f = Text.physicalLines full.lines := by
      rintro - f ⟨⟩
      exact Or.inl hgowns
    obtain ⟨output, u, hwrite⟩ :=
      Writer.write_of_seat hv (hlog'.holds hg) (hlog'.seat (Writer.seat_of_holds hv hg)) hcheck
    refine ⟨true, u, ?_, by simp [hstale], fun hfalse => by cases hfalse⟩
    rw [passes_eq]
    exact himport.bind (hfinish _ u hwrite)

/-- The import pass has nothing to write over what a build of shaped blocks left, unless the file is the
writer's and the pass is not steady. -/
theorem Built.current_iff
    (hblocks : ∀ block ∈ blocks, block.Shaped)
    (hbuilt : Built env request config blocks imports full f s) :
    Current config.writer imports.lines (some f) ↔
      (config.writer.owns f = true → Steady imports.lines full.lines) := by
  obtain ⟨evaluator, -, hcompile⟩ := hbuilt.resolves
  have hamong := among_of_compile hblocks hbuilt.importing hcompile
  cases howns : config.writer.owns f with
  | false =>
      simp [hbuilt.current howns]
  | true =>
      rw [current_of_owned howns, hbuilt.body, ← settled_iff_steady hamong, Settled, eq_comm]
      simp

end Again

/-- A full build that succeeded succeeds again.  The second time it writes nothing, in either pass,
exactly if the manifest is not the writer's or the pass is steady. -/
theorem rebuild_written_iff
    {source : Option String} {document : Value} {found : List Issue}
    (hread : BlockDocument.read source document = .ok (blocks, found))
    (hdry : request.dryRun = false)
    (honly : request.importsOnly = false)
    (hmarker : Text.isSingleLine config.marker = true)
    (hlogs : s.LogsApart config.manifestPath)
    (h : (ofBlocks env request config blocks issues s).outcome = .ok o) :
    ∃ evaluator imports full f o',
      evaluatorFor env request config = .ok evaluator ∧
      compile importKinds none blocks = .ok imports ∧
      compile allKinds evaluator blocks = .ok full ∧
      (ofBlocks env request config blocks issues s).workspace.tree.open? config.manifestPath =
        .ok (some f) ∧
      (ofBlocks env request config blocks issues
        (ofBlocks env request config blocks issues s).workspace).outcome = .ok o' ∧
      (o'.written = false ↔
        (config.writer.owns f = true → Steady imports.lines full.lines)) ∧
      (o'.written = false →
        (ofBlocks env request config blocks issues s).workspace.Logged
          (ofBlocks env request config blocks issues
            (ofBlocks env request config blocks issues s).workspace).workspace) := by
  have hw := Writer.marked_ofMarker hmarker
  have hend : Ends (ofBlocks env request config blocks issues) s (.ok o) _ := ⟨h, rfl⟩
  obtain ⟨imports, full, f, hbuilt⟩ := built_of_ofBlocks hw hdry honly hlogs hend
  obtain ⟨evaluator, hevaluator, hcompile⟩ := hbuilt.resolves
  obtain ⟨written, u, hpasses, hwritten, hlogged⟩ := passes_of_built hw honly hbuilt
  have hagain := ends_ofBlocks issues hdry hpasses
  refine ⟨evaluator, imports, full, f, _, hevaluator, hbuilt.importing, hcompile,
    hbuilt.holds.opened, hagain.1, ?_, ?_⟩
  · have hshaped := BlockDocument.shaped_of_read hread
    exact hwritten.trans (hbuilt.current_iff hshaped)
  · intro hfalse
    rw [hagain.2]
    exact hlogged hfalse

/-- A document with one block that has one tag. -/
def singleTag (tag text : String) : Value :=
  .list [.map [(.text "tags", .map [(.text tag, .text text)])]]

theorem rebuild_written_iff_of_unmarkedModule :
    BlockDocument.read (some "blocks.yml") (singleTag "import" "x") = .ok (importBlocks, []) ∧
    ∃ evaluator imports full f o',
      evaluatorFor plainEnvironment {} plainConfig = .ok evaluator ∧
      compile importKinds none importBlocks = .ok imports ∧
      compile allKinds evaluator importBlocks = .ok full ∧
      (ofBlocks plainEnvironment {} plainConfig importBlocks []
        unmarkedModule).workspace.tree.open? plainConfig.manifestPath = .ok (some f) ∧
      (ofBlocks plainEnvironment {} plainConfig importBlocks []
        (ofBlocks plainEnvironment {} plainConfig importBlocks []
          unmarkedModule).workspace).outcome = .ok o' ∧
      (o'.written = false ↔
        (plainConfig.writer.owns f = true → Steady imports.lines full.lines)) ∧
      (o'.written = false →
        (ofBlocks plainEnvironment {} plainConfig importBlocks [] unmarkedModule).workspace.Logged
          (ofBlocks plainEnvironment {} plainConfig importBlocks []
            (ofBlocks plainEnvironment {} plainConfig importBlocks []
              unmarkedModule).workspace).workspace) := by
  have hread :
      BlockDocument.read (some "blocks.yml") (singleTag "import" "x") =
        .ok (importBlocks, []) := by
    rfl
  have hlogs : unmarkedModule.LogsApart plainConfig.manifestPath := by
    rintro j ⟨⟩
  exact ⟨hread, rebuild_written_iff hread rfl rfl (by decide) hlogs ofBlocks_unmarkedModule⟩

/-- A block whose fragment is to be evaluated. -/
def evaluatedBlocks : List Block :=
  [{ tags := [{ name := "evalNamespace", value := .code "fragment" }], file := some "blocks.yml" }]

/-- A request with an evaluator that always gives one text. -/
def evaluatingTo (text : String) : BuildRequest :=
  { evaluator := some { run := fun _ _ => .ok (.text text) } }

/-- A module without any files. -/
def emptyModule : Workspace :=
  { tree := {} }

/-- An import that comes from an evaluator is written by every build: the import pass removes it, and the
full pass adds it again. -/
theorem rebuild_writes_evaluated_import :
    BlockDocument.read (some "blocks.yml") (singleTag "evalNamespace" "fragment") =
      .ok (evaluatedBlocks, []) ∧
    ∃ o o',
      (ofBlocks plainEnvironment (evaluatingTo "import(x)") plainConfig evaluatedBlocks []
        emptyModule).outcome = .ok o ∧
      (ofBlocks plainEnvironment (evaluatingTo "import(x)") plainConfig evaluatedBlocks []
        (ofBlocks plainEnvironment (evaluatingTo "import(x)") plainConfig evaluatedBlocks []
          emptyModule).workspace).outcome = .ok o' ∧
      o'.written = true := by
  refine ⟨rfl, ?_⟩
  refine
    ⟨{ path := plainConfig.manifestPath
       lines := ["import(x)"]
       issues := []
       written := true },
     { path := plainConfig.manifestPath
       lines := ["import(x)"]
       issues := []
       written := true }, ?_, ?_, rfl⟩
  · decide +kernel
  · decide +kernel

end Build
end NamespaceManifest
