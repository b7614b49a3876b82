import NamespaceManifest.Proofs.Build.Foreign

/-!
# What a build leaves does not depend on what it finds

A full build that succeeds leaves a manifest with the lines of the full pass, whatever the manifest was
before: the writer's, somebody else's or none (`bodyAfter_eq`).  So two histories that both lead to a
successful build lead to the same lines, and it makes no difference to remove the manifest first.
-/

namespace NamespaceManifest
namespace Build

open Directive Work

variable {env : Environment} {request : BuildRequest} {config : Config} {blocks : List Block}
variable {issues : List Issue} {s : Workspace} {o : BuildOutcome}

/-- The lines of the manifest after a build. -/
def bodyAfter (env : Environment) (request : BuildRequest) (config : Config) (blocks : List Block)
    (issues : List Issue) (s : Workspace) : Except Error (Option (List String)) :=
  (config.writer.body? config.manifestPath
    (ofBlocks env request config blocks issues s).workspace).outcome

/-- A full build that succeeds leaves the lines of the full pass. -/
theorem bodyAfter_eq
    {full : Pass}
    (hdry : request.dryRun = false)
    (honly : request.importsOnly = false)
    (hmarker : Text.isSingleLine config.marker = true)
    (hfull : Resolves env request config blocks full)
    (hlogs : s.LogsApart config.manifestPath)
    (h : (ofBlocks env request config blocks issues s).outcome = .ok o) :
    bodyAfter env request config blocks issues s =
      .ok (some (Text.physicalLines full.lines)) := by
  have hend : Ends (ofBlocks env request config blocks issues) s (.ok o) _ := ⟨h, rfl⟩
  obtain ⟨imports, full', f, hbuilt⟩ :=
    built_of_ofBlocks (Writer.marked_ofMarker hmarker) hdry honly hlogs hend
  obtain rfl := hfull.unique hbuilt.resolves
  rw [bodyAfter, (Writer.ends_body? hbuilt.holds).1, Option.map_some, hbuilt.body]

/-- A build that succeeds still does so after its manifest is removed. -/
theorem ofBlocks_of_eraseFile
    {f : File}
    (hdry : request.dryRun = false)
    (honly : request.importsOnly = false)
    (hmarker : Text.isSingleLine config.marker = true)
    (hlogs : s.LogsApart config.manifestPath)
    (h : (ofBlocks env request config blocks issues s).outcome = .ok o)
    (hfile : s.tree.open? config.manifestPath = .ok (some f)) :
    (eraseFile config.manifestPath s).workspace.LogsApart config.manifestPath ∧
      ∃ o', (ofBlocks env request config blocks issues
        (eraseFile config.manifestPath s).workspace).outcome = .ok o' := by
  have hw := Writer.marked_ofMarker hmarker
  have hend : Ends (ofBlocks env request config blocks issues) s (.ok o) _ := ⟨h, rfl⟩
  obtain ⟨imports, full, g, hbuilt⟩ := built_of_ofBlocks hw hdry honly hlogs hend
  have hseat : s.tree.Seat config.manifestPath :=
    Writer.seat_of_holds hbuilt.valid ⟨hfile, hlogs⟩
  have happart : (eraseFile config.manifestPath s).workspace.LogsApart config.manifestPath :=
    hlogs.release config.manifestPath
  have hnone : (eraseFile config.manifestPath s).workspace.Holds config.manifestPath none :=
    ⟨hseat.open?_erase_self, happart⟩
  obtain ⟨report, u, hpasses⟩ :=
    passes_of_seat hw honly hbuilt.valid hnone (hseat.erase _) hbuilt.resolves (by simp)
  exact ⟨happart, _, (ends_ofBlocks issues hdry hpasses).1⟩

/-- Whatever manifest a full build finds, if it succeeds then the manifest has the lines of the full pass
afterwards.  So the lines are the same after any two such builds, and the same as if the manifest had
been removed before. -/
theorem bodyAfter_independent_of_history
    (hdry : request.dryRun = false)
    (honly : request.importsOnly = false)
    (hmarker : Text.isSingleLine config.marker = true)
    (hlogs : s.LogsApart config.manifestPath)
    (h : (ofBlocks env request config blocks issues s).outcome = .ok o) :
    ∃ evaluator full,
      evaluatorFor env request config = .ok evaluator ∧
      compile allKinds evaluator blocks = .ok full ∧
      bodyAfter env request config blocks issues s =
        .ok (some (Text.physicalLines full.lines)) ∧
      (∀ s' o', s'.LogsApart config.manifestPath →
        (ofBlocks env request config blocks issues s').outcome = .ok o' →
        bodyAfter env request config blocks issues s' =
          bodyAfter env request config blocks issues s) ∧
      (∀ f, s.tree.open? config.manifestPath = .ok (some f) →
        (∃ o', (ofBlocks env request config blocks issues
          (eraseFile config.manifestPath s).workspace).outcome = .ok o') ∧
        bodyAfter env request config blocks issues (eraseFile config.manifestPath s).workspace =
          bodyAfter env request config blocks issues s) := by
  have hend : Ends (ofBlocks env request config blocks issues) s (.ok o) _ := ⟨h, rfl⟩
  obtain ⟨imports, full, g, hbuilt⟩ :=
    built_of_ofBlocks (Writer.marked_ofMarker hmarker) hdry honly hlogs hend
  have hbody := bodyAfter_eq hdry honly hmarker hbuilt.resolves hlogs h
  obtain ⟨evaluator, hevaluator, hcompile⟩ := hbuilt.resolves
  refine ⟨evaluator, full, hevaluator, hcompile, hbody, ?_, ?_⟩
  · intro s' o' hlogs' h'
    rw [hbody]
    exact bodyAfter_eq hdry honly hmarker hbuilt.resolves hlogs' h'
  · intro f hfile
    obtain ⟨hlogs', o', h'⟩ := ofBlocks_of_eraseFile hdry honly hmarker hlogs h hfile
    refine ⟨⟨o', h'⟩, ?_⟩
    rw [hbody]
    exact bodyAfter_eq hdry honly hmarker hbuilt.resolves hlogs' h'

theorem bodyAfter_of_unmarkedModule :
    (ofBlocks plainEnvironment {} plainConfig importBlocks [] unmarkedModule).outcome =
      .ok
        { path := plainConfig.manifestPath
          lines := ["import(x)"]
          issues := []
          written := true } ∧
    ∃ evaluator full,
      evaluatorFor plainEnvironment {} plainConfig = .ok evaluator ∧
      compile allKinds evaluator importBlocks = .ok full ∧
      bodyAfter plainEnvironment {} plainConfig importBlocks [] unmarkedModule =
        .ok (some (Text.physicalLines full.lines)) ∧
      (∀ s' o', s'.LogsApart plainConfig.manifestPath →
        (ofBlocks plainEnvironment {} plainConfig importBlocks [] s').outcome = .ok o' →
        bodyAfter plainEnvironment {} plainConfig importBlocks [] s' =
          bodyAfter plainEnvironment {} plainConfig importBlocks [] unmarkedModule) ∧
      (∀ f, unmarkedModule.tree.open? plainConfig.manifestPath = .ok (some f) →
        (∃ o', (ofBlocks plainEnvironment {} plainConfig importBlocks []
          (eraseFile plainConfig.manifestPath unmarkedModule).workspace).outcome = .ok o') ∧
        bodyAfter plainEnvironment {} plainConfig importBlocks []
            (eraseFile plainConfig.manifestPath unmarkedModule).workspace =
          bodyAfter plainEnvironment {} plainConfig importBlocks [] unmarkedModule) := by
  have hlogs : unmarkedModule.LogsApart plainConfig.manifestPath := by
    rintro j ⟨⟩
  exact ⟨ofBlocks_unmarkedModule,
    bodyAfter_independent_of_history rfl rfl (by decide) hlogs ofBlocks_unmarkedModule⟩

end Build
end NamespaceManifest
