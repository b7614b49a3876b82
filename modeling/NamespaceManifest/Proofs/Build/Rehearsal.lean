import NamespaceManifest.Proofs.Build.DryRun

/-!
# Dry runs as rehearsals

A dry run takes another way than the build that it stands for: it runs one pass where the build runs two,
and it looks at the manifest where the build writes it.

* It leaves log records and nothing else, however it ends (`quiet_run_dry`).
* It comes to the result of the build: a build reports the last of its passes, and this is the pass that the
  dry run makes (`dryPass_of_passes`).  A build that succeeded has looked at the manifest, and whether
  this is possible does not change with the log.

Together, a dry run is as good as the build, less the changes (`dry_run_agrees`).
-/

namespace NamespaceManifest
namespace Build

open Directive Work

variable {env : Environment} {request : BuildRequest} {config : Config} {blocks : List Block}
variable {s u : Workspace}

/-! ## What a dry run leaves -/

theorem quiet_dryPass
    (env : Environment) (request : BuildRequest) (config : Config) (blocks : List Block) :
    Quiet (dryPass env request config blocks) := by
  unfold dryPass
  split
  · exact quiet_runPass importKinds none blocks
  · exact (quiet_ofExcept _).bind fun evaluator => quiet_runPass allKinds evaluator blocks

theorem quiet_diffText
    (w : Writer) (p : Path) (lines : List String) :
    Quiet (diffText w p lines) := by
  exact (quiet_open? p).bind fun _ => quiet_pure _

/-- A dry run leaves log records only. -/
theorem quiet_run_dry
    (env : Environment) (request : BuildRequest) :
    Quiet (run env request.dry) := by
  rw [run_eq]
  refine (quiet_load env request.dry).bind fun (config, blocks, issues) => ?_
  refine (quiet_dryPass env request.dry config blocks).bind fun pass => ?_
  exact (quiet_diffText _ _ _).bind fun diff => quiet_pure _

/-! ## What a dry run yields -/

/-- The outcome of a build as its dry run has it. -/
def rehearsed (o : BuildOutcome) (diff : String) : BuildOutcome :=
  { o with written := false, dryRun := true, diff := diff }

theorem ofBlocks_dry_of_passes
    {report : PassReport}
    (issues : List Issue)
    (h : Ends (passes env request config blocks) s (.ok report) u) :
    ∃ diff v, Ends (ofBlocks env request.dry config blocks issues) s
      (.ok (rehearsed (outcomeOf config issues report) diff)) v := by
  obtain ⟨v, hpass, hlog⟩ := dryPass_of_passes h
  rw [passes_eq] at h
  obtain ⟨_, _, himport, -⟩ := h.of_bind
  -- the build looked at the manifest after other log records than the dry run
  obtain ⟨c, t, hlog', hopen, -⟩ := parts_of_importPass himport
  obtain ⟨c', hopen'⟩ := hlog.exists_open?_iff.mpr (hlog'.exists_open?_iff.mp ⟨c, hopen⟩)
  obtain ⟨diff, hend, -⟩ := ends_ofBlocks_dry issues hpass hopen'
  exact ⟨diff, v, hend⟩

/-- A dry run changes no file and no folder, whether it succeeds or fails; its log records go to the log
file, if there is one.  Whenever the build succeeds, the dry run succeeds as well, with the same path,
the same lines, and the same issues in the same order. -/
theorem dry_run_agrees
    (env : Environment) (request : BuildRequest) (s : Workspace) :
    let dry := run env request.dry s
    (∀ p, s.LogsApart p → dry.workspace.tree.open? p = s.tree.open? p) ∧
    (∀ key, dry.workspace.tree.isFolder key = s.tree.isFolder key) ∧
    (s.journal = none → dry.workspace = s) ∧
    ∀ o, request.dryRun = false → (run env request s).outcome = .ok o →
      ∃ diff, dry.outcome = .ok (rehearsed o diff) := by
  intro dry
  have hlog : s.Logged dry.workspace := quiet_run_dry env request s
  refine ⟨?_, hlog.isFolder_eq, hlog.eq_of_journal_eq_none, ?_⟩
  · intro p hlogs
    exact hlog.open?_eq hlogs
  · intro o hdry h
    have hrun : Ends (run env request) s (.ok o) _ := ⟨h, rfl⟩
    rw [run_eq] at hrun
    obtain ⟨⟨config, blocks, issues⟩, v, hload, hbuild⟩ := hrun.of_bind
    obtain ⟨report, hpasses, rfl⟩ := of_ofBlocks hdry hbuild
    obtain ⟨diff, v', hend⟩ := ofBlocks_dry_of_passes issues hpasses
    have hloaded : Ends (load env request.dry) s (.ok (config, blocks, issues)) v := hload
    exact ⟨diff, (ends_run hloaded hend).1⟩

/-- A module with a stale manifest, whose block has a tag that is left out, a bare export of nothing, and a
fragment. -/
def staleModule : Workspace :=
  markedModule "import(y)\n"
    "- tags:\n    import: x\n    importFrom: a\n    export: ''\n    evalNamespace: fragment\n"

/-- The outcome of a build of this module. -/
def staleOutcome : BuildOutcome :=
  { path := plainConfig.manifestPath
    lines := ["import(x)"]
    issues :=
      [{ location := "blocks.yml"
         tag := "importFrom"
         complaint := .shape (.tooFew "importFrom" (.words 2 none) 1) },
       { location := "blocks.yml", tag := "export", complaint := .nothingToExport }]
    written := true }

theorem dry_run_agrees_staleModule :
    let request := evaluatingTo "import(x)"
    let dry := run plainEnvironment request.dry staleModule
    (run plainEnvironment request staleModule).outcome = .ok staleOutcome ∧
    dry.workspace = staleModule ∧
    ∃ diff, dry.outcome = .ok (rehearsed staleOutcome diff) := by
  intro request dry
  have h : (run plainEnvironment request staleModule).outcome = .ok staleOutcome := by
    decide +kernel
  obtain ⟨-, -, hkept, hresult⟩ := dry_run_agrees plainEnvironment request staleModule
  exact ⟨h, hkept rfl, hresult staleOutcome rfl h⟩

end Build
end NamespaceManifest
