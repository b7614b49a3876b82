import NamespaceManifest.Proofs.Build.Foreign

/-!
# What a failed build leaves

A build can fail at many points, and the manifest that it leaves depends on the point only.

* While the settings and the blocks are loaded nothing is touched (`quiet_load`).
* A writer that refuses has not written before: under a name that is not valid no write comes through
  (`quiet_passes_of_invalid`), and a manifest that the import pass has written is the writer's, so that the
  full pass may replace it (`passes_failed`).
* Where no evaluator is found, or a fragment gives no lines, the import pass is over and the full pass
  has written nothing (`open?_of_unresolved`).

Beyond these there are only the faults of the file system.
-/

namespace NamespaceManifest

/-- The request for the imports alone. -/
def BuildRequest.importsAlone (request : BuildRequest) : BuildRequest :=
  { request with importsOnly := true }

namespace Build

open Directive Work

/-- The full pass has nothing to write: there is no evaluator, or a fragment gives no lines. -/
inductive Unresolved (env : Environment) (request : BuildRequest) (config : Config)
    (blocks : List Block) : Error → Prop
  | evaluator
      {e : Error}
      (hlookup : evaluatorFor env request config = .error e) :
      Unresolved env request config blocks e
  | fragment
      {evaluator : Option Evaluator} {fault : EvaluationError}
      (hlookup : evaluatorFor env request config = .ok evaluator)
      (hfails : FragmentFails evaluator blocks fault) :
      Unresolved env request config blocks (.evaluation fault)

/-- The writer refuses to write. -/
def Refuses (e : Error) : Prop :=
  (∃ p, e = .conflict p) ∨ ∃ name, e = .invalidName name

variable {env : Environment} {request : BuildRequest} {config : Config} {blocks : List Block}
variable {s u : Workspace} {e : Error}

theorem Unresolved.not_resolves
    (h : Unresolved env request config blocks e)
    {full : Pass} :
    ¬ Resolves env request config blocks full := by
  rintro ⟨evaluator, hevaluator, hcompile⟩
  cases h with
  | evaluator hlookup =>
      rw [hevaluator] at hlookup
      cases hlookup
  | fragment hlookup hfails =>
      obtain rfl := Except.ok.inj (hevaluator.symm.trans hlookup)
      exact hfails.compile_ne full hcompile

/-! ## Failures of the passes -/

/-- The import pass fails because of the name of the manifest or of the file system. -/
theorem of_importPass_error
    {w : Writer} {p : Path}
    (h : Ends (importPass w p blocks) s (.error e) u) :
    Writer.isValidName p.name = false ∧ e = .invalidName p.name
      ∨
    ∃ q fault, e = .fileSystem q fault := by
  have hwritten : ∀ {t : Workspace} {entries : List String},
      Ends (w.write p entries false) t (.error e) u →
      Writer.isValidName p.name = false ∧ e = .invalidName p.name
        ∨ ∃ q fault, e = .fileSystem q fault := by
    intro t entries hwrite
    rcases Writer.of_write_error hwrite with ⟨hv, he, -⟩ | ⟨⟨⟩, -⟩ | ⟨hfault, -⟩
    · exact Or.inl ⟨hv, he⟩
    · exact Or.inr hfault
  rcases h.of_bind_error with hrun | ⟨pass, v, hrun, h⟩
  · -- the import family can always be resolved
    obtain ⟨pass, hpass⟩ := exists_imports none blocks
    obtain ⟨v, hok, -⟩ := ends_runPass importKinds none blocks s
    rw [hpass] at hok
    cases (hok.unique hrun).1
  · rcases h.of_bind_error with hwrite | ⟨written, _, -, ⟨⟩, -⟩
    rcases hwrite.of_bind_error with hgen | ⟨owned, _, -, hwrite⟩
    · exact Or.inr (Writer.fault_of_look hgen)
    · cases owned with
      | true =>
          rcases hwrite.of_bind_error with hbody | ⟨body, _, -, hwrite⟩
          · exact Or.inr (Writer.fault_of_look hbody)
          · exact hwritten hwrite
      | false =>
          by_cases hnil : pass.lines.isEmpty = true
          · simp only [hnil, if_true] at hwrite
            rcases hwrite.of_bind_error with ⟨⟨⟩, -⟩ | ⟨_, _, -, ⟨⟩, -⟩
          · simp only [hnil] at hwrite
            exact hwritten hwrite

theorem logsApart_of_importPass
    {w : Writer} {p : Path} {imports : PassReport}
    (hw : w.Marked)
    (hlogs : s.LogsApart p)
    (h : Ends (importPass w p blocks) s (.ok imports) u) :
    u.LogsApart p := by
  obtain ⟨c, -, -, ⟨-, -, hlog⟩ | ⟨-, -, g, hg, -⟩⟩ := of_importPass hw hlogs h
  · exact hlog.logsApart hlogs
  · exact hg.apart

/-- What follows the import pass fails before its write, which then leaves log records only, or in it. -/
theorem of_finish_error
    {imports : PassReport}
    (h : Ends (finish env request config blocks imports) s (.error e) u) :
    Unresolved env request config blocks e ∧ s.Logged u
      ∨
    ∃ full v, s.Logged v ∧
      Ends (config.writer.write config.manifestPath full true) v (.error e) u := by
  cases honly : request.importsOnly with
  | true =>
      rw [finish_importsOnly honly] at h
      cases h.1
  | false =>
      simp only [finish, honly] at h
      rcases h.of_bind_error with hlookup | ⟨evaluator, _, hlookup, h⟩
      · obtain ⟨hevaluator, rfl⟩ := hlookup.of_ofExcept
        exact Or.inl ⟨.evaluator hevaluator, Workspace.Logged.refl s⟩
      · obtain ⟨hevaluator, rfl⟩ := hlookup.of_ofExcept
        rcases h.of_bind_error with hrun | ⟨full, v, hrun, h⟩
        · obtain ⟨v, hcompile, hlog⟩ := ends_runPass allKinds evaluator blocks s
          obtain ⟨hfailed, rfl⟩ := hcompile.unique hrun
          obtain ⟨fault, rfl, hfails⟩ := fragmentFails_of_compile hfailed
          exact Or.inl ⟨.fragment hevaluator hfails, hlog⟩
        · rcases h.of_bind_error with houtput | ⟨output, _, -, ⟨⟩, -⟩
          rcases houtput.of_bind_error with hwrite | ⟨written, _, -, ⟨⟩, -⟩
          exact Or.inr ⟨full.lines, v, (Ends.of_runPass hrun).2, hwrite⟩

/-- Under a name that is not valid the passes leave log records only. -/
theorem quiet_passes_of_invalid
    (hv : Writer.isValidName config.manifestPath.name = false) :
    Quiet (passes env request config blocks) := by
  refine keeps_passes lasting_logged fun entries check => ?_
  rw [Writer.write_invalid hv]
  exact quiet_fail _

/-- Why the passes of a build fail.  If the writer refuses, they leave log records only. -/
theorem passes_failed
    (hw : config.writer.Marked)
    (hlogs : s.LogsApart config.manifestPath)
    (h : Ends (passes env request config blocks) s (.error e) u) :
    Unresolved env request config blocks e
      ∨
    Refuses e ∧ s.Logged u
      ∨
    ∃ q fault, e = .fileSystem q fault := by
  have hinvalid : Writer.isValidName config.manifestPath.name = false →
      e = .invalidName config.manifestPath.name → Refuses e ∧ s.Logged u := by
    intro hv he
    exact ⟨Or.inr ⟨_, he⟩, (quiet_passes_of_invalid hv).logged h⟩
  rw [passes_eq] at h
  rcases h.of_bind_error with himport | ⟨imports, v, himport, hfinish⟩
  · rcases of_importPass_error himport with ⟨hv, he⟩ | hfault
    · exact Or.inr (Or.inl (hinvalid hv he))
    · exact Or.inr (Or.inr hfault)
  · rcases of_finish_error hfinish with ⟨hunresolved, -⟩ | ⟨full, v', hlog, hwrite⟩
    · exact Or.inl hunresolved
    · have hv' : v'.LogsApart config.manifestPath :=
        hlog.logsApart (logsApart_of_importPass hw hlogs himport)
      obtain ⟨c, -, -, hcases⟩ := of_importPass hw hlogs himport
      rcases Writer.of_write_error hwrite with ⟨hv, he, -⟩ | ⟨-, he, hlog', f, hf, hother⟩ |
        ⟨hfault, -⟩
      · exact Or.inr (Or.inl (hinvalid hv he))
      · rcases hcases with ⟨-, -, hkept⟩ | ⟨-, -, g, hg, hgowns⟩
        · exact Or.inr (Or.inl ⟨Or.inl ⟨_, he⟩, (hkept.trans hlog).trans hlog'⟩)
        · -- what the import pass has written is the writer's and is not refused
          obtain rfl := Option.some.inj ((hlog.holds hg).content_eq ⟨hf, hv'⟩)
          rw [hgowns] at hother
          cases hother
      · exact Or.inr (Or.inr hfault)

/-- Passes that cannot be resolved leave the manifest that the import pass alone leaves. -/
theorem open?_of_unresolved
    (hw : config.writer.Marked)
    (hlogs : s.LogsApart config.manifestPath)
    (h : Unresolved env request config blocks e) :
    (passes env request config blocks s).workspace.tree.open? config.manifestPath =
      (passes env request.importsAlone config blocks s).workspace.tree.open?
        config.manifestPath := by
  rw [passes_eq, passes_eq]
  cases himport : (importPass config.writer config.manifestPath blocks s).outcome with
  | error e' =>
      have hend : Ends (importPass config.writer config.manifestPath blocks) s (.error e') _ :=
        ⟨himport, rfl⟩
      rw [hend.bind_error.2, hend.bind_error.2]
  | ok imports =>
      obtain ⟨v, hend⟩ : ∃ v, Ends (importPass config.writer config.manifestPath blocks) s
          (.ok imports) v := ⟨_, himport, rfl⟩
      have honly : Ends (finish env request.importsAlone config blocks imports) v
          (.ok imports) v := ends_pure imports v
      rw [(hend.bind honly).2]
      cases hrequest : request.importsOnly with
      | true =>
          have hdone : Ends (finish env request config blocks imports) v (.ok imports) v := by
            rw [finish_importsOnly hrequest]
            exact ends_pure imports v
          rw [(hend.bind hdone).2]
      | false =>
          have hnone : ¬ ∃ full, Resolves env request config blocks full := by
            rintro ⟨full, hfull⟩
            exact h.not_resolves hfull
          obtain ⟨e', u, hfailed, hlog⟩ := finish_failed hrequest hnone imports v
          rw [(hend.bind hfailed).2]
          exact hlog.open?_eq (logsApart_of_importPass hw hlogs hend)

/-! ## Failures of a whole build -/

section Run

variable {issues : List Issue}

/-- Once everything is loaded, what a build leaves is what its passes leave. -/
theorem run_workspace
    {v : Workspace}
    (hdry : request.dryRun = false)
    (hload : Ends (load env request) s (.ok (config, blocks, issues)) v) :
    (run env request s).workspace = (passes env request config blocks v).workspace := by
  exact (ends_run hload (ends_ofBlocks issues hdry (ends_self _ v))).2

/-- A build that fails after loading fails in its passes. -/
theorem passes_of_run_error
    {v : Workspace}
    (hdry : request.dryRun = false)
    (hload : Ends (load env request) s (.ok (config, blocks, issues)) v)
    (hfail : (run env request s).outcome = .error e) :
    Ends (passes env request config blocks) v (.error e)
      (passes env request config blocks v).workspace := by
  have hend := (ends_run hload (ends_ofBlocks issues hdry (ends_self _ v))).1.symm.trans hfail
  refine ⟨?_, rfl⟩
  cases hpasses : (passes env request config blocks v).outcome with
  | ok report =>
      rw [hpasses] at hend
      cases hend
  | error e' =>
      rw [hpasses] at hend
      exact congrArg Except.error (Except.error.inj hend)

/-- What a build that failed has left.  If it could not load its settings or its blocks, all files are as
they were.  Otherwise the writer refused, and the manifest is as it was; or the full pass could not be
resolved, and the manifest is what a build of the imports alone would have left; or the file system had a
fault. -/
theorem manifest_of_failed_run
    (hdry : request.dryRun = false)
    (hfail : (run env request s).outcome = .error e) :
    ((load env request s).outcome = .error e →
      ∀ p, s.LogsApart p →
        (run env request s).workspace.tree.open? p = s.tree.open? p) ∧
    (∀ config blocks issues,
      (load env request s).outcome = .ok (config, blocks, issues) →
      Text.isSingleLine config.marker = true →
      s.LogsApart config.manifestPath →
      (Refuses e → evaluatorFor env request config ≠ .error e →
        (run env request s).workspace.tree.open? config.manifestPath =
          s.tree.open? config.manifestPath) ∧
      (Unresolved env request config blocks e →
        (run env request s).workspace.tree.open? config.manifestPath =
          (run env request.importsAlone s).workspace.tree.open?
            config.manifestPath) ∧
      (Refuses e ∨ Unresolved env request config blocks e ∨
        ∃ p fault, e = .fileSystem p fault)) := by
  constructor
  · intro hload p hlogs
    have hend : Ends (load env request) s (.error e) (load env request s).workspace :=
      ⟨hload, rfl⟩
    rw [run_eq, hend.bind_error.2]
    exact (quiet_load env request s).open?_eq hlogs
  · intro config blocks issues hload hmarker hlogs
    have hw := Writer.marked_ofMarker hmarker
    have hend : Ends (load env request) s (.ok (config, blocks, issues)) _ := ⟨hload, rfl⟩
    have hlogged := logged_of_load hend
    have hv := hlogged.logsApart hlogs
    have hcases := passes_failed hw hv (passes_of_run_error hdry hend hfail)
    refine ⟨?_, ?_, ?_⟩
    · intro hrefuses hfound
      rw [run_workspace hdry hend]
      rcases hcases with hunresolved | ⟨-, hkept⟩ | ⟨p, fault, rfl⟩
      · cases hunresolved with
        | evaluator hlookup =>
            exact absurd hlookup hfound
        | fragment hlookup hfails =>
            rcases hrefuses with ⟨p, ⟨⟩⟩ | ⟨name, ⟨⟩⟩
      · exact (hlogged.trans hkept).open?_eq hlogs
      · rcases hrefuses with ⟨p, ⟨⟩⟩ | ⟨name, ⟨⟩⟩
    · intro hunresolved
      have hdry' : request.importsAlone.dryRun = false := hdry
      have hend' : Ends (load env request.importsAlone) s
          (.ok (config, blocks, issues)) _ := hend
      rw [run_workspace hdry hend, run_workspace hdry' hend']
      exact open?_of_unresolved hw hv hunresolved
    · rcases hcases with hunresolved | ⟨hrefuses, -⟩ | hfault
      · exact Or.inr (Or.inl hunresolved)
      · exact Or.inl hrefuses
      · exact Or.inr (Or.inr hfault)

end Run

/-- A module with an unmarked manifest, a block that asks for an import, and a fragment that nothing can
evaluate. -/
def fragmentModule : Workspace :=
  { tree :=
      { files :=
          [(["NAMESPACE"], unmarkedFile),
            (["blocks.yml"],
              ⟨"- tags:\n    import: x\n    evalNamespace: fragment\n".toUTF8, 0o644⟩)] } }

/-- The blocks of this module. -/
def fragmentBlocks : List Block :=
  [{ tags :=
       [{ name := "import", value := .words ["x"] },
         { name := "evalNamespace", value := .code "fragment" }]
     file := some "blocks.yml" }]

theorem manifest_of_failed_run_fragmentModule :
    (run plainEnvironment {} fragmentModule).outcome =
      .error (.evaluation ⟨"blocks.yml", .noEnvironment⟩) ∧
    (load plainEnvironment {} fragmentModule).outcome = .ok (plainConfig, fragmentBlocks, []) ∧
    (run plainEnvironment {} fragmentModule).workspace.tree.open? plainConfig.manifestPath =
      (run plainEnvironment (BuildRequest.importsAlone {}) fragmentModule).workspace.tree.open?
        plainConfig.manifestPath := by
  have hfail :
      (run plainEnvironment {} fragmentModule).outcome =
        .error (.evaluation ⟨"blocks.yml", .noEnvironment⟩) := by
    decide +kernel
  have hload :
      (load plainEnvironment {} fragmentModule).outcome =
        .ok (plainConfig, fragmentBlocks, []) := by
    decide +kernel
  have hunresolved : Unresolved plainEnvironment {} plainConfig fragmentBlocks
      (.evaluation ⟨"blocks.yml", .noEnvironment⟩) := by
    have hlines : Evaluation.linesOf none { file := some "blocks.yml" } "fragment" =
        .error ⟨"blocks.yml", .noEnvironment⟩ := by
      decide +kernel
    refine .fragment rfl ⟨_, List.mem_singleton_self _, ⟨"evalNamespace", .code "fragment", none⟩, ?_⟩
    exact ⟨by simp, by decide, hlines⟩
  have hlogs : fragmentModule.LogsApart plainConfig.manifestPath := by
    rintro j ⟨⟩
  obtain ⟨-, hloaded⟩ := manifest_of_failed_run rfl hfail
  obtain ⟨-, hleft, -⟩ := hloaded plainConfig fragmentBlocks [] hload (by decide) hlogs
  exact ⟨hfail, hload, hleft hunresolved⟩

end Build
end NamespaceManifest
