import NamespaceManifest.Proofs.Build.Failure
import NamespaceManifest.Proofs.Build.Survival
import NamespaceManifest.Proofs.Diff

/-!
# What a dry run foresees

A dry run shows no difference exactly if the lines of the manifest are the entries of its pass
(`ends_dry`).  A build that is no dry run looks at something else: the full pass compares the lines that
its entries occupy, and the import pass those that a merge with the manifest gives.  So a dry run is right
about whether the manifest will change just when these come to the same (`Foreseen`,
`diff_foresees_iff`).

It is wrong about every manifest that is up to date and has an entry of several lines, and, if it is for
imports only, about every one that is up to date and has anything but imports
(`diff_of_unchanged_manifest`).
-/

namespace NamespaceManifest

open Directive Work

/-! ## Entries and lines -/

namespace Directive

open Text

section Entries

variable {entries body : List String}

/-- Unbroken entries in strict order are laid out as they are, unless the only one is empty. -/
theorem physicalLines_eq_self_of_pairwise
    (hsorted : entries.Pairwise (· < ·))
    (hunbroken : ∀ e ∈ entries, Unbroken e.toList)
    (hne : entries ≠ [""]) :
    physicalLines entries = entries := by
  have hends : ∀ e ∈ entries.getLast?, EndsInText e := by
    intro e he
    refine endsInText_of_unbroken (hunbroken e (List.mem_of_getLast? he)) ?_
    rintro rfl
    exact getLast?_ne_empty hsorted hne he
  rw [physicalLines_eq_flatMap_laidOut hends]
  exact flatMap_laidOut_eq_self hunbroken

/-- Comparing a body with entries comes to the same as comparing it with their lines, unless the body has
just these lines and an entry is broken, or the only entry is empty. -/
theorem eq_entries_iff_eq_lines
    (hsorted : entries.Pairwise (· < ·))
    (hbody : ∀ l ∈ body, Unbroken l.toList) :
    (body = entries ↔ body = physicalLines entries) ↔
      (body = physicalLines entries → ∀ e ∈ entries, Unbroken e.toList) ∧
      (entries = [""] → body ≠ [] ∧ body ≠ [""]) := by
  -- an empty entry occupies a line only if another one follows
  have hempty : physicalLines [""] = [] := by
    decide
  constructor
  · intro hsame
    refine ⟨?_, ?_⟩
    · intro hlines e he
      rw [← hsame.mpr hlines] at he
      exact hbody e he
    · rintro rfl
      rw [hempty] at hsame
      constructor
      · intro hnil
        rw [hnil] at hsame
        cases hsame.mpr rfl
      · intro hline
        rw [hline] at hsame
        cases hsame.mp rfl
  · rintro ⟨hsingle, hfilled⟩
    constructor
    · rintro rfl
      have hne : body ≠ [""] := fun heq => (hfilled heq).2 heq
      exact (physicalLines_eq_self_of_pairwise hsorted hbody hne).symm
    · intro hlines
      have hne : entries ≠ [""] := by
        intro heq
        rw [heq, hempty] at hlines
        exact (hfilled heq).1 hlines
      rw [hlines]
      exact physicalLines_eq_self_of_pairwise hsorted (hsingle hlines) hne

theorem physicalLines_ne_nil
    (hends : ∀ e ∈ entries, EndsInText e)
    (hne : entries ≠ []) :
    physicalLines entries ≠ [] := by
  obtain ⟨e, he⟩ := List.exists_mem_of_ne_nil entries hne
  rw [physicalLines_imports hends]
  intro hnil
  exact laidOut_ne_nil e (List.flatMap_eq_nil_iff.mp hnil e he)

end Entries

end Directive

/-! ## The import pass -/

section Imports

variable {w : Writer} {imports : List String} {c : Option File}

theorem imported_of_subset
    (hsorted : imports.Pairwise (· < ·))
    (hbody : w.bodyIn c ⊆ imports) :
    imported w imports c = imports := by
  unfold imported
  split
  · exact mergeImports_of_subset hsorted hbody
  · rfl

/-- A manifest with the imports and nothing else is current. -/
theorem current_of_bodyIn_eq
    (hsorted : imports.Pairwise (· < ·))
    (hends : ∀ e ∈ imports, Text.EndsInText e)
    (hbody : w.bodyIn c = imports) :
    Current w imports c := by
  have hunbroken : ∀ e ∈ imports, Text.Unbroken e.toList := by
    intro e he
    rw [← hbody] at he
    exact Writer.unbroken_of_mem_bodyIn he
  have hsubset : w.bodyIn c ⊆ imports := by
    rw [hbody]
    exact List.Subset.refl _
  rw [current_iff, imported_of_subset hsorted hsubset,
    (Text.physicalLines_eq_self_iff hends).mpr hunbroken]
  cases c with
  | none =>
      exact Or.inl ⟨rfl, hbody.symm⟩
  | some f =>
      exact Or.inr (congrArg some hbody)

/-- A current manifest has the imports and nothing else if they are on single lines and all its lines are
imports. -/
theorem bodyIn_eq_iff_of_current
    (hsorted : imports.Pairwise (· < ·))
    (hends : ∀ e ∈ imports, Text.EndsInText e)
    (hcurrent : Current w imports c) :
    w.bodyIn c = imports ↔
      (∀ e ∈ imports, Text.isSingleLine e = true) ∧ w.bodyIn c ⊆ imports := by
  simp only [Text.isSingleLine_iff]
  constructor
  · rintro rfl
    exact ⟨fun e he => Writer.unbroken_of_mem_bodyIn he, List.Subset.refl _⟩
  · rintro ⟨hunbroken, hbody⟩
    rcases current_iff.mp hcurrent with ⟨-, rfl⟩ | hlines
    · exact List.subset_nil.mp hbody
    · rw [imported_of_subset hsorted hbody,
        (Text.physicalLines_eq_self_iff hends).mpr hunbroken] at hlines
      rw [Writer.bodyIn, hlines, Option.getD_some]

/-- Imports that were written have changed the lines of the manifest, unless it was current. -/
theorem bodyIn_of_writeImports
    {s u : Workspace} {p : Path} {written : Bool}
    (hw : w.Marked)
    (h : s.Holds p c)
    (hends : ∀ e ∈ imports, Text.EndsInText e)
    (hend : Ends (writeImports w p imports) s (.ok written) u) :
    ∃ c', u.Holds p c' ∧ (w.bodyIn c = w.bodyIn c' ↔ Current w imports c) := by
  rcases write_of_writeImports h hend with ⟨hskipped, -, hlog⟩ | ⟨hsome, hwrite⟩
  · exact ⟨c, hlog.holds h, iff_of_true rfl (current_iff.mpr (Or.inl hskipped))⟩
  · obtain ⟨g, hg, hbody⟩ := Writer.body_of_write hw h hwrite
    refine ⟨some g, hg, ?_⟩
    rw [current_iff, or_iff_right hsome, Writer.bodyIn_some, hbody]
    cases c with
    | some f =>
        simp
    | none =>
        -- imports that are written where no file was have lines
        have hne : imports ≠ [] := by
          simpa using hsome
        refine iff_of_false ?_ (by simp)
        exact (physicalLines_ne_nil hends hne).symm

end Imports

/-- A request for a dry run. -/
def BuildRequest.dry (request : BuildRequest) : BuildRequest :=
  { request with dryRun := true }

namespace Build

variable {env : Environment} {request : BuildRequest} {config : Config} {blocks : List Block}
variable {issues : List Issue} {s u : Workspace} {o : BuildOutcome}

/-! ## Dry runs -/

section Dry

variable {pass : Pass} {c : Option File}

/-- The difference to a manifest is nothing exactly if its lines are the given ones. -/
theorem ends_diffText
    {w : Writer} {p : Path}
    (hopen : s.tree.open? p = .ok c)
    (lines : List String) :
    ∃ diff, Ends (diffText w p lines) s (.ok diff) s ∧ (diff = "" ↔ w.bodyIn c = lines) := by
  refine ⟨_, (ends_open? hopen).bind (ends_pure _ s), ?_⟩
  exact Diff.intercalate_unified_eq_empty_iff

theorem dryPass_importsOnly
    (honly : request.importsOnly = true)
    (hpass : compile importKinds none blocks = .ok pass)
    (s : Workspace) :
    ∃ u, Ends (dryPass env request config blocks) s (.ok pass) u ∧ s.Logged u := by
  obtain ⟨u, hrun, hlog⟩ := ends_runPass importKinds none blocks s
  rw [hpass] at hrun
  refine ⟨u, ?_, hlog⟩
  simpa [dryPass, honly] using hrun

theorem dryPass_full
    (honly : request.importsOnly = false)
    (hfull : Resolves env request config blocks pass)
    (s : Workspace) :
    ∃ u, Ends (dryPass env request config blocks) s (.ok pass) u ∧ s.Logged u := by
  obtain ⟨evaluator, hevaluator, hcompile⟩ := hfull
  obtain ⟨u, hrun, hlog⟩ := ends_runPass allKinds evaluator blocks s
  rw [hcompile] at hrun
  refine ⟨u, ?_, hlog⟩
  simp only [dryPass, honly]
  exact (ends_ofExcept hevaluator s).bind hrun

/-- Where the passes of a build succeed, the pass of a dry run has their result. -/
theorem dryPass_of_passes
    {report : PassReport}
    (h : Ends (passes env request config blocks) s (.ok report) u) :
    ∃ v, Ends (dryPass env request config blocks) s (.ok report.pass) v ∧ s.Logged v := by
  rw [passes_eq] at h
  obtain ⟨imports, _, himport, hfinish⟩ := h.of_bind
  cases honly : request.importsOnly with
  | true =>
      rw [finish_importsOnly honly] at hfinish
      obtain ⟨rfl, -⟩ := hfinish.of_pure
      obtain ⟨_, _, -, -, hpass, -⟩ := parts_of_importPass himport
      exact dryPass_importsOnly honly hpass s
  | false =>
      obtain ⟨full, _, _, hfull, -, -, rfl⟩ := of_finish honly hfinish
      exact dryPass_full honly hfull s

/-- A dry run has the lines and the issues of its pass, and the difference of the lines to the manifest. -/
theorem ends_ofBlocks_dry
    {v : Workspace}
    (issues : List Issue)
    (hpass : Ends (dryPass env request config blocks) s (.ok pass) v)
    (hopen : v.tree.open? config.manifestPath = .ok c) :
    ∃ diff,
      Ends (ofBlocks env request.dry config blocks issues) s
        (.ok
          { path := config.manifestPath
            lines := pass.lines
            issues := issues ++ pass.issues
            dryRun := true
            diff := diff }) v ∧
      (diff = "" ↔ config.writer.bodyIn c = pass.lines) := by
  obtain ⟨diff, hshown, hempty⟩ := ends_diffText (w := config.writer) hopen pass.lines
  exact ⟨diff, hpass.bind (hshown.bind (ends_pure _ v)), hempty⟩

/-- A dry run shows no difference exactly if the lines of the manifest are the entries of its pass. -/
theorem ends_dry
    (issues : List Issue)
    (h : s.Holds config.manifestPath c)
    (hpass : ∃ v, Ends (dryPass env request config blocks) s (.ok pass) v ∧ s.Logged v) :
    ∃ o' v, Ends (ofBlocks env request.dry config blocks issues) s (.ok o') v ∧
      o'.lines = pass.lines ∧ (o'.diff = "" ↔ config.writer.bodyIn c = pass.lines) := by
  obtain ⟨v, hrun, hlog⟩ := hpass
  obtain ⟨diff, hend, hempty⟩ := ends_ofBlocks_dry issues hrun (hlog.holds h).opened
  exact ⟨_, v, hend, rfl, hempty⟩

end Dry

/-! ## Builds that are no dry runs -/

theorem bodyIn_of_importsOnly
    {report : PassReport}
    (hw : config.writer.Marked)
    (honly : request.importsOnly = true)
    (hblocks : ∀ block ∈ blocks, block.Shaped)
    (hlogs : s.LogsApart config.manifestPath)
    (h : Ends (passes env request config blocks) s (.ok report) u) :
    ∃ c c', s.Holds config.manifestPath c ∧ u.Holds config.manifestPath c' ∧
      compile importKinds none blocks = .ok report.pass ∧
      (config.writer.bodyIn c = config.writer.bodyIn c' ↔
        Current config.writer report.pass.lines c) := by
  rw [passes_eq] at h
  obtain ⟨imports, v, himport, hfinish⟩ := h.of_bind
  rw [finish_importsOnly honly] at hfinish
  obtain ⟨rfl, rfl⟩ := hfinish.of_pure
  obtain ⟨c, v', hc, hlog, hpass, hwrite⟩ := writeImports_of_importPass hlogs himport
  obtain ⟨c', hc', hbody⟩ :=
    bodyIn_of_writeImports hw (hlog.holds hc) (endsInText_of_mem_imports hblocks hpass) hwrite
  exact ⟨c, c', hc, hc', hpass, hbody⟩

theorem bodyIn_of_full
    {report : PassReport}
    (hw : config.writer.Marked)
    (honly : request.importsOnly = false)
    (hlogs : s.LogsApart config.manifestPath)
    (h : Ends (passes env request config blocks) s (.ok report) u) :
    ∃ c c', s.Holds config.manifestPath c ∧ u.Holds config.manifestPath c' ∧
      Resolves env request config blocks report.pass ∧
      config.writer.bodyIn c' = Text.physicalLines report.pass.lines := by
  obtain ⟨imports, full, f, hbuilt⟩ := built_of_passes hw honly hlogs h
  rw [passes_eq] at h
  obtain ⟨_, v, himport, hfinish⟩ := h.of_bind
  obtain ⟨c, -, hc, -⟩ := writeImports_of_importPass hlogs himport
  obtain ⟨full', _, _, hfull, -, -, rfl⟩ := of_finish honly hfinish
  obtain rfl := hfull.unique hbuilt.resolves
  exact ⟨c, some f, hc, hbuilt.holds, hfull, hbuilt.body⟩

/-- A dry run is right about whether a manifest will change.  If it is for imports only, then a current
manifest has no import of several lines and no lines but imports.  Otherwise a manifest that is up to date
has no entry of several lines, and if the only entry is empty then the manifest is neither empty nor one
empty line. -/
structure Foreseen (w : Writer) (importsOnly : Bool) (entries : List String) (c : Option File) :
    Prop where
  alone : importsOnly = true → Current w entries c →
    (∀ e ∈ entries, Text.isSingleLine e = true) ∧ w.bodyIn c ⊆ entries
  single : importsOnly = false → w.bodyIn c = Text.physicalLines entries →
    ∀ e ∈ entries, Text.isSingleLine e = true
  filled : importsOnly = false → entries = [""] → w.bodyIn c ≠ [] ∧ w.bodyIn c ≠ [""]

theorem foreseen_imports
    {w : Writer} {entries : List String} {c : Option File} :
    Foreseen w true entries c ↔
      (Current w entries c →
        (∀ e ∈ entries, Text.isSingleLine e = true) ∧ w.bodyIn c ⊆ entries) := by
  constructor
  · intro h
    exact h.alone rfl
  · intro h
    exact ⟨fun _ => h, nofun, nofun⟩

theorem foreseen_full
    {w : Writer} {entries : List String} {c : Option File} :
    Foreseen w false entries c ↔
      (w.bodyIn c = Text.physicalLines entries → ∀ e ∈ entries, Text.Unbroken e.toList) ∧
      (entries = [""] → w.bodyIn c ≠ [] ∧ w.bodyIn c ≠ [""]) := by
  simp only [← Text.isSingleLine_iff]
  constructor
  · intro h
    exact ⟨h.single rfl, h.filled rfl⟩
  · rintro ⟨hsingle, hfilled⟩
    exact ⟨nofun, fun _ => hsingle, fun _ => hfilled⟩

/-- Passes that succeed can be run dry, and whether comparing entries is right about the change that they
make is whether it is foreseen. -/
theorem foreseen_of_passes
    {report : PassReport}
    (hw : config.writer.Marked)
    (hblocks : ∀ block ∈ blocks, block.Shaped)
    (hlogs : s.LogsApart config.manifestPath)
    (h : Ends (passes env request config blocks) s (.ok report) u) :
    ∃ c c', s.Holds config.manifestPath c ∧ u.Holds config.manifestPath c' ∧
      (∃ v, Ends (dryPass env request config blocks) s (.ok report.pass) v ∧ s.Logged v) ∧
      ((config.writer.bodyIn c = report.pass.lines ↔
          config.writer.bodyIn c = config.writer.bodyIn c') ↔
        Foreseen config.writer request.importsOnly report.pass.lines c) := by
  have hdry := dryPass_of_passes h
  cases honly : request.importsOnly with
  | true =>
      obtain ⟨c, c', hc, hc', hpass, hbody⟩ := bodyIn_of_importsOnly hw honly hblocks hlogs h
      refine ⟨c, c', hc, hc', hdry, ?_⟩
      have hsorted := pairwise_lines hpass
      have hends := endsInText_of_mem_imports hblocks hpass
      rw [hbody, foreseen_imports]
      constructor
      · intro hsame hcurrent
        exact (bodyIn_eq_iff_of_current hsorted hends hcurrent).mp (hsame.mpr hcurrent)
      · intro halone
        -- an empty diff is never wrong here, only a diff that shows something
        refine ⟨current_of_bodyIn_eq hsorted hends, ?_⟩
        intro hcurrent
        exact (bodyIn_eq_iff_of_current hsorted hends hcurrent).mpr (halone hcurrent)
  | false =>
      obtain ⟨c, c', hc, hc', hfull, hbody⟩ := bodyIn_of_full hw honly hlogs h
      refine ⟨c, c', hc, hc', hdry, ?_⟩
      obtain ⟨evaluator, -, hcompile⟩ := hfull
      rw [hbody, foreseen_full]
      exact eq_entries_iff_eq_lines (pairwise_lines hcompile)
        fun l hl => Writer.unbroken_of_mem_bodyIn hl

/-- If a build succeeds then so does its dry run, with the same entries.  Its diff is empty exactly if the
build leaves the lines of the manifest as they are, wherever this is foreseen and nowhere else. -/
theorem diff_foresees_iff
    (hload : (load env request s).outcome = .ok (config, blocks, issues))
    (hdry : request.dryRun = false)
    (hmarker : Text.isSingleLine config.marker = true)
    (hlogs : s.LogsApart config.manifestPath)
    (h : (run env request s).outcome = .ok o) :
    ∃ o' c c',
      (run env request.dry s).outcome = .ok o' ∧ o'.lines = o.lines ∧
      s.tree.open? config.manifestPath = .ok c ∧
      (run env request s).workspace.tree.open? config.manifestPath = .ok c' ∧
      ((o'.diff = "" ↔ config.writer.bodyIn c = config.writer.bodyIn c') ↔
        Foreseen config.writer request.importsOnly o.lines c) := by
  have hw := Writer.marked_ofMarker hmarker
  have hloaded : Ends (load env request) s (.ok (config, blocks, issues)) _ := ⟨hload, rfl⟩
  have hdryLoaded : Ends (load env request.dry) s (.ok (config, blocks, issues)) _ := hloaded
  have hlog := logged_of_load hloaded
  have hlogs' := hlog.logsApart hlogs
  have hrun : Ends (run env request) s (.ok o) _ := ⟨h, rfl⟩
  rw [run_eq] at hrun
  obtain ⟨found, v, hfound, hbuild⟩ := hrun.of_bind
  obtain ⟨hsame, rfl⟩ := hloaded.unique hfound
  obtain rfl := Except.ok.inj hsame
  obtain ⟨report, hpasses, rfl⟩ := of_ofBlocks hdry hbuild
  obtain ⟨c, c', hc, hc', hpass, hforeseen⟩ :=
    foreseen_of_passes hw (shaped_of_load hloaded) hlogs' hpasses
  obtain ⟨o', v', hend, hlines, hdiff⟩ := ends_dry issues hc hpass
  refine ⟨o', c, c', (ends_run hdryLoaded hend).1, hlines,
    (hlog.holds_of_holds hlogs hc).opened, ?_, ?_⟩
  · rw [run_eq]
    exact hc'.opened
  · rw [hdiff]
    exact hforeseen

theorem diff_foresees_iff_of_unmarkedModule :
    (load plainEnvironment {} unmarkedModule).outcome = .ok (plainConfig, importBlocks, []) ∧
    ∃ o' c c',
      (run plainEnvironment (BuildRequest.dry {}) unmarkedModule).outcome = .ok o' ∧
      o'.lines = ["import(x)"] ∧
      unmarkedModule.tree.open? plainConfig.manifestPath = .ok c ∧
      (run plainEnvironment {} unmarkedModule).workspace.tree.open? plainConfig.manifestPath =
        .ok c' ∧
      ((o'.diff = "" ↔ plainConfig.writer.bodyIn c = plainConfig.writer.bodyIn c') ↔
        Foreseen plainConfig.writer false ["import(x)"] c) := by
  have hload : Ends (load plainEnvironment {}) unmarkedModule
      (.ok (plainConfig, importBlocks, [])) _ := ⟨load_unmarkedModule, rfl⟩
  have hlogs : unmarkedModule.LogsApart plainConfig.manifestPath := by
    rintro j ⟨⟩
  -- loading leaves nothing but log records, and there is no journal for them
  rw [(logged_of_load hload).eq_of_journal_eq_none rfl] at hload
  have hrun := ends_run hload ⟨ofBlocks_unmarkedModule, rfl⟩
  exact ⟨hload.1, diff_foresees_iff hload.1 rfl (by decide) hlogs hrun.1⟩

/-- A module with a manifest of the usual writer. -/
def markedModule (manifest document : String) : Workspace :=
  { tree :=
      { files :=
          [(["NAMESPACE"], markedFile manifest), (["blocks.yml"], ⟨document.toUTF8, 0o644⟩)] } }

/-- A module whose manifest is up to date, with one entry of two lines. -/
def twoLineModule : Workspace :=
  markedModule "b\na\n" "- tags:\n    rawNamespace: \"b\\na\"\n"

/-- A module whose manifest is up to date, with an export and no imports. -/
def exportModule : Workspace :=
  markedModule "export(g)\n" "- tags:\n    export: g\n"

/-- Manifests that no build would change, and dry runs that show a difference. -/
theorem diff_of_unchanged_manifest :
    (∃ o o',
      (run plainEnvironment {} twoLineModule).outcome = .ok o ∧
      (run plainEnvironment {} twoLineModule).workspace.tree.open? plainConfig.manifestPath =
        twoLineModule.tree.open? plainConfig.manifestPath ∧
      (run plainEnvironment (BuildRequest.dry {}) twoLineModule).outcome = .ok o' ∧
      o'.diff ≠ "") ∧
    (∃ o o',
      (run plainEnvironment (BuildRequest.importsAlone {}) exportModule).outcome = .ok o ∧
      (run plainEnvironment (BuildRequest.importsAlone {}) exportModule).workspace.tree.open?
          plainConfig.manifestPath =
        exportModule.tree.open? plainConfig.manifestPath ∧
      (run plainEnvironment (BuildRequest.importsAlone {}).dry exportModule).outcome = .ok o' ∧
      o'.diff ≠ "") := by
  constructor
  · have hbuild :
        (run plainEnvironment {} twoLineModule).outcome =
          .ok
            { path := plainConfig.manifestPath
              lines := ["b\na"]
              issues := [] } ∧
        (run plainEnvironment {} twoLineModule).workspace.tree.open? plainConfig.manifestPath =
          twoLineModule.tree.open? plainConfig.manifestPath := by
      decide +kernel
    have hdry :
        (run plainEnvironment (BuildRequest.dry {}) twoLineModule).outcome =
          .ok
            { path := plainConfig.manifestPath
              lines := ["b\na"]
              issues := []
              dryRun := true
              diff :=
                "--- NAMESPACE (current)\n+++ NAMESPACE (generated)\n@@ -1,2 +1 @@\n-b\n-a\n+b\na" } := by
      decide +kernel
    exact ⟨_, _, hbuild.1, hbuild.2, hdry, by decide⟩
  · have hbuild :
        (run plainEnvironment (BuildRequest.importsAlone {}) exportModule).outcome =
          .ok
            { path := plainConfig.manifestPath
              lines := []
              issues := [] } ∧
        (run plainEnvironment (BuildRequest.importsAlone {}) exportModule).workspace.tree.open?
            plainConfig.manifestPath =
          exportModule.tree.open? plainConfig.manifestPath := by
      decide +kernel
    have hdry :
        (run plainEnvironment (BuildRequest.importsAlone {}).dry exportModule).outcome =
          .ok
            { path := plainConfig.manifestPath
              lines := []
              issues := []
              dryRun := true
              diff :=
                "--- NAMESPACE (current)\n+++ NAMESPACE (generated)\n@@ -1 +0,0 @@\n-export(g)" } := by
      decide +kernel
    exact ⟨_, _, hbuild.1, hbuild.2, hdry, by decide⟩

end Build
end NamespaceManifest
