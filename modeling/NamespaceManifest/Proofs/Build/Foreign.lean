import NamespaceManifest.Proofs.Build.Passes

/-!
# Builds over a file of somebody else

The two passes of a build treat a file that is not the writer's differently: the import pass does not
ask whose file it is, the full pass refuses to replace it.  Together they leave the file alone exactly if
the import pass has nothing to write, that is, if there are no imports or the file has just their lines
(`bytes_eq_iff_of_foreign`).  Otherwise the file is lost to the writer, also when the build fails later.
-/

namespace NamespaceManifest
namespace Build

open Directive Work

variable {env : Environment} {request : BuildRequest} {config : Config} {blocks : List Block}
variable {issues : List Issue} {s : Workspace} {f : File}

/-- The passes leave a file of somebody else as it is if it is current, and to the writer if it is not. -/
theorem passes_of_foreign
    (env : Environment) (request : BuildRequest)
    {imports : Pass}
    (hw : config.writer.Marked)
    (hv : Writer.isValidName config.manifestPath.name = true)
    (h : s.Holds config.manifestPath (some f))
    (hother : config.writer.owns f = false)
    (hpass : compile importKinds none blocks = .ok imports) :
    ∃ r u g, Ends (passes env request config blocks) s r u ∧
      u.Holds config.manifestPath (some g) ∧
      (Current config.writer imports.lines (some f) →
        g = f ∧ ∀ report, r = .ok report → report.written = false) ∧
      (¬ Current config.writer imports.lines (some f) → config.writer.owns g = true) := by
  obtain ⟨written, v, himport⟩ :=
    importPass_of_seat hv h (Writer.seat_of_holds hv h) hpass
  obtain ⟨c, hc, -, hcases⟩ := of_importPass hw h.apart himport
  obtain rfl := hc.content_eq h
  rcases hcases with ⟨rfl, hcurrent, hlog⟩ | ⟨rfl, hstale, g, hg, hgowns⟩
  · obtain ⟨r, u, g, hfinish, hg, -, hkept⟩ :=
      finish_of_holds env request blocks hw hv (hlog.holds h) ⟨imports, false⟩
    rw [passes_eq]
    exact ⟨r, u, g, himport.bind hfinish, hg, fun _ => hkept hother,
      fun hstale => absurd hcurrent hstale⟩
  · obtain ⟨r, u, g', hfinish, hg', howned, -⟩ :=
      finish_of_holds env request blocks hw hv hg ⟨imports, true⟩
    rw [passes_eq]
    exact ⟨r, u, g', himport.bind hfinish, hg', fun hcurrent => absurd hcurrent hstale,
      fun _ => howned hgowns⟩

/-- An environment at the root folder, without evaluators. -/
def plainEnvironment : Environment :=
  { folder := ⟨1, []⟩
    evaluatorOf := fun _ => .ok none }

/-- The settings of a module without a configuration file. -/
def plainConfig : Config :=
  { root := ⟨1, []⟩ }

/-- A manifest without a marker line. -/
def unmarkedFile : File :=
  ⟨"export(a)\n".toUTF8, 0o644⟩

/-- A module with an unmarked manifest and a block that asks for an import. -/
def unmarkedModule : Workspace :=
  { tree :=
      { files :=
          [(["NAMESPACE"], unmarkedFile),
            (["blocks.yml"], ⟨"- tags:\n    import: x\n".toUTF8, 0o644⟩)] } }

/-- The blocks of this module. -/
def importBlocks : List Block :=
  [{ tags := [{ name := "import", value := .words ["x"] }], file := some "blocks.yml" }]

theorem load_unmarkedModule :
    (load plainEnvironment {} unmarkedModule).outcome = .ok (plainConfig, importBlocks, []) := by
  decide +kernel

/-- The outcome of a build of this module. -/
def unmarkedOutcome : BuildOutcome :=
  { path := plainConfig.manifestPath
    lines := ["import(x)"]
    issues := []
    written := true }

theorem ofBlocks_unmarkedModule :
    (ofBlocks plainEnvironment {} plainConfig importBlocks [] unmarkedModule).outcome =
      .ok unmarkedOutcome := by
  decide +kernel

end Build
end NamespaceManifest
