import NamespaceManifest.Build
import NamespaceManifest.Proofs.Directive.Merge
import NamespaceManifest.Proofs.Manifest.Writing

/-!
# The passes of a build

A build is an import pass and what follows it (`Build.finish`).  Apart from their writes the passes
leave log records only.

Over an existing file the import pass always succeeds.  It leaves a file that is `Current` as it is, and
puts a file of the writer in the place of any other (`importPass_of_seat`).  The full pass may fail, and
then it leaves the file that it found.
-/

namespace NamespaceManifest

open Directive Work

/-! ## Single passes -/

/-- A pass ends as its blocks are resolved, and leaves log records only. -/
theorem ends_runPass
    (kinds : KindSet)
    (evaluator : Option Evaluator)
    (blocks : List Block)
    (s : Workspace) :
    ∃ u, Ends (runPass kinds evaluator blocks) s (compile kinds evaluator blocks) u ∧
      s.Logged u := by
  obtain ⟨u₁, hrecords, hlog₁⟩ := ends_records (evaluationRecords kinds evaluator blocks) s
  cases hfound : collect allKinds kinds evaluator blocks with
  | error e =>
      have hcompile : compile kinds evaluator blocks = .error e := by
        rw [compile, compileWith, hfound]
        rfl
      rw [hcompile]
      have hcollect := ends_ofExcept hfound u₁
      exact ⟨u₁, hrecords.bind hcollect.bind_error, hlog₁⟩
  | ok found =>
      rw [compile_of_collect hfound]
      obtain ⟨u₂, hissues, hlog₂⟩ :=
        ends_records (found.issues.map (LogRecord.ofIssue .compiler)) u₁
      obtain ⟨u₃, hnote, hlog₃⟩ :=
        ends_note .debug .compiler
          ("Resolved " ++ toString found.lines.length ++ " directive(s) into "
            ++ toString (finalize found.lines).length ++ " line(s) from "
            ++ toString blocks.length ++ " block(s)") u₂
      refine ⟨u₃, ?_, (hlog₁.trans hlog₂).trans hlog₃⟩
      exact hrecords.bind ((ends_ofExcept hfound u₁).bind
        (hissues.bind (hnote.bind (ends_pure _ u₃))))

theorem quiet_runPass
    (kinds : KindSet)
    (evaluator : Option Evaluator)
    (blocks : List Block) :
    Quiet (runPass kinds evaluator blocks) := by
  intro s
  obtain ⟨u, hrun, hlog⟩ := ends_runPass kinds evaluator blocks s
  rw [hrun.2]
  exact hlog

/-- A pass that succeeded has resolved its blocks. -/
theorem Work.Ends.of_runPass
    {kinds : KindSet} {evaluator : Option Evaluator} {blocks : List Block} {pass : Pass}
    {s u : Workspace}
    (h : Ends (runPass kinds evaluator blocks) s (.ok pass) u) :
    compile kinds evaluator blocks = .ok pass ∧ s.Logged u := by
  obtain ⟨v, hrun, hlog⟩ := ends_runPass kinds evaluator blocks s
  obtain ⟨hpass, rfl⟩ := hrun.unique h
  exact ⟨hpass, hlog⟩

/-! ## Writing imports -/

section Imports

variable {w : Writer} {s u : Workspace} {p : Path} {imports : List String}

/-- Over a file of the writer imports are merged. -/
theorem writeImports_owned
    {f : File} {r : Except Error Bool}
    (h : s.Holds p (some f))
    (howns : w.owns f = true)
    (hwrite : Ends (w.write p (mergeImports imports (w.bodyOf f)) false) s r u) :
    Ends (writeImports w p imports) s r u := by
  refine (Writer.ends_isGenerated h).bind ?_
  rw [Option.any_some, howns]
  exact (Writer.ends_body? h).bind hwrite

/-- Otherwise imports are written as they are, if there are any. -/
theorem writeImports_fresh
    {c : Option File} {r : Except Error Bool}
    (h : s.Holds p c)
    (howns : c.any w.owns = false)
    (hne : imports ≠ [])
    (hwrite : Ends (w.write p imports false) s r u) :
    Ends (writeImports w p imports) s r u := by
  refine (Writer.ends_isGenerated h).bind ?_
  rw [howns]
  simpa [hne] using hwrite

theorem writeImports_nil
    {c : Option File}
    (h : s.Holds p c)
    (howns : c.any w.owns = false) :
    ∃ u, Ends (writeImports w p []) s (.ok false) u ∧ s.Logged u := by
  obtain ⟨u, hnote, hlog⟩ :=
    ends_note .debug .compiler
      ("Pre-pass produced no imports; leaving " ++ p.display ++ " alone") s
  refine ⟨u, ?_, hlog⟩
  refine (Writer.ends_isGenerated h).bind ?_
  rw [howns]
  exact hnote.bind (ends_pure false u)

/-- The import pass has nothing to write over what is at a path: the merge gives the lines that are
there, or, if the file is not the writer's, there are no imports or just those lines. -/
structure Current (w : Writer) (imports : List String) (c : Option File) : Prop where
  owned : ∀ f ∈ c, w.owns f = true →
    w.bodyOf f = Text.physicalLines (mergeImports imports (w.bodyOf f))
  other : c.any w.owns = false →
    imports = [] ∨ c.map w.bodyOf = some (Text.physicalLines imports)

theorem current_of_owned
    {f : File}
    (howns : w.owns f = true) :
    Current w imports (some f) ↔
      w.bodyOf f = Text.physicalLines (mergeImports imports (w.bodyOf f)) := by
  constructor
  · intro h
    exact h.owned f rfl howns
  · intro hbody
    refine ⟨?_, ?_⟩
    · rintro g ⟨⟩ -
      exact hbody
    · intro hother
      rw [Option.any_some, howns] at hother
      cases hother

theorem current_of_other
    {c : Option File}
    (hother : c.any w.owns = false) :
    Current w imports c ↔ imports = [] ∨ c.map w.bodyOf = some (Text.physicalLines imports) := by
  constructor
  · intro h
    exact h.other hother
  · intro hcases
    refine ⟨?_, fun _ => hcases⟩
    intro f hf howns
    rw [Option.mem_def.mp hf, Option.any_some, howns] at hother
    cases hother

/-- The entries that the import pass has for what is at a path: over a file of the writer the imports are
merged with its lines. -/
def imported (w : Writer) (imports : List String) (c : Option File) : List String :=
  if c.any w.owns then mergeImports imports (w.bodyIn c) else imports

theorem current_iff
    {c : Option File} :
    Current w imports c ↔
      (c.any w.owns = false ∧ imports = [])
        ∨ c.map w.bodyOf = some (Text.physicalLines (imported w imports c)) := by
  cases howns : c.any w.owns with
  | true =>
      obtain ⟨f, rfl, hf⟩ := (Option.any_eq_true _ _).mp howns
      rw [current_of_owned hf]
      simp [imported, hf]
  | false =>
      rw [current_of_other howns]
      simp [imported, howns]

/-- At a seat imports can be written. -/
theorem writeImports_of_seat
    {c : Option File}
    (imports : List String)
    (hv : Writer.isValidName p.name = true)
    (h : s.Holds p c)
    (hseat : s.tree.Seat p) :
    ∃ written u, Ends (writeImports w p imports) s (.ok written) u := by
  have hcheck : ∀ entries, false = true → ∀ f ∈ c,
      w.owns f = true ∨ w.bodyOf f = Text.physicalLines entries := by
    intro entries hfalse
    cases hfalse
  cases howns : c.any w.owns with
  | true =>
      obtain ⟨f, rfl, howns⟩ := (Option.any_eq_true _ _).mp howns
      obtain ⟨written, u, hwrite⟩ :=
        Writer.write_of_seat hv h hseat (hcheck (mergeImports imports (w.bodyOf f)))
      exact ⟨written, u, writeImports_owned h howns hwrite⟩
  | false =>
      by_cases hnil : imports = []
      · subst hnil
        obtain ⟨u, hskip, -⟩ := writeImports_nil h howns
        exact ⟨false, u, hskip⟩
      · obtain ⟨written, u, hwrite⟩ := Writer.write_of_seat hv h hseat (hcheck imports)
        exact ⟨written, u, writeImports_fresh h howns hnil hwrite⟩

/-- Imports are written, unless there are none and the file is not the writer's. -/
theorem write_of_writeImports
    {c : Option File} {written : Bool}
    (h : s.Holds p c)
    (hend : Ends (writeImports w p imports) s (.ok written) u) :
    (c.any w.owns = false ∧ imports = []) ∧ written = false ∧ s.Logged u
      ∨
    ¬ (c.any w.owns = false ∧ imports = []) ∧
      Ends (w.write p (imported w imports c) false) s (.ok written) u := by
  obtain ⟨owned, _, hgen, hend⟩ := hend.of_bind
  obtain ⟨hany, rfl⟩ := (Writer.ends_isGenerated h).unique hgen
  obtain rfl := Except.ok.inj hany
  cases howns : c.any w.owns with
  | true =>
      rw [howns] at hend
      obtain ⟨body, _, hbody?, hwrite⟩ := hend.of_bind
      obtain ⟨hbody, rfl⟩ := (Writer.ends_body? h).unique hbody?
      obtain rfl := Except.ok.inj hbody
      rw [imported, howns]
      exact Or.inr ⟨by simp, hwrite⟩
  | false =>
      rw [howns] at hend
      by_cases hnil : imports = []
      · subst hnil
        obtain ⟨_, _, hnote, hdone⟩ := hend.of_bind
        obtain ⟨rfl, rfl⟩ := hdone.of_pure
        exact Or.inl ⟨⟨rfl, rfl⟩, rfl, hnote.of_note⟩
      · rw [imported, howns]
        exact Or.inr ⟨by simp [hnil], by simpa [hnil] using hend⟩

/-- Imports that were written either found a current file, or put a file of the writer in the place of
another one. -/
theorem of_writeImports
    {c : Option File} {written : Bool}
    (hw : w.Marked)
    (h : s.Holds p c)
    (hend : Ends (writeImports w p imports) s (.ok written) u) :
    written = false ∧ Current w imports c ∧ s.Logged u
      ∨
    written = true ∧ ¬ Current w imports c ∧ ∃ g, u.Holds p (some g) ∧ w.owns g = true := by
  rcases write_of_writeImports h hend with ⟨hskipped, hwritten, hlog⟩ | ⟨hsome, hwrite⟩
  · exact Or.inl ⟨hwritten, current_iff.mpr (Or.inl hskipped), hlog⟩
  · have hcurrent : Current w imports c ↔
        c.map w.bodyOf = some (Text.physicalLines (imported w imports c)) :=
      current_iff.trans (or_iff_right hsome)
    rcases Writer.owned_of_write hw h hwrite with ⟨hwritten, hlines, hlog⟩ |
      ⟨hwritten, hlines, g, hg, hgowns, -⟩
    · exact Or.inl ⟨hwritten, hcurrent.mpr hlines, hlog⟩
    · exact Or.inr ⟨hwritten, fun h => hlines (hcurrent.mp h), g, hg, hgowns⟩

/-- At a seat the import pass succeeds. -/
theorem importPass_of_seat
    {c : Option File} {blocks : List Block} {pass : Pass}
    (hv : Writer.isValidName p.name = true)
    (h : s.Holds p c)
    (hseat : s.tree.Seat p)
    (hpass : compile importKinds none blocks = .ok pass) :
    ∃ written u, Ends (importPass w p blocks) s (.ok ⟨pass, written⟩) u := by
  obtain ⟨v, hrun, hlog⟩ := ends_runPass importKinds none blocks s
  rw [hpass] at hrun
  obtain ⟨written, u, hwrite⟩ :=
    writeImports_of_seat pass.lines hv (hlog.holds h) (hlog.seat hseat)
  exact ⟨written, u, hrun.bind (hwrite.bind (ends_pure _ u))⟩

/-- Over a file of the writer the import pass leaves the lines of the merge. -/
theorem importPass_of_owned
    {f : File} {blocks : List Block} {pass : Pass}
    (hw : w.Marked)
    (hv : Writer.isValidName p.name = true)
    (h : s.Holds p (some f))
    (howns : w.owns f = true)
    (hpass : compile importKinds none blocks = .ok pass) :
    ∃ written u g, Ends (importPass w p blocks) s (.ok ⟨pass, written⟩) u ∧ u.Holds p (some g) ∧
      w.bodyOf g = Text.physicalLines (mergeImports pass.lines (w.bodyOf f)) := by
  obtain ⟨v, hrun, hlog⟩ := ends_runPass importKinds none blocks s
  rw [hpass] at hrun
  have h' := hlog.holds h
  have hwritten : ∃ written u,
      Ends (w.write p (mergeImports pass.lines (w.bodyOf f)) false) v (.ok written) u :=
    Writer.write_of_seat hv h' (Writer.seat_of_holds hv h') (by simp)
  obtain ⟨written, u, hwrite⟩ := hwritten
  have hend : Ends (importPass w p blocks) s (.ok ⟨pass, written⟩) u :=
    hrun.bind ((writeImports_owned h' howns hwrite).bind (ends_pure _ u))
  obtain ⟨g, hg, hbody⟩ := Writer.body_of_write hw h' hwrite
  exact ⟨written, u, g, hend, hg, hbody⟩

/-- An import pass that succeeded has resolved its blocks, looked at its path, and written the result. -/
theorem parts_of_importPass
    {blocks : List Block} {report : PassReport}
    (hend : Ends (importPass w p blocks) s (.ok report) u) :
    ∃ c v, s.Logged v ∧ v.tree.open? p = .ok c ∧
      compile importKinds none blocks = .ok report.pass ∧
      Ends (writeImports w p report.pass.lines) v (.ok report.written) u := by
  obtain ⟨pass, v, hrun, hend⟩ := hend.of_bind
  obtain ⟨hpass, hlog⟩ := Ends.of_runPass hrun
  obtain ⟨written, _, hwrite, hdone⟩ := hend.of_bind
  obtain ⟨rfl, rfl⟩ := hdone.of_pure
  obtain ⟨_, _, hgen, -⟩ := hwrite.of_bind
  obtain ⟨c, _, hlook, -⟩ := hgen.of_bind
  exact ⟨c, v, hlog, hlook.of_open?.1, hpass, hwrite⟩

/-- If the journal keeps another file, it has written over what was at the path from the start. -/
theorem writeImports_of_importPass
    {blocks : List Block} {report : PassReport}
    (hlogs : s.LogsApart p)
    (hend : Ends (importPass w p blocks) s (.ok report) u) :
    ∃ c v, s.Holds p c ∧ s.Logged v ∧ compile importKinds none blocks = .ok report.pass ∧
      Ends (writeImports w p report.pass.lines) v (.ok report.written) u := by
  obtain ⟨c, v, hlog, hopen, hpass, hwrite⟩ := parts_of_importPass hend
  have h : v.Holds p c := ⟨hopen, hlog.logsApart hlogs⟩
  exact ⟨c, v, hlog.holds_of_holds hlogs h, hlog, hpass, hwrite⟩

/-- An import pass that succeeded found a current file, or put a file of the writer in the place of
another one. -/
theorem of_importPass
    {blocks : List Block} {report : PassReport}
    (hw : w.Marked)
    (hlogs : s.LogsApart p)
    (hend : Ends (importPass w p blocks) s (.ok report) u) :
    ∃ c, s.Holds p c ∧ compile importKinds none blocks = .ok report.pass ∧
      (report.written = false ∧ Current w report.pass.lines c ∧ s.Logged u
        ∨
      report.written = true ∧ ¬ Current w report.pass.lines c ∧
        ∃ g, u.Holds p (some g) ∧ w.owns g = true) := by
  obtain ⟨c, v, h, hlog, hpass, hwrite⟩ := writeImports_of_importPass hlogs hend
  refine ⟨c, h, hpass, ?_⟩
  rcases of_writeImports hw (hlog.holds h) hwrite with ⟨hwritten, hcurrent, hlog'⟩ | hwritten
  · exact Or.inl ⟨hwritten, hcurrent, hlog.trans hlog'⟩
  · exact Or.inr hwritten

end Imports

/-! ## After the import pass -/

deriving instance DecidableEq for Config

deriving instance DecidableEq for BuildOutcome

/-- The writer of a module. -/
abbrev Config.writer (config : Config) : Writer :=
  Writer.ofMarker config.marker

namespace Build

variable {env : Environment} {request : BuildRequest} {config : Config} {blocks : List Block}

/-- What a build does after its import pass. -/
def finish (env : Environment) (request : BuildRequest) (config : Config) (blocks : List Block)
    (imports : PassReport) : Work PassReport := do
  if request.importsOnly then return imports
  else
    let evaluator ← Work.ofExcept (evaluatorFor env request config)
    let full ← fullPass evaluator blocks
    let output ← writeOutput config.writer config.manifestPath full
    return { output with written := imports.written || output.written }

theorem passes_eq :
    passes env request config blocks =
      importPass config.writer config.manifestPath blocks >>=
        finish env request config blocks := by
  rfl

/-- What all writes to the manifest do, the passes do, because apart from that they leave log records only. -/
theorem keeps_passes
    {R : Workspace → Workspace → Prop}
    (hR : Lasting R)
    (hwrite : ∀ entries check,
      Keeps R (config.writer.write config.manifestPath entries check)) :
    Keeps R (passes env request config blocks) := by
  have hpass : ∀ kinds evaluator, Keeps R (runPass kinds evaluator blocks) :=
    fun kinds evaluator => (quiet_runPass kinds evaluator blocks).keeps hR
  have himports : ∀ imports, Keeps R (writeImports config.writer config.manifestPath imports) := by
    intro imports
    refine Keeps.bind hR ((Writer.quiet_isGenerated _ _).keeps hR) fun owned => ?_
    split
    · exact Keeps.bind hR ((Writer.quiet_body? _ _).keeps hR) fun body => hwrite _ _
    · split
      · exact ((quiet_records _).bind fun _ => quiet_pure _).keeps hR
      · exact hwrite _ _
  have himport : Keeps R (importPass config.writer config.manifestPath blocks) := by
    refine (hpass _ _).bind hR fun pass => (himports _).bind hR fun written => ?_
    exact (quiet_pure _).keeps hR
  rw [passes_eq]
  refine himport.bind hR fun imports => ?_
  unfold finish
  split
  · exact (quiet_pure _).keeps hR
  · refine Keeps.bind hR ((quiet_ofExcept _).keeps hR) fun evaluator => (hpass _ _).bind hR fun full => ?_
    refine Keeps.bind hR ?_ fun output => (quiet_pure _).keeps hR
    exact (hwrite _ _).bind hR fun _ => (quiet_pure _).keeps hR

/-- A manifest that cannot be opened ends the passes of a build, which leave log records only. -/
theorem ends_passes_of_closed
    {s : Workspace} {fault : FileFault}
    (env : Environment) (request : BuildRequest) (blocks : List Block)
    (hclosed : s.tree.open? config.manifestPath = .error fault) :
    ∃ u, Ends (passes env request config blocks) s
      (.error (.fileSystem config.manifestPath fault)) u ∧ s.Logged u := by
  obtain ⟨pass, hpass⟩ := exists_imports none blocks
  obtain ⟨v, hrun, hlog⟩ := ends_runPass importKinds none blocks s
  rw [hpass] at hrun
  have hlook := ends_open?_error (Tree.open?_error_of_isFolder_eq hlog.isFolder_eq hclosed)
  have hgenerated : Ends (config.writer.isGenerated config.manifestPath) v
      (.error (.fileSystem config.manifestPath fault)) v := hlook.bind_error
  have himports : Ends (writeImports config.writer config.manifestPath pass.lines) v
      (.error (.fileSystem config.manifestPath fault)) v := hgenerated.bind_error
  rw [passes_eq]
  exact ⟨v, Ends.bind_error (hrun.bind himports.bind_error), hlog⟩

/-- The evaluator is found and the full pass over the blocks succeeds. -/
def Resolves (env : Environment) (request : BuildRequest) (config : Config) (blocks : List Block)
    (full : Pass) : Prop :=
  ∃ evaluator, evaluatorFor env request config = .ok evaluator ∧
    compile allKinds evaluator blocks = .ok full

/-- The full pass has one result. -/
theorem Resolves.unique
    {full full' : Pass}
    (h : Resolves env request config blocks full)
    (h' : Resolves env request config blocks full') :
    full = full' := by
  obtain ⟨evaluator, hevaluator, hcompile⟩ := h
  obtain ⟨evaluator', hevaluator', hcompile'⟩ := h'
  obtain rfl := Except.ok.inj (hevaluator.symm.trans hevaluator')
  exact Except.ok.inj (hcompile.symm.trans hcompile')

section Finish

variable {imports : PassReport} {s u : Workspace}

/-- A build of imports only is done after the import pass. -/
theorem finish_importsOnly
    (honly : request.importsOnly = true) :
    finish env request config blocks imports = pure imports := by
  simp [finish, honly]

/-- A full pass that succeeds is followed by a write. -/
theorem ends_finish
    {full : Pass}
    (honly : request.importsOnly = false)
    (hfull : Resolves env request config blocks full)
    (imports : PassReport)
    (s : Workspace) :
    ∃ v, s.Logged v ∧ ∀ r u,
      Ends (config.writer.write config.manifestPath full.lines true) v r u →
      Ends (finish env request config blocks imports) s
        (r.map fun written => ⟨full, imports.written || written⟩) u := by
  obtain ⟨evaluator, hevaluator, hcompile⟩ := hfull
  obtain ⟨v, hrun, hlog⟩ := ends_runPass allKinds evaluator blocks s
  rw [hcompile] at hrun
  refine ⟨v, hlog, ?_⟩
  intro r u hwrite
  simp only [finish, honly]
  refine (ends_ofExcept hevaluator s).bind (hrun.bind ?_)
  cases r with
  | error e =>
      exact Ends.bind_error (Ends.bind_error hwrite)
  | ok written =>
      have houtput :
          Ends (writeOutput config.writer config.manifestPath full) v
            (.ok ⟨full, written⟩) u :=
        hwrite.bind (ends_pure _ u)
      exact houtput.bind (ends_pure _ u)

/-- What follows a successful import pass succeeds only through a full pass and a write. -/
theorem of_finish
    {report : PassReport}
    (honly : request.importsOnly = false)
    (h : Ends (finish env request config blocks imports) s (.ok report) u) :
    ∃ full v written, Resolves env request config blocks full ∧ s.Logged v ∧
      Ends (config.writer.write config.manifestPath full.lines true) v
        (.ok written) u ∧
      report = ⟨full, imports.written || written⟩ := by
  simp only [finish, honly] at h
  obtain ⟨evaluator, _, hlookup, h⟩ := h.of_bind
  obtain ⟨hevaluator, rfl⟩ := hlookup.of_ofExcept
  obtain ⟨full, v, hrun, h⟩ := h.of_bind
  obtain ⟨hcompile, hlog⟩ := Ends.of_runPass hrun
  obtain ⟨output, v', houtput, hdone⟩ := h.of_bind
  obtain ⟨rfl, rfl⟩ := hdone.of_pure
  obtain ⟨written, v', hwrite, hdone⟩ := houtput.of_bind
  obtain ⟨rfl, rfl⟩ := hdone.of_pure
  exact ⟨full, v, written, ⟨evaluator, hevaluator, hcompile⟩, hlog, hwrite, rfl⟩

/-- A full pass that fails leaves log records only. -/
theorem finish_failed
    (honly : request.importsOnly = false)
    (hfull : ¬ ∃ full, Resolves env request config blocks full)
    (imports : PassReport)
    (s : Workspace) :
    ∃ e u, Ends (finish env request config blocks imports) s (.error e) u ∧ s.Logged u := by
  simp only [finish, honly]
  cases hevaluator : evaluatorFor env request config with
  | error e =>
      exact ⟨e, s, (ends_ofExcept rfl s).bind_error, Workspace.Logged.refl s⟩
  | ok evaluator =>
      obtain ⟨u, hrun, hlog⟩ := ends_runPass allKinds evaluator blocks s
      cases hcompile : compile allKinds evaluator blocks with
      | error e =>
          rw [hcompile] at hrun
          exact ⟨e, u, (ends_ofExcept rfl s).bind hrun.bind_error, hlog⟩
      | ok full =>
          exact absurd ⟨full, evaluator, hevaluator, hcompile⟩ hfull

/-- Whatever follows the import pass leaves a file of the writer to the writer, and any other file as it
is. -/
theorem finish_of_holds
    (env : Environment) (request : BuildRequest) (blocks : List Block)
    {f : File}
    (hw : config.writer.Marked)
    (hv : Writer.isValidName config.manifestPath.name = true)
    (h : s.Holds config.manifestPath (some f))
    (imports : PassReport) :
    ∃ r u g, Ends (finish env request config blocks imports) s r u ∧
      u.Holds config.manifestPath (some g) ∧
      (config.writer.owns f = true →
        config.writer.owns g = true) ∧
      (config.writer.owns f = false →
        g = f ∧ ∀ report, r = .ok report → report.written = imports.written) := by
  by_cases honly : request.importsOnly = true
  · rw [finish_importsOnly honly]
    refine ⟨.ok imports, s, f, ends_pure imports s, h, id, fun _ => ⟨rfl, ?_⟩⟩
    rintro report ⟨⟩
    rfl
  · have honly : request.importsOnly = false := by simpa using honly
    by_cases hfull : ∃ full, Resolves env request config blocks full
    · obtain ⟨full, hfull⟩ := hfull
      obtain ⟨v, hlog, hfinish⟩ := ends_finish honly hfull imports s
      have hv' := hlog.holds h
      by_cases hkeep : config.writer.owns f = true ∨
          config.writer.bodyOf f = Text.physicalLines full.lines
      · have hcheck : true = true → ∀ g ∈ some f, config.writer.owns g = true ∨
            config.writer.bodyOf g = Text.physicalLines full.lines := by
          rintro - g ⟨⟩
          exact hkeep
        obtain ⟨written, u, hwrite⟩ :=
          Writer.write_of_seat hv hv' (Writer.seat_of_holds hv hv') hcheck
        have hend := hfinish _ u hwrite
        rcases Writer.owned_of_write hw hv' hwrite with ⟨rfl, -, hlog'⟩ | ⟨-, hbody, g, hg, howns, -⟩
        · refine ⟨_, u, f, hend, hlog'.holds hv', id, fun _ => ⟨rfl, ?_⟩⟩
          rintro report ⟨⟩
          exact Bool.or_false imports.written
        · refine ⟨_, u, g, hend, hg, fun _ => howns, ?_⟩
          intro hother
          rcases hkeep with hown | hlines
          · rw [hother] at hown
            cases hown
          · exact absurd (by simp [hlines]) hbody
      · obtain ⟨hother, hlines⟩ := not_or.mp hkeep
        have hother : config.writer.owns f = false := by simpa using hother
        obtain ⟨u, hrefused, hlog'⟩ := Writer.write_refused hv hv' hother hlines
        refine ⟨_, u, f, hfinish _ u hrefused, hlog'.holds hv', id, fun _ => ⟨rfl, ?_⟩⟩
        rintro report ⟨⟩
    · obtain ⟨e, u, hfailed, hlog⟩ := finish_failed honly hfull imports s
      refine ⟨.error e, u, f, hfailed, hlog.holds h, id, fun _ => ⟨rfl, ?_⟩⟩
      intro report hreport
      cases hreport

/-- What a full build that succeeded has left: the lines of the full pass, in a file of the writer or in
one that the import pass has nothing to write over. -/
structure Built (env : Environment) (request : BuildRequest) (config : Config) (blocks : List Block)
    (imports full : Pass) (f : File) (u : Workspace) : Prop where
  importing : compile importKinds none blocks = .ok imports
  resolves : Resolves env request config blocks full
  valid : Writer.isValidName config.manifestPath.name = true
  holds : u.Holds config.manifestPath (some f)
  body : config.writer.bodyOf f = Text.physicalLines full.lines
  current : config.writer.owns f = false → Current config.writer imports.lines (some f)

theorem built_of_passes
    {report : PassReport}
    (hw : config.writer.Marked)
    (honly : request.importsOnly = false)
    (hlogs : s.LogsApart config.manifestPath)
    (h : Ends (passes env request config blocks) s (.ok report) u) :
    ∃ imports full f, Built env request config blocks imports full f u := by
  rw [passes_eq] at h
  obtain ⟨imports, v, himport, hfinish⟩ := h.of_bind
  obtain ⟨c, hc, hpass, hcases⟩ := of_importPass hw hlogs himport
  obtain ⟨full, v', written, hfull, hlog, hwrite, -⟩ := of_finish honly hfinish
  have hv := Writer.isValidName_of_write hwrite
  have hfound : ∃ d, v.Holds config.manifestPath d ∧
      ∀ g ∈ d, config.writer.owns g = false → Current config.writer imports.pass.lines (some g) := by
    rcases hcases with ⟨-, hcurrent, hlog⟩ | ⟨-, -, g, hg, hgowns⟩
    · refine ⟨c, hlog.holds hc, ?_⟩
      rintro g hg -
      rwa [← Option.mem_def.mp hg]
    · refine ⟨some g, hg, ?_⟩
      rintro g' ⟨⟩ hother
      rw [hgowns] at hother
      cases hother
  obtain ⟨d, hd, hcurrent⟩ := hfound
  rcases Writer.owned_of_write hw (hlog.holds hd) hwrite with ⟨-, hbody, hlog'⟩ |
    ⟨-, -, g, hg, hgowns, hbody⟩
  · obtain ⟨f, rfl, hf⟩ := Option.map_eq_some_iff.mp hbody
    exact ⟨imports.pass, full, f, hpass, hfull, hv, hlog'.holds (hlog.holds hd), hf,
      hcurrent f rfl⟩
  · refine ⟨imports.pass, full, g, hpass, hfull, hv, hg, hbody, ?_⟩
    intro hother
    rw [hgowns] at hother
    cases hother

/-- The passes of a full build succeed at a seat without a file, or with a file that is the writer's or
has the lines of the full pass. -/
theorem passes_of_seat
    {c : Option File} {full : Pass}
    (hw : config.writer.Marked)
    (honly : request.importsOnly = false)
    (hv : Writer.isValidName config.manifestPath.name = true)
    (h : s.Holds config.manifestPath c)
    (hseat : s.tree.Seat config.manifestPath)
    (hfull : Resolves env request config blocks full)
    (hc : ∀ f ∈ c, config.writer.owns f = true ∨
      config.writer.bodyOf f = Text.physicalLines full.lines) :
    ∃ report u, Ends (passes env request config blocks) s (.ok report) u := by
  obtain ⟨imports, hpass⟩ := exists_imports none blocks
  obtain ⟨written, v, himport⟩ := importPass_of_seat (w := config.writer) hv h hseat hpass
  obtain ⟨c', hc', -, hcases⟩ := of_importPass hw h.apart himport
  obtain rfl := hc'.content_eq h
  have hfound : ∃ d, v.Holds config.manifestPath d ∧ v.tree.Seat config.manifestPath ∧
      ∀ f ∈ d, config.writer.owns f = true ∨
        config.writer.bodyOf f = Text.physicalLines full.lines := by
    rcases hcases with ⟨-, -, hlog⟩ | ⟨-, -, g, hg, hgowns⟩
    · exact ⟨c', hlog.holds h, hlog.seat hseat, hc⟩
    · refine ⟨some g, hg, Writer.seat_of_holds hv hg, ?_⟩
      rintro g' ⟨⟩
      exact Or.inl hgowns
  obtain ⟨d, hd, hseat', hallowed⟩ := hfound
  obtain ⟨v', hlog, hfinish⟩ := ends_finish honly hfull ⟨imports, written⟩ v
  obtain ⟨output, u, hwrite⟩ :=
    Writer.write_of_seat hv (hlog.holds hd) (hlog.seat hseat') fun _ => hallowed
  rw [passes_eq]
  exact ⟨_, u, himport.bind (hfinish _ u hwrite)⟩

end Finish

/-! ## Whole builds -/

/-- The outcome of a build with the report of its passes. -/
def outcomeOf (config : Config) (issues : List Issue) (report : PassReport) : BuildOutcome :=
  { path := config.manifestPath
    lines := report.pass.lines
    issues := issues ++ report.pass.issues
    written := report.written }

section Whole

variable {issues : List Issue} {s u : Workspace}

/-- A build that is no dry run ends as its passes end. -/
theorem ends_ofBlocks
    {r : Except Error PassReport}
    (issues : List Issue)
    (hdry : request.dryRun = false)
    (h : Ends (passes env request config blocks) s r u) :
    Ends (ofBlocks env request config blocks issues) s (r.map (outcomeOf config issues)) u := by
  simp only [ofBlocks, hdry]
  cases r with
  | error e =>
      exact h.bind_error
  | ok report =>
      exact h.bind (ends_pure _ u)

theorem of_ofBlocks
    {o : BuildOutcome}
    (hdry : request.dryRun = false)
    (h : Ends (ofBlocks env request config blocks issues) s (.ok o) u) :
    ∃ report, Ends (passes env request config blocks) s (.ok report) u ∧
      o = outcomeOf config issues report := by
  simp only [ofBlocks, hdry] at h
  obtain ⟨report, v, hpasses, hdone⟩ := h.of_bind
  obtain ⟨rfl, rfl⟩ := hdone.of_pure
  exact ⟨report, hpasses, rfl⟩

theorem built_of_ofBlocks
    {o : BuildOutcome}
    (hw : config.writer.Marked)
    (hdry : request.dryRun = false)
    (honly : request.importsOnly = false)
    (hlogs : s.LogsApart config.manifestPath)
    (h : Ends (ofBlocks env request config blocks issues) s (.ok o) u) :
    ∃ imports full f, Built env request config blocks imports full f u := by
  obtain ⟨report, hpasses, -⟩ := of_ofBlocks hdry h
  exact built_of_passes hw honly hlogs hpasses

/-- The part of a build that loads the settings and the blocks of a module. -/
def load (env : Environment) (request : BuildRequest) :
    Work (Config × List Block × List Issue) := do
  let found ← Work.inspect (configOf env request.root)
  let config := override request found
  Work.note .info .build ("Building " ++ config.manifest ++ " for " ++ config.root.display)
  let document ← Work.ofExcept (blocksPath env config)
  let (blocks, issues) ← BlockDocument.load document
  Work.records (issues.map (LogRecord.ofIssue .build))
  Work.note .debug .build ("Processing " ++ toString blocks.length ++ " block(s)")
  return (config, blocks, issues)

theorem run_eq
    (env : Environment) (request : BuildRequest) :
    run env request = load env request >>= fun (config, blocks, issues) =>
      ofBlocks env request config blocks issues := by
  simp only [run, load, Work.bind_assoc]
  rfl

/-- Loading leaves log records only. -/
theorem quiet_load
    (env : Environment) (request : BuildRequest) :
    Quiet (load env request) := by
  refine (quiet_inspect _).bind fun found => (quiet_records _).bind fun _ => ?_
  refine (quiet_ofExcept _).bind fun document => Quiet.bind ?_ fun blocks => ?_
  · exact (quiet_inspect _).bind fun _ => (quiet_records _).bind fun _ => quiet_pure _
  · exact (quiet_records _).bind fun _ => (quiet_records _).bind fun _ => quiet_pure _

theorem logged_of_load
    {found : Config × List Block × List Issue}
    (h : Ends (load env request) s (.ok found) u) :
    s.Logged u := by
  exact (quiet_load env request).logged h

/-- What was loaded is the settings that were found, with those of the request in their place, and the blocks of
a document. -/
theorem parts_of_load
    (h : Ends (load env request) s (.ok (config, blocks, issues)) u) :
    ∃ found p v v', configOf env request.root s.tree = .ok found ∧ config = override request found ∧
      Ends (BlockDocument.load p) v (.ok (blocks, issues)) v' := by
  obtain ⟨found, _, hfound, h⟩ := h.of_bind
  obtain ⟨_, _, -, h⟩ := h.of_bind
  obtain ⟨p, v, -, h⟩ := h.of_bind
  obtain ⟨loaded, v', hdocument, h⟩ := h.of_bind
  obtain ⟨_, _, -, h⟩ := h.of_bind
  obtain ⟨_, _, -, h⟩ := h.of_bind
  obtain ⟨⟨⟩, -⟩ := h.of_pure
  exact ⟨found, p, v, v', hfound.1, rfl, hdocument⟩

/-- Blocks that are loaded are shaped. -/
theorem shaped_of_load
    (h : Ends (load env request) s (.ok (config, blocks, issues)) u) :
    ∀ block ∈ blocks, block.Shaped := by
  obtain ⟨_, _, _, _, -, -, hdocument⟩ := parts_of_load h
  obtain ⟨found, _, hread, h⟩ := hdocument.of_bind
  obtain ⟨_, _, -, h⟩ := h.of_bind
  obtain ⟨⟨⟩, -⟩ := h.of_pure
  exact BlockDocument.shaped_of_readFile hread.1

/-- Once everything is loaded, a build is a build of the loaded blocks. -/
theorem ends_run
    {r : Except Error BuildOutcome} {v : Workspace}
    (hload : Ends (load env request) s (.ok (config, blocks, issues)) v)
    (h : Ends (ofBlocks env request config blocks issues) v r u) :
    Ends (run env request) s r u := by
  rw [run_eq]
  exact hload.bind h

end Whole

end Build

end NamespaceManifest
