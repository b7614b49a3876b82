import NamespaceManifest.CommandLine.Run
import NamespaceManifest.Proofs.Build.Failure
import NamespaceManifest.Proofs.Build.Loading

/-!
# Errors that escape a build command

A build command reports the complaints of its parts: about the settings, about the document, about
fragments, and about a manifest that is not the writer's.  Every other error ends the program without a
status.

For a module whose root folder is there, which asks for no evaluator and whose manifest has a valid name,
these errors are known exactly (`Escapes`, `build_escapes_iff`): the settings or the document cannot be
opened, are no text, or have a scalar without a value or a number without a text; the document is in the
home folder of an unknown user; or the manifest cannot be opened.  Where none of this is the case the command
ends normally, or with status 1 and a message.

A manifest that can be opened can be written, so that the passes fail only with what is reported
(`of_passes_error`).
-/

namespace NamespaceManifest

open Directive Work

/-- The kinds of directives that a request asks for. -/
def BuildRequest.kinds (request : BuildRequest) : KindSet :=
  if request.importsOnly then importKinds else allKinds

namespace Build

variable {env : Environment} {request : BuildRequest} {config : Config} {blocks : List Block}
variable {issues : List Issue} {root : Path} {s u : Workspace} {e : Error}

/-! ## The manifest -/

/-- At a seat a write succeeds or is refused. -/
theorem of_write_of_seat
    {w : Writer} {p : Path} {c : Option File} {entries : List String} {check : Bool}
    (hv : Writer.isValidName p.name = true)
    (h : s.Holds p c)
    (hseat : s.tree.Seat p)
    (hfail : Ends (w.write p entries check) s (.error e) u) :
    e = .conflict p := by
  -- nothing stands against a write at a seat but the check
  by_cases hallowed :
      check = true → ∀ f ∈ c, w.owns f = true ∨ w.bodyOf f = Text.physicalLines entries
  · obtain ⟨written, v, hwrite⟩ := Writer.write_of_seat hv h hseat hallowed
    cases (hwrite.unique hfail).1
  · push Not at hallowed
    obtain ⟨rfl, f, hf, hother, hlines⟩ := hallowed
    rw [Option.mem_def.mp hf] at h
    obtain ⟨v, hrefused, -⟩ := Writer.write_refused hv h (by simpa using hother) hlines
    exact (Except.error.inj (hrefused.unique hfail).1).symm

/-- After an import pass at a seat the manifest can still be opened and written. -/
theorem holds_of_importPass
    {w : Writer} {p : Path} {imports : PassReport}
    (hv : Writer.isValidName p.name = true)
    (hlogs : s.LogsApart p)
    (hseat : s.tree.Seat p)
    (h : Ends (importPass w p blocks) s (.ok imports) u) :
    ∃ c, u.Holds p c ∧ u.tree.Seat p := by
  obtain ⟨c, v, hc, hlog, -, hwrite⟩ := writeImports_of_importPass hlogs h
  have hkept : ∀ {x}, v.Logged x → ∃ c, x.Holds p c ∧ x.tree.Seat p := fun hmore =>
    ⟨c, (hlog.trans hmore).holds hc, (hlog.trans hmore).seat hseat⟩
  rcases write_of_writeImports (hlog.holds hc) hwrite with ⟨-, -, hmore⟩ | ⟨-, hwrite⟩
  · exact hkept hmore
  · rcases Writer.holds_of_write (hlog.holds hc) hwrite with ⟨-, -, hmore⟩ | ⟨-, -, mode, hg⟩
    · exact hkept hmore
    · exact ⟨_, hg, Writer.seat_of_holds hv hg⟩

/-- At a seat the passes of a build fail only because of a fragment, or because the manifest is not the
writer's. -/
theorem of_passes_error
    {evaluator : Option Evaluator} {c : Option File}
    (hv : Writer.isValidName config.manifestPath.name = true)
    (hc : s.Holds config.manifestPath c)
    (hseat : s.tree.Seat config.manifestPath)
    (hlookup : evaluatorFor env request config = .ok evaluator)
    (h : Ends (passes env request config blocks) s (.error e) u) :
    (∃ fault, e = .evaluation fault) ∨ e = .conflict config.manifestPath := by
  rw [passes_eq] at h
  rcases h.of_bind_error with himport | ⟨imports, v, himport, hfinish⟩
  · obtain ⟨pass, hpass⟩ := exists_imports none blocks
    obtain ⟨written, v, hok⟩ := importPass_of_seat (w := config.writer) hv hc hseat hpass
    cases (hok.unique himport).1
  · obtain ⟨d, hd, hseat'⟩ := holds_of_importPass hv hc.apart hseat himport
    rcases of_finish_error hfinish with ⟨hunresolved, -⟩ | ⟨full, v', hlog, hwrite⟩
    · cases hunresolved with
      | evaluator hmissing =>
          cases hmissing.symm.trans hlookup
      | fragment _ _ =>
          exact Or.inl ⟨_, rfl⟩
    · exact Or.inr (of_write_of_seat hv (hlog.holds hd) (hlog.seat hseat') hwrite)

/-- The pass of a dry run ends as the blocks are resolved. -/
theorem ends_dryPass
    (blocks : List Block)
    (hlookup : evaluatorFor env request config = .ok none)
    (s : Workspace) :
    ∃ u, Ends (dryPass env request config blocks) s (compile request.kinds none blocks) u ∧
      s.Logged u := by
  unfold dryPass BuildRequest.kinds
  split
  · exact ends_runPass importKinds none blocks s
  · obtain ⟨u, hrun, hlog⟩ := ends_runPass allKinds none blocks s
    exact ⟨u, (ends_ofExcept hlookup s).bind hrun, hlog⟩

/-- How a build of loaded blocks fails. -/
theorem of_ofBlocks_error
    (hv : Writer.isValidName config.manifestPath.name = true)
    (hfolder : s.tree.walk [] config.manifestPath.parent.parts = .folder)
    (hlogs : s.LogsApart config.manifestPath)
    (hlookup : evaluatorFor env request config = .ok none)
    (h : Ends (ofBlocks env request config blocks issues) s (.error e) u) :
    (∃ fault, e = .evaluation fault) ∨ e = .conflict config.manifestPath ∨
      ∃ fault, s.tree.open? config.manifestPath = .error fault ∧
        (request.dryRun = true → ∃ pass, compile request.kinds none blocks = .ok pass) ∧
        e = .fileSystem config.manifestPath fault := by
  obtain ⟨hne, hup⟩ := Writer.named_of_isValidName hv
  cases hdry : request.dryRun with
  | true =>
      simp only [ofBlocks, hdry] at h
      obtain ⟨v, hpass, hlog⟩ := ends_dryPass blocks hlookup s
      rcases h.of_bind_error with hfailed | ⟨pass, v', hok, h⟩
      · obtain ⟨fault, rfl, -⟩ := fragmentFails_of_compile (hpass.unique hfailed).1
        exact Or.inl ⟨fault, rfl⟩
      · obtain ⟨hcompile, rfl⟩ := hpass.unique hok
        rcases h.of_bind_error with hdiff | ⟨diff, _, -, ⟨⟩, -⟩
        rcases hdiff.of_bind_error with hlook | ⟨_, _, -, ⟨⟩, -⟩
        obtain ⟨⟨fault, hfault, rfl⟩, -⟩ := hlook.of_open?_error
        rw [hlog.open?_eq hlogs] at hfault
        exact Or.inr (Or.inr ⟨fault, hfault, fun _ => ⟨pass, hcompile⟩, rfl⟩)
  | false =>
      simp only [ofBlocks, hdry] at h
      rcases h.of_bind_error with hpasses | ⟨report, _, -, ⟨⟩, -⟩
      cases hopen : s.tree.open? config.manifestPath with
      | error fault =>
          obtain ⟨v, hclosed, -⟩ := ends_passes_of_closed env request blocks hopen
          obtain ⟨he, -⟩ := hclosed.unique hpasses
          exact Or.inr (Or.inr ⟨fault, rfl, fun hfalse => absurd hfalse (by decide),
            (Except.error.inj he).symm⟩)
      | ok c =>
          have hseat := Tree.Seat.of_open? hopen hfolder hne hup
          rcases of_passes_error hv ⟨hopen, hlogs⟩ hseat hlookup hpasses with hfault | hconflict
          · exact Or.inl hfault
          · exact Or.inr (Or.inl hconflict)

/-- A manifest that cannot be opened ends a build once it is looked at. -/
theorem ends_ofBlocks_of_closed
    {fault : FileFault}
    (hlookup : evaluatorFor env request config = .ok none)
    (hclosed : s.tree.open? config.manifestPath = .error fault)
    (hreached : request.dryRun = true → ∃ pass, compile request.kinds none blocks = .ok pass) :
    ∃ u, Ends (ofBlocks env request config blocks issues) s
      (.error (.fileSystem config.manifestPath fault)) u := by
  cases hdry : request.dryRun with
  | true =>
      obtain ⟨pass, hcompile⟩ := hreached hdry
      obtain ⟨v, hpass, hlog⟩ := ends_dryPass blocks hlookup s
      rw [hcompile] at hpass
      have hlook := ends_open?_error (Tree.open?_error_of_isFolder_eq hlog.isFolder_eq hclosed)
      have hdiff : Ends (diffText config.writer config.manifestPath pass.lines) v
          (.error (.fileSystem config.manifestPath fault)) v := hlook.bind_error
      simp only [ofBlocks, hdry]
      exact ⟨v, hpass.bind hdiff.bind_error⟩
  | false =>
      obtain ⟨u, hpasses, -⟩ := ends_passes_of_closed env request blocks hclosed
      exact ⟨u, ends_ofBlocks issues hdry hpasses⟩

/-- What a module that stands gives to a build of its blocks. -/
structure Placed (env : Environment) (request : BuildRequest) (config : Config) (s : Workspace) :
    Prop where
  valid : Writer.isValidName config.manifestPath.name = true
  folder : s.tree.walk [] config.manifestPath.parent.parts = .folder
  apart : s.LogsApart config.manifestPath
  unevaluated : evaluatorFor env request config = .ok none

theorem Stands.placed
    (h : Stands env request root s)
    (hloaded : loaded env request root s.tree = .ok (config, blocks, issues)) :
    Placed env request config s := by
  obtain ⟨found, hfound, rfl⟩ := of_loaded hloaded
  obtain ⟨hmodule, hvalid⟩ := h.settings found hfound
  have hpath := Config.manifestPath_eq hvalid
  rw [Config.root_of_loadIn hfound] at hpath
  have hsame : (override request found).manifestPath = found.manifestPath := rfl
  refine ⟨?_, ?_, ?_, ?_⟩
  · rw [hsame, hpath]
    simpa [Path.name] using hvalid
  · rw [hsame, hpath]
    simp only [Path.parent, List.dropLast_concat]
    exact Tree.hasFolder_eq_true_iff.mp h.folder
  · exact h.manifestApart found hfound
  · simp [evaluatorFor, override, h.unevaluated.1, h.unevaluated.2, hmodule]

theorem Placed.logged
    (h : Placed env request config s)
    (hlog : s.Logged u) :
    Placed env request config u := by
  exact ⟨h.valid, hlog.walk_folder h.folder, hlog.logsApart h.apart, h.unevaluated⟩

end Build

/-! ## Commands -/

namespace CommandLine

open Build

variable {env : Environment} {request : BuildRequest} {root : Path} {s : Workspace} {t : Tree}
variable {e : Error}

/-- The errors that a build command does not report. -/
inductive Escapes (env : Environment) (request : BuildRequest) (root : Path) (t : Tree) :
    Error → Prop
  | settings
      {e : Error}
      (h : Config.Fault root t e) :
      Escapes env request root t e
  | home
      {found : Config}
      (hfound : Config.loadIn root t = .ok found)
      (h : env.expand (Path.ofText (override request found).blocks) = .error .homeUnknown) :
      Escapes env request root t .homeUnknown
  | document
      {found : Config} {p : Path} {e : Error}
      (hfound : Config.loadIn root t = .ok found)
      (hp : blocksPath env (override request found) = .ok p)
      (h : BlockDocument.FileFault p t e) :
      Escapes env request root t e
  | manifest
      {config : Config} {blocks : List Block} {issues : List Issue} {fault : FileFault}
      (hloaded : loaded env request root t = .ok (config, blocks, issues))
      (hclosed : t.open? config.manifestPath = .error fault)
      (hreached : request.dryRun = true → ∃ pass, compile request.kinds none blocks = .ok pass) :
      Escapes env request root t (.fileSystem config.manifestPath fault)

theorem Escapes.treatment_eq
    (h : Escapes env request root t e) :
    treatment e = .none := by
  have htext : ∀ {p e}, t.TextFault p e → treatment e = .none := by
    intro p e h
    cases h <;> rfl
  cases h with
  | settings h =>
      cases h with
      | text h =>
          exact htext h
      | scalar _ _ _ =>
          rfl
      | unwritable _ _ _ =>
          rfl
  | home _ _ =>
      rfl
  | document _ _ h =>
      cases h with
      | text h =>
          exact htext h
      | scalar _ _ =>
          rfl
      | unwritable _ _ _ =>
          rfl
  | manifest _ _ _ =>
      rfl

/-- What keeps a module from being loaded is reported, or escapes. -/
theorem escapes_of_loaded_error
    (h : loaded env request root t = .error e) :
    treatment e ≠ .none ∨ Escapes env request root t e := by
  cases hfound : Config.loadIn root t with
  | error e' =>
      rw [loaded, hfound] at h
      cases h
      rcases Config.of_loadIn_error hfound with ⟨c, rfl⟩ | hfault
      · exact Or.inl (by simp [treatment])
      · exact Or.inr (.settings hfault)
  | ok found =>
      simp only [loaded, hfound, bind, Except.bind, pure, Except.pure] at h
      split at h
      · rename_i hp
        cases h
        simp only [blocksPath, bind, Except.bind, pure, Except.pure] at hp
        split at hp
        · rename_i hexpand
          cases hp
          have hhome : e = .homeUnknown := by
            unfold Environment.expand at hexpand
            split at hexpand
            · cases hexpand
            · split at hexpand
              · cases hexpand
              · cases hexpand
                rfl
          subst hhome
          exact Or.inr (.home hfound hexpand)
        · cases hp
      · rename_i hp
        split at h
        · rename_i hdocument
          cases h
          rcases BlockDocument.of_readFile_error hdocument with rfl | ⟨d, rfl⟩ | hfault
          · exact Or.inl (by simp [treatment])
          · exact Or.inl (by simp [treatment])
          · exact Or.inr (.document hfound hp hfault)
        · cases h

/-- An error of a build is reported, or escapes. -/
theorem escapes_of_run_error
    (h : Stands env request root s)
    (hfail : (Build.run env request s).outcome = .error e) :
    treatment e ≠ .none ∨ Escapes env request root s.tree e := by
  obtain ⟨v, hload, hlog⟩ := ends_load h
  cases hloaded : loaded env request root s.tree with
  | error e' =>
      rw [hloaded] at hload
      have hrun : (Build.run env request s).outcome = .error e' := by
        rw [run_eq]
        exact hload.bind_error.1
      obtain rfl := Except.error.inj (hrun.symm.trans hfail)
      exact escapes_of_loaded_error hloaded
  | ok found =>
      obtain ⟨config, blocks, issues⟩ := found
      rw [hloaded] at hload
      have hplaced := (h.placed hloaded).logged hlog
      have hrun := (ends_run hload (ends_self (ofBlocks env request config blocks issues) v)).1
      have hend : Ends (ofBlocks env request config blocks issues) v (.error e) _ :=
        ⟨hrun.symm.trans hfail, rfl⟩
      rcases of_ofBlocks_error hplaced.valid hplaced.folder hplaced.apart hplaced.unevaluated hend with
        ⟨fault, rfl⟩ | rfl | ⟨fault, hclosed, hreached, rfl⟩
      · exact Or.inl (by simp [treatment])
      · exact Or.inl (by simp [treatment])
      · rw [hlog.open?_eq (h.placed hloaded).apart] at hclosed
        exact Or.inr (.manifest hloaded hclosed hreached)

/-- What escapes ends a build. -/
theorem Escapes.run_error
    (hstands : Stands env request root s)
    (h : Escapes env request root s.tree e) :
    (Build.run env request s).outcome = .error e := by
  obtain ⟨v, hload, hlog⟩ := ends_load hstands
  have hunloaded : loaded env request root s.tree = .error e →
      (Build.run env request s).outcome = .error e := by
    intro hloaded
    rw [hloaded] at hload
    rw [run_eq]
    exact hload.bind_error.1
  cases h with
  | settings h =>
      refine hunloaded ?_
      rw [loaded, h.loadIn]
      rfl
  | home hfound h =>
      refine hunloaded ?_
      simp [loaded, hfound, blocksPath, h, bind, Except.bind]
  | document hfound hp h =>
      refine hunloaded ?_
      simp [loaded, hfound, hp, h.readFile, bind, Except.bind]
  | manifest hloaded hclosed hreached =>
      have hplaced := hstands.placed hloaded
      rw [hloaded] at hload
      rw [← hlog.open?_eq hplaced.apart] at hclosed
      obtain ⟨u, hend⟩ := ends_ofBlocks_of_closed hplaced.unevaluated hclosed hreached
      exact (ends_run hload hend).1

/-- What escapes is what ends a build and is not reported. -/
theorem escapes_iff
    (h : Stands env request root s) :
    Escapes env request root s.tree e ↔
      (Build.run env request s).outcome = .error e ∧ treatment e = .none := by
  constructor
  · intro hescapes
    exact ⟨hescapes.run_error h, hescapes.treatment_eq⟩
  · rintro ⟨hfail, htreatment⟩
    rcases escapes_of_run_error h hfail with hreported | hescapes
    · exact absurd htreatment hreported
    · exact hescapes

/-- The request of a build command. -/
def buildRequest (root : String) (blocks module : Option (Given String)) (importsOnly dryRun : Bool) :
    BuildRequest :=
  { root := root
    blocks := blocks.bind Given.value?
    module := module.bind Given.value?
    importsOnly := importsOnly
    dryRun := dryRun }

/-- An answer with status 1 has the message of an error. -/
def Answer.Reports (answer : Answer) (e : Error) : Prop :=
  answer.ending = .status 1 ∧ ∃ before after, answer.errors = before ++ e.message ++ after

theorem answerRun_ok
    {a : Arguments} {run : Run String} {text : String}
    (h : run.outcome = .ok text) :
    (answerRun a run).ending = .status 0 := by
  simp [answerRun, h]

/-- An error of a command that reports failures is reported, or ends the program. -/
theorem answerRun_error
    {a : Arguments} {run : Run String}
    (hreports : reportsFailures a.command = true)
    (h : run.outcome = .error e) :
    (treatment e = .none → (answerRun a run).ending = .error e) ∧
      (treatment e ≠ .none → (answerRun a run).Reports e) := by
  cases htreatment : treatment e with
  | none =>
      refine ⟨fun _ => ?_, fun hne => absurd rfl hne⟩
      simp [answerRun, h, answerError, htreatment]
  | plain =>
      refine ⟨nofun, fun _ => ?_⟩
      simp only [Answer.Reports, answerRun, h, answerError, htreatment, true_and]
      exact ⟨_, "\n", String.append_assoc.symm⟩
  | failedBuild =>
      refine ⟨nofun, fun _ => ?_⟩
      simp only [Answer.Reports, answerRun, h, answerError, htreatment, hreports, true_and]
      generalize String.join _ = console
      refine ⟨console ++ "nsgen build failed: ", "\nRun with --verbose for more details.\n", ?_⟩
      simp only [String.append_assoc]

deriving instance DecidableEq for Ending

/-- A module with settings and a document. -/
def moduleTree (settings document : ByteArray) : Tree :=
  { files := [([".nsgen.yml"], ⟨settings, 0o644⟩), (["blocks.yml"], ⟨document, 0o644⟩)] }

/-- A module whose settings are no text, with a block that asks for an import. -/
def undecodableSettings : Tree :=
  moduleTree ⟨#[0xFF]⟩ "- tags:\n    import: rlang\n".toUTF8

/-- A module without settings whose document is no text. -/
def undecodableDocument : Tree :=
  moduleTree ByteArray.empty ⟨#[0xFF]⟩

/-- A build command without options is for the current folder. -/
def plainBuild : Arguments :=
  { verbose := false
    quiet := false
    logFile := none
    command := .build "." none none false false }

end CommandLine
end NamespaceManifest
