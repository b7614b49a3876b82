import NamespaceManifest.Proofs.Build.Loading
import NamespaceManifest.Proofs.Build.Rehearsal

/-!
# The files that a build writes

A build is to write one file: the manifest of its settings, which stands in the root folder of the module under a
plain name.  Two checks are to see to this.  The settings are accepted only if the name of the manifest has no
separator, and the writer accepts only a path whose last part is a valid name.

* With a valid name the path is the root folder and that name (`Config.manifestPath_eq`), and a write leaves all
  other files as they are (`Writer.spares_write`).
* With any other name the writer refuses the path before it looks at anything, but for the name `.`: that path is the
  root folder itself, and it is the name of the folder that is judged (`Config.isValidName_manifestPath_iff`).  A
  folder cannot be opened, so that nothing is written there either (`Build.ends_passes_of_closed`).

So whatever a build changes is the manifest under a valid name (`Build.spares_run`).  A valid name is a plain one,
or a plain one with a line feed after it, and in the second case the file has no plain name
(`Build.footprint_of_run`, `Build.footprint_of_brokenName`).
-/

namespace NamespaceManifest

open Directive Work

/-! ## Settings that are texts -/

namespace Number

theorem text_ne_nil
    (style : RealStyle) (d : Decimal) :
    d.text style ≠ [] := by
  unfold Decimal.text
  generalize dropZeros (Nat.toDigits 10 d.digits) = dropped
  dsimp only
  split
  · split
    · simp
    · split <;> simp
  · simp

theorem realText_ne_empty
    (style : RealStyle) (x : Float) :
    realText style x ≠ "" := by
  unfold realText
  dsimp only
  split
  · split <;> simp
  · split
    · simp
    · simp [text_ne_nil]

end Number

theorem ne_empty_of_presentText?
    {given : Option String} {text : String}
    (h : presentText? given = some text) :
    text ≠ "" := by
  unfold presentText? at h
  split at h
  · split at h
    · cases h
    · rename_i hfilled
      cases h
      simpa using hfilled
  · cases h

namespace Config

/-- A setting that counts is not empty. -/
theorem ne_empty_of_setting?
    {entries : List (Value × Value)} {key text : String}
    (h : setting? entries key = .ok (some text)) :
    text ≠ "" := by
  unfold setting? settingText? at h
  split at h
  · exact ne_empty_of_presentText? (Except.ok.inj h)
  · rename_i n _
    split at h
    · cases h
      cases n with
      | ofNat n =>
          show Nat.repr n ≠ ""
          simp
      | negSucc n =>
          show "-" ++ _ ≠ ""
          simp
    · cases h
  · cases h
    exact Number.realText_ne_empty _ _
  · cases h

/-- What is known of the name of the manifest when the settings of a module are accepted. -/
theorem manifest_of_loadIn
    {root : Path} {t : Tree} {config : Config}
    (h : loadIn root t = .ok config) :
    hasSeparator config.manifest = false ∧ config.manifest ≠ "" := by
  obtain ⟨entries, haccepted⟩ := accepted_of_loadIn h
  refine ⟨haccepted.named, ?_⟩
  obtain ⟨given, hgiven, hmanifest⟩ := haccepted.manifest
  rw [hmanifest]
  cases given with
  | none =>
      decide
  | some text =>
      exact ne_empty_of_setting? hgiven

/-! ## Names that are not plain -/

/-- A manifest has no plain name, and the writer accepts its path nevertheless: the name is plain up to a line feed
at its end, or it is a dot and the root folder has a valid name. -/
inductive LetThrough (config : Config) : Prop
  | newline
      {front : List Char}
      (hplain : Writer.isPlainName front = true)
      (hname : config.manifest.toList = front ++ ['\n']) :
      LetThrough config
  | dot
      (hname : config.manifest = ".")
      (hroot : Writer.isValidName config.root.name = true) :
      LetThrough config

theorem manifestPath_dot
    {config : Config}
    (h : config.manifest = ".") :
    config.manifestPath = config.root := by
  have hdot : Path.ofText "." = ⟨0, []⟩ := by decide
  rw [manifestPath, h, Path.joinText, hdot]
  simp [Path.join, Path.isAbsolute]

/-- Apart from a dot, the writer judges the name of the manifest. -/
theorem name_manifestPath
    {config : Config}
    (hnamed : hasSeparator config.manifest = false)
    (hne : config.manifest ≠ "")
    (hdot : config.manifest ≠ ".") :
    config.manifestPath.name = config.manifest := by
  have hslash : '/' ∉ config.manifest.toList := by
    intro hmem
    rw [hasSeparator, List.any_eq_false] at hnamed
    exact hnamed _ hmem (by decide)
  rw [manifestPath, Path.joinText_of_ofText config.root (Path.ofText_of_not_mem hslash hne hdot)]
  simp [Path.name]

theorem isValidName_manifestPath_iff
    {config : Config}
    (hnamed : hasSeparator config.manifest = false)
    (hne : config.manifest ≠ "")
    (hplain : Writer.isPlainName config.manifest.toList = false) :
    Writer.isValidName config.manifestPath.name = true ↔ LetThrough config := by
  by_cases hdot : config.manifest = "."
  · rw [manifestPath_dot hdot]
    constructor
    · exact .dot hdot
    · rintro (⟨hfront, hname⟩ | ⟨-, hroot⟩)
      · rw [hdot] at hname
        have hlast := congrArg List.getLast? hname
        simp at hlast
      · exact hroot
  · rw [name_manifestPath hnamed hne hdot, Writer.isValidName, Text.holdsUpToNewline_iff]
    constructor
    · rintro (hname | ⟨front, hfront, hname⟩)
      · rw [hplain] at hname
        cases hname
      · exact .newline hfront hname
    · rintro (⟨hfront, hname⟩ | ⟨hname, -⟩)
      · exact Or.inr ⟨_, hfront, hname⟩
      · exact absurd hname hdot

end Config

/-- A valid name is plain just if it does not end in a line feed. -/
theorem Writer.isPlainName_iff_of_isValidName
    {name : String}
    (hv : Writer.isValidName name = true) :
    Writer.isPlainName name.toList = true ↔ name.toList.getLast? ≠ some '\n' := by
  constructor
  · intro hplain hlast
    have hfeed : '\n' ∈ name.toList := List.mem_of_getLast? hlast
    cases hname : name.toList with
    | nil =>
        rw [hname] at hfeed
        cases hfeed
    | cons c rest =>
        rw [hname] at hplain hfeed
        simp only [Writer.isPlainName, Bool.and_eq_true, List.all_eq_true] at hplain
        rcases List.mem_cons.mp hfeed with rfl | hmem
        · exact absurd hplain.1 (by decide)
        · exact absurd (hplain.2 _ hmem) (by decide)
  · intro hlast
    rwa [Writer.isValidName, Text.holdsUpToNewline_of_ne hlast] at hv

namespace Build

variable {env : Environment} {request : BuildRequest} {config : Config} {blocks : List Block}
variable {s : Workspace} {key : List String}

/-! ## Where the manifest stands -/

/-- The settings of a build are those of a root folder that is there. -/
theorem of_configOf
    {root : String} {t : Tree}
    (henv : env.folder.isAbsolute = true)
    (h : configOf env root t = .ok config) :
    config.root.IsRoot ∧ t.hasFolder config.root = .ok true ∧
      Config.loadIn config.root t = .ok config := by
  obtain ⟨expanded, hexpand, hstep⟩ := Config.bind_eq_ok_iff.mp h
  obtain ⟨there, hthere, -⟩ := Config.bind_eq_ok_iff.mp hstep
  cases hfolder : t.hasFolder (env.resolve expanded) with
  | error fault =>
      simp [hfolder, Error.atPath] at hthere
  | ok present =>
      cases present with
      | false =>
          simp [hfolder, Error.atPath, throw, throwThe, MonadExceptOf.throw, bind, Except.bind] at hstep
      | true =>
          rw [configOf_eq henv hexpand hfolder] at h
          rw [Config.root_of_loadIn h]
          exact ⟨Path.isRoot_resolve henv expanded, hfolder, h⟩

theorem key_manifestPath
    (hroot : config.root.IsRoot)
    (hv : Writer.isValidName config.manifest = true) :
    config.manifestPath.key = config.root.parts ++ [config.manifest] := by
  have hup : config.manifest ≠ ".." := by
    intro hup
    rw [hup] at hv
    exact absurd hv (by decide)
  rw [Config.manifestPath_eq hv, Path.key_of_not_mem]
  simp [hroot.straight, hup.symm]

/-! ## What the passes leave -/

/-- The passes leave every file as it is but the one that is the manifest under a valid name. -/
theorem spares_passes
    (hroot : config.root.IsRoot)
    (hfolder : s.tree.walk [] config.root.parts = .folder)
    (hnamed : Config.hasSeparator config.manifest = false)
    (hfilled : config.manifest ≠ "")
    (hkey : Writer.isValidName config.manifest = true → key ≠ config.root.parts ++ [config.manifest]) :
    Spares key s (passes env request config blocks s).workspace := by
  by_cases hv : Writer.isValidName config.manifest = true
  · have hne : key ≠ config.manifestPath.key := by
      rw [key_manifestPath hroot hv]
      exact hkey hv
    exact keeps_passes lasting_spares (fun entries check => Writer.spares_write hne _ entries check) s
  · by_cases hpath : Writer.isValidName config.manifestPath.name = true
    · -- only the name of the root folder can be valid in the place of the manifest's
      have hdot : config.manifest = "." := by
        by_contra hdot
        rw [Config.name_manifestPath hnamed hfilled hdot] at hpath
        exact hv hpath
      have hclosed : s.tree.open? config.manifestPath = .error .isAFolder := by
        rw [Config.manifestPath_dot hdot, Tree.open?, Tree.probe, hfolder]
      obtain ⟨u, hend, hlog⟩ := ends_passes_of_closed env request blocks hclosed
      rw [hend.2]
      exact lasting_spares.logged hlog
    · exact (quiet_passes_of_invalid (by simpa using hpath)).keeps lasting_spares s

/-! ## What a build leaves -/

/-- A build leaves every file as it is but the one that is the manifest of its settings under a valid name. -/
theorem spares_run
    (henv : env.folder.isAbsolute = true)
    (hkey : ∀ config, configOf env request.root s.tree = .ok config →
      Writer.isValidName config.manifest = true → key ≠ config.root.parts ++ [config.manifest]) :
    Spares key s (run env request s).workspace := by
  cases hdry : request.dryRun with
  | true =>
      have hsame : request.dry = request := by
        rw [BuildRequest.dry, ← hdry]
      rw [← hsame]
      exact (quiet_run_dry env request).keeps lasting_spares s
  | false =>
      cases hloaded : (load env request s).outcome with
      | error e =>
          have hload : Ends (load env request) s (.error e) _ := ⟨hloaded, rfl⟩
          rw [run_eq, hload.bind_error.2]
          exact (quiet_load env request).keeps lasting_spares s
      | ok loaded =>
          obtain ⟨config, blocks, issues⟩ := loaded
          obtain ⟨v, hload⟩ : ∃ v, Ends (load env request) s (.ok (config, blocks, issues)) v :=
            ⟨_, hloaded, rfl⟩
          have hlog := logged_of_load hload
          obtain ⟨found, -, -, -, hfound, rfl, -⟩ := parts_of_load hload
          obtain ⟨hroot, hfolder, hin⟩ := of_configOf henv hfound
          obtain ⟨hnamed, hfilled⟩ := Config.manifest_of_loadIn hin
          rw [run_workspace hdry hload]
          have hfolder := hlog.walk_folder (Tree.hasFolder_eq_true_iff.mp hfolder)
          exact (lasting_spares.logged hlog).trans
            (spares_passes hroot hfolder hnamed hfilled (hkey found hfound))

/-- Every file that a build changes, other than the log file, is the manifest of the settings in the root folder of
the module, and its name is plain unless it ends in a line feed.  If the configured name is not plain, a write
to its path is refused because of the name, with all as it was, unless the name is one of those that are let
through. -/
theorem footprint_of_run
    (henv : env.folder.isAbsolute = true)
    (request : BuildRequest) (s : Workspace) :
    (∀ key, (∀ j ∈ s.journal, j.path.key ≠ key) →
      (run env request s).workspace.tree.find? key ≠ s.tree.find? key →
      ∃ config, configOf env request.root s.tree = .ok config ∧
        key = config.root.parts ++ [config.manifest] ∧
        (Writer.isPlainName config.manifest.toList = true ↔
          config.manifest.toList.getLast? ≠ some '\n')) ∧
    (∀ config, configOf env request.root s.tree = .ok config →
      Writer.isPlainName config.manifest.toList = false →
      ∀ (w : Writer) entries check t,
        Ends (w.write config.manifestPath entries check) t
            (.error (.invalidName config.manifestPath.name)) t ↔
          ¬ config.LetThrough) := by
  constructor
  · intro key hjournal hchanged
    by_contra hnone
    refine hchanged (spares_run henv (fun config hconfig hv hkey => hnone ?_) hjournal).1
    exact ⟨config, hconfig, hkey, Writer.isPlainName_iff_of_isValidName hv⟩
  · intro config hconfig hplain w entries check t
    obtain ⟨-, -, hin⟩ := of_configOf henv hconfig
    obtain ⟨hnamed, hfilled⟩ := Config.manifest_of_loadIn hin
    rw [Writer.write_eq_invalidName_iff, ← Bool.not_eq_true,
      Config.isValidName_manifestPath_iff hnamed hfilled hplain]

/-- A module whose settings name its manifest, with a block that asks for an import. -/
def namedModule (settings : String) : Workspace :=
  { tree :=
      { files :=
          [([".nsgen.yml"], ⟨settings.toUTF8, 0o644⟩),
            (["blocks.yml"], ⟨"- tags:\n    import: x\n".toUTF8, 0o644⟩)] } }

/-- The manifest `lib-1.txt` is written in the root folder, and a write to the manifest `1st` is refused. -/
theorem footprint_of_namedModule :
    let plain := namedModule "manifest: lib-1.txt\n"
    let numbered := namedModule "manifest: 1st\n"
    ((run plainEnvironment {} plain).workspace.tree.find? ["lib-1.txt"] ≠ plain.tree.find? ["lib-1.txt"] ∧
      ∃ config, configOf plainEnvironment "." plain.tree = .ok config ∧
        ["lib-1.txt"] = config.root.parts ++ [config.manifest] ∧
        (Writer.isPlainName config.manifest.toList = true ↔
          config.manifest.toList.getLast? ≠ some '\n')) ∧
    configOf plainEnvironment "." numbered.tree = .ok { root := ⟨1, []⟩, manifest := "1st" } ∧
    ∀ (w : Writer) entries check t,
      Ends (w.write ⟨1, ["1st"]⟩ entries check) t (.error (.invalidName "1st")) t := by
  intro plain numbered
  have habsolute : plainEnvironment.folder.isAbsolute = true := by
    decide
  have hchanged :
      (run plainEnvironment {} plain).workspace.tree.find? ["lib-1.txt"] ≠
        plain.tree.find? ["lib-1.txt"] := by
    decide +kernel
  have hnumbered :
      configOf plainEnvironment "." numbered.tree = .ok { root := ⟨1, []⟩, manifest := "1st" } := by
    decide +kernel
  obtain ⟨hfiles, -⟩ := footprint_of_run habsolute {} plain
  obtain ⟨-, hrefused⟩ := footprint_of_run habsolute {} numbered
  refine ⟨⟨hchanged, hfiles ["lib-1.txt"] ?_ hchanged⟩, hnumbered, ?_⟩
  · rintro j ⟨⟩
  · intro w entries check t
    refine (hrefused _ hnumbered (by decide) w entries check t).mpr ?_
    rintro (⟨-, hname⟩ | ⟨hname, -⟩)
    · have hlast := congrArg List.getLast? hname
      simp at hlast
    · exact absurd hname (by decide)

/-- A manifest whose name ends in a line feed is written under that name. -/
theorem footprint_of_brokenName :
    let module := namedModule "manifest: \"NAMESPACE\\n\"\n"
    configOf plainEnvironment "." module.tree = .ok { root := ⟨1, []⟩, manifest := "NAMESPACE\n" } ∧
    Writer.isPlainName "NAMESPACE\n".toList = false ∧
    module.tree.find? ["NAMESPACE\n"] = none ∧
    ((run plainEnvironment {} module).workspace.tree.find? ["NAMESPACE\n"]).isSome = true := by
  decide +kernel

end Build
end NamespaceManifest
