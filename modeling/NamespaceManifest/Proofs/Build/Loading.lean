import NamespaceManifest.Proofs.Block.Fault
import NamespaceManifest.Proofs.Build.Passes

/-!
# Settings and documents of a module

The settings of a module whose root folder is there are those of the file beside it, if there is one
(`configOf_eq`).  They are accepted if the manifest is named without a separator and the marker starts like a
comment (`Config.ofEntries_eq_ok_iff`).

Reading a file can end in a complaint about what the file says.  It can also end in something that nobody
expects of a file: it cannot be opened, its bytes are no text, one of its scalars has no value, or a number in
it has no text.  These are collected for the settings (`Config.Fault`) and for the block document
(`BlockDocument.FileFault`), each with the exact error that comes of it.

What is loaded of a module that is there (`Stands`) depends on its files only (`ends_load`).
-/

namespace NamespaceManifest

/-! ## Paths below a root folder -/

namespace Path

theorem up_not_mem_climb
    {done : List String}
    (h : ".." ∉ done)
    (parts : List String) :
    ".." ∉ climb done parts := by
  induction parts generalizing done with
  | nil =>
      exact h
  | cons part parts ih =>
      rw [climb]
      split
      · exact ih fun hmem => h (List.mem_of_mem_drop hmem)
      · rename_i hpart
        refine ih fun hmem => ?_
        rcases List.mem_cons.mp hmem with hup | hmem
        · exact hpart (by simp [← hup])
        · exact h hmem

/-- Parts that lead nowhere back are followed one after the other. -/
theorem climb_of_not_mem
    {parts : List String}
    (h : ".." ∉ parts)
    (done : List String) :
    climb done parts = parts.reverse ++ done := by
  induction parts generalizing done with
  | nil =>
      rfl
  | cons part parts ih =>
      obtain ⟨hpart, hparts⟩ := List.ne_and_not_mem_of_not_mem_cons h
      have hne : (part == "..") = false := by simpa using hpart.symm
      simp [climb, hne, ih hparts]

theorem up_not_mem_key
    (p : Path) :
    ".." ∉ p.key := by
  rw [key, collapseOnto_eq_climb, List.mem_reverse]
  exact up_not_mem_climb List.not_mem_nil p.parts

theorem key_of_not_mem
    {p : Path}
    (h : ".." ∉ p.parts) :
    p.key = p.parts := by
  rw [key, collapseOnto_eq_climb, climb_of_not_mem h]
  simp

theorem join_of_isAbsolute
    {p : Path}
    (h : p.isAbsolute = true)
    (folder : Path) :
    folder.join p = p := by
  rw [join, if_pos h]

theorem isAbsolute_join
    {folder : Path}
    (h : folder.isAbsolute = true)
    (p : Path) :
    (folder.join p).isAbsolute = true := by
  rw [join]
  split
  · assumption
  · exact h

theorem isAbsolute_resolve
    {folder : Path}
    (h : folder.isAbsolute = true)
    (p : Path) :
    (folder.resolve p).isAbsolute = true :=
  isAbsolute_join h p

theorem cutAtSlashes_of_not_mem
    {s : List Char}
    (h : '/' ∉ s) :
    cutAtSlashes s = [s] := by
  induction s with
  | nil =>
      rfl
  | cons c s ih =>
      obtain ⟨hc, hs⟩ := List.ne_and_not_mem_of_not_mem_cons h
      rw [cutAtSlashes, if_neg hc.symm, ih hs]

/-- A text without slashes is a single part. -/
theorem ofText_of_not_mem
    {s : String}
    (h : '/' ∉ s.toList)
    (hempty : s ≠ "")
    (hdot : s ≠ ".") :
    ofText s = ⟨0, [s]⟩ := by
  have hleading : s.toList.takeWhile (· == '/') = [] := by
    cases hs : s.toList with
    | nil =>
        rfl
    | cons c rest =>
        rw [hs] at h
        have hc : (c == '/') = false := by simpa using (List.ne_of_not_mem_cons h).symm
        simp [hc]
  simp [ofText, hleading, cutAtSlashes_of_not_mem h, hempty, hdot]

/-- A root folder: absolute, and without a part that leads back. -/
structure IsRoot (root : Path) : Prop where
  absolute : root.isAbsolute = true
  straight : ".." ∉ root.parts

theorem isRoot_resolve
    {folder : Path}
    (h : folder.isAbsolute = true)
    (p : Path) :
    (folder.resolve p).IsRoot :=
  ⟨isAbsolute_resolve h p, up_not_mem_key _⟩

/-- The file of a name in a root folder. -/
theorem joinText_of_ofText
    {name : String}
    (root : Path)
    (hname : ofText name = ⟨0, [name]⟩) :
    root.joinText name = { root with parts := root.parts ++ [name] } := by
  rw [joinText, hname]
  rfl

theorem IsRoot.resolve_joinText
    {root folder : Path} {name : String}
    (h : root.IsRoot)
    (hname : ofText name = ⟨0, [name]⟩)
    (hup : name ≠ "..") :
    folder.resolve (root.joinText name) = root.joinText name := by
  have habs : (root.joinText name).isAbsolute = true := by
    rw [joinText_of_ofText root hname]
    exact h.absolute
  have hstraight : ".." ∉ (root.joinText name).parts := by
    rw [joinText_of_ofText root hname]
    simp [h.straight, hup.symm]
  rw [resolve, join_of_isAbsolute habs, key_of_not_mem hstraight]

end Path

/-! ## Texts -/

namespace Tree

/-- A file cannot be opened, or its bytes are no text. -/
inductive TextFault (t : Tree) (p : Path) : Error → Prop
  | closed
      {fault : FileFault}
      (h : t.open? p = .error fault) :
      TextFault t p (.fileSystem p fault)
  | undecodable
      {f : File}
      (h : t.open? p = .ok (some f))
      (hbytes : Text.Utf8.readStrict? f.bytes = none) :
      TextFault t p (.undecodable p)

theorem readText_eq_error_iff
    {t : Tree} {p : Path} {e : Error} :
    t.readText p = .error e ↔ t.TextFault p e := by
  constructor
  · intro h
    simp only [readText, bind, Except.bind, pure, Except.pure] at h
    cases hopen : t.open? p with
    | error fault =>
        simp only [hopen, Error.atPath, Except.error.injEq] at h
        subst h
        exact .closed hopen
    | ok c =>
        cases c with
        | none =>
            simp [hopen, Error.atPath] at h
        | some f =>
            cases hbytes : Text.Utf8.readStrict? f.bytes with
            | none =>
                simp only [hopen, Error.atPath, hbytes, Except.error.injEq] at h
                subst h
                exact .undecodable hopen hbytes
            | some s =>
                simp [hopen, Error.atPath, hbytes] at h
  · intro h
    cases h with
    | closed h =>
        simp [readText, h, Error.atPath, bind, Except.bind]
    | undecodable h hbytes =>
        simp [readText, h, hbytes, Error.atPath, bind, Except.bind]

end Tree

/-! ## Settings -/

namespace Config

/-- The settings of the module with a root folder that is there. -/
def loadIn (root : Path) (t : Tree) : Except Error Config := do
  match ← t.readText (root.joinText fileName) with
  | none => return { root := root }
  | some text =>
      let entries ← entriesOf fileName text
      ofEntries root entries

/-- The settings of a module cannot be read, for a reason that is no complaint about the settings. -/
inductive Fault (root : Path) (t : Tree) : Error → Prop
  | text
      {e : Error}
      (h : t.TextFault (root.joinText fileName) e) :
      Fault root t e
  | scalar
      {text : List Char} {e : ScalarError}
      (htext : t.readText (root.joinText fileName) = .ok (some text))
      (hfilled : text.all Text.isBlank = false)
      (h : Yaml.parse text = .error (.scalar e)) :
      Fault root t (.scalar e)
  | unwritable
      {text : List Char} {entries : List (Value × Value)}
      (htext : t.readText (root.joinText fileName) = .ok (some text))
      (hentries : entriesOf fileName text = .ok entries)
      (h : ofEntries root entries = .error (.scalar .unwritable)) :
      Fault root t (.scalar .unwritable)

section Steps

variable {α β : Type} {P : Error → Prop} {x : Except Error α} {f : α → Except Error β}

/-- Steps fail as their parts fail. -/
theorem error_of_bind
    (hx : ∀ e, x = .error e → P e)
    (hf : ∀ a e, f a = .error e → P e) :
    ∀ e, (x >>= f) = .error e → P e := by
  intro e h
  cases hstep : x with
  | error e' =>
      rw [hstep] at h
      cases h
      exact hx _ hstep
  | ok a =>
      rw [hstep] at h
      exact hf a e h

theorem bind_eq_ok_iff
    {b : β} :
    (x >>= f) = .ok b ↔ ∃ a, x = .ok a ∧ f a = .ok b := by
  cases x <;> simp [bind, Except.bind]

end Steps

/-- Entries are no settings because a setting is refused, or has no text. -/
theorem of_ofEntries_error
    {root : Path} {entries : List (Value × Value)} :
    ∀ e, ofEntries root entries = .error e → (∃ c, e = .config c) ∨ e = .scalar .unwritable := by
  have hsetting : ∀ key e, setting? entries key = .error e →
      (∃ c, e = .config c) ∨ e = .scalar .unwritable := by
    intro key e h
    unfold setting? settingText? at h
    split at h
    · cases h
    · split at h
      · cases h
      · cases h
        exact Or.inr rfl
    · cases h
    · cases h
  have hmanifest : ∀ manifest e, checkManifest manifest = .error e →
      (∃ c, e = .config c) ∨ e = .scalar .unwritable := by
    intro manifest e h
    unfold checkManifest at h
    split at h
    · cases h
      exact Or.inl ⟨_, rfl⟩
    · cases h
  have hmarker : ∀ marker e, checkMarker marker = .error e →
      (∃ c, e = .config c) ∨ e = .scalar .unwritable := by
    intro marker e h
    unfold checkMarker at h
    split at h
    · cases h
    · cases h
      exact Or.inl ⟨_, rfl⟩
  refine error_of_bind (hsetting _) fun manifest => error_of_bind (hmanifest _) fun _ => ?_
  refine error_of_bind (hsetting _) fun blocks => error_of_bind (hsetting _) fun module => ?_
  refine error_of_bind (hsetting _) fun marker => error_of_bind (hmarker _) fun _ => ?_
  refine error_of_bind (hsetting _) fun logFile e h => ?_
  cases h

/-- What the accepted entries of a mapping give: the manifest names no other folder, the marker starts like a
comment, and every setting is that of its key, or the default. -/
structure Accepted (root : Path) (entries : List (Value × Value)) (config : Config) : Prop where
  rooted : config.root = root
  manifest : ∃ given, setting? entries "manifest" = .ok given ∧ config.manifest = given.getD "NAMESPACE"
  named : hasSeparator config.manifest = false
  blocks : ∃ given, setting? entries "blocks" = .ok given ∧ config.blocks = given.getD "blocks.yml"
  module : setting? entries "module" = .ok config.module
  marker : ∃ given, setting? entries "marker" = .ok given ∧ config.marker = given.getD Writer.defaultMarker
  comment : isComment config.marker = true
  logFile : ∃ given, setting? entries "log_file" = .ok given ∧ config.logFile = given.map root.joinText

theorem checkManifest_eq_ok_iff
    {manifest : String} {done : Unit} :
    checkManifest manifest = .ok done ↔ hasSeparator manifest = false := by
  unfold checkManifest
  split <;> simp_all

theorem checkMarker_eq_ok_iff
    {marker : String} {done : Unit} :
    checkMarker marker = .ok done ↔ isComment marker = true := by
  unfold checkMarker
  split <;> simp_all

theorem ofEntries_eq_ok_iff
    {root : Path} {entries : List (Value × Value)} {config : Config} :
    ofEntries root entries = .ok config ↔ Accepted root entries config := by
  simp only [ofEntries, bind_eq_ok_iff, checkManifest_eq_ok_iff, checkMarker_eq_ok_iff, pure, Except.pure,
    Except.ok.injEq]
  constructor
  · rintro ⟨manifest, hmanifest, -, hnamed, blocks, hblocks, module, hmodule, marker, hmarker, -, hcomment,
      logFile, hlogFile, rfl⟩
    exact ⟨rfl, ⟨_, hmanifest, rfl⟩, hnamed, ⟨_, hblocks, rfl⟩, hmodule, ⟨_, hmarker, rfl⟩, hcomment,
      ⟨_, hlogFile, rfl⟩⟩
  · rintro ⟨hroot, ⟨manifest, hmanifest, hm⟩, hnamed, ⟨blocks, hblocks, hb⟩, hmodule, ⟨marker, hmarker, hk⟩,
      hcomment, ⟨logFile, hlogFile, hl⟩⟩
    rw [hm] at hnamed
    rw [hk] at hcomment
    refine ⟨manifest, hmanifest, (), hnamed, blocks, hblocks, config.module, hmodule, marker, hmarker, (),
      hcomment, logFile, hlogFile, ?_⟩
    rw [← hm, ← hb, ← hk, ← hl, ← hroot]

/-- Without entries everything is as by default. -/
theorem accepted_nil
    (root : Path) :
    Accepted root [] { root := root } := by
  have hnone : ∀ key, setting? [] key = .ok none := fun _ => rfl
  refine ⟨rfl, ⟨none, hnone _, rfl⟩, ?_, ⟨none, hnone _, rfl⟩, hnone _, ⟨none, hnone _, rfl⟩, ?_,
    ⟨none, hnone _, rfl⟩⟩
  · exact (by decide : hasSeparator "NAMESPACE" = false)
  · exact (by decide : isComment Writer.defaultMarker = true)

/-- Settings that are read are those of accepted entries; without a file there are none. -/
theorem accepted_of_loadIn
    {root : Path} {t : Tree} {config : Config}
    (h : loadIn root t = .ok config) :
    ∃ entries, Accepted root entries config := by
  rw [loadIn, bind_eq_ok_iff] at h
  obtain ⟨content, -, h⟩ := h
  cases content with
  | none =>
      cases h
      exact ⟨[], accepted_nil root⟩
  | some text =>
      rw [bind_eq_ok_iff] at h
      obtain ⟨entries, -, h⟩ := h
      rw [ofEntries_eq_ok_iff] at h
      exact ⟨entries, h⟩

theorem root_of_loadIn
    {root : Path} {t : Tree} {config : Config}
    (h : loadIn root t = .ok config) :
    config.root = root := by
  obtain ⟨entries, haccepted⟩ := accepted_of_loadIn h
  exact haccepted.rooted

/-- Settings that cannot be read have a fault, unless there is a complaint about them. -/
theorem of_loadIn_error
    {root : Path} {t : Tree} {e : Error}
    (h : loadIn root t = .error e) :
    (∃ c, e = .config c) ∨ Fault root t e := by
  simp only [loadIn, bind, Except.bind, pure, Except.pure] at h
  split at h
  · rename_i htext
    cases h
    rw [Tree.readText_eq_error_iff] at htext
    exact Or.inr (.text htext)
  · rename_i htext
    split at h
    · cases h
    · split at h
      · rename_i text _ _ hentries
        cases h
        unfold entriesOf at hentries
        split at hentries
        · cases hentries
        · rename_i hblank
          split at hentries
          · cases hentries
            exact Or.inl ⟨_, rfl⟩
          · rename_i hparse
            cases hentries
            exact Or.inr (.scalar htext (by simpa using hblank) hparse)
          · cases hentries
          · cases hentries
          · cases hentries
            exact Or.inl ⟨_, rfl⟩
      · rename_i hentries
        rcases of_ofEntries_error e h with hcomplaint | rfl
        · exact Or.inl hcomplaint
        · exact Or.inr (.unwritable htext hentries h)

theorem Fault.loadIn
    {root : Path} {t : Tree} {e : Error}
    (h : Fault root t e) :
    loadIn root t = .error e := by
  cases h with
  | text h =>
      rw [← Tree.readText_eq_error_iff] at h
      rw [Config.loadIn, h]
      rfl
  | scalar htext hfilled h =>
      simp [Config.loadIn, htext, entriesOf, hfilled, h, bind, Except.bind]
  | unwritable htext hentries h =>
      simp [Config.loadIn, htext, hentries, h, bind, Except.bind]

/-- The manifest of a valid name stands in the root folder. -/
theorem manifestPath_eq
    {config : Config}
    (hv : Writer.isValidName config.manifest = true) :
    config.manifestPath =
      { config.root with parts := config.root.parts ++ [config.manifest] } := by
  refine Path.joinText_of_ofText config.root (Path.ofText_of_not_mem ?_ ?_ ?_)
  · intro hslash
    have hplain : ∀ s, Writer.isPlainName s = true → '/' ∉ s := by
      intro s hs hmem
      cases s with
      | nil =>
          cases hmem
      | cons c rest =>
          simp only [Writer.isPlainName, Bool.and_eq_true, List.all_eq_true] at hs
          rcases List.mem_cons.mp hmem with rfl | hmem
          · exact absurd hs.1 (by decide)
          · exact absurd (hs.2 _ hmem) (by decide)
    rcases Text.holdsUpToNewline_iff.mp hv with hv | ⟨front, hv, hfront⟩
    · exact hplain _ hv hslash
    · rw [hfront] at hslash
      rcases List.mem_append.mp hslash with hmem | hmem
      · exact hplain _ hv hmem
      · exact absurd (List.mem_singleton.mp hmem) (by decide)
  · intro hempty
    rw [hempty] at hv
    exact absurd hv (by decide)
  · intro hdot
    rw [hdot] at hv
    exact absurd hv (by decide)

end Config

namespace Build

/-- A build of a module whose root folder is there reads the settings in that folder. -/
theorem configOf_eq
    {env : Environment} {root : String} {expanded : Path} {t : Tree}
    (henv : env.folder.isAbsolute = true)
    (hexpand : env.expand (Path.ofText root) = .ok expanded)
    (hfolder : t.hasFolder (env.resolve expanded) = .ok true) :
    configOf env root t = Config.loadIn (env.resolve expanded) t := by
  obtain ⟨folder, hresolve⟩ : ∃ folder, folder = env.resolve expanded := ⟨_, rfl⟩
  have hroot : folder.IsRoot := hresolve ▸ Path.isRoot_resolve henv expanded
  have hname : Path.ofText Config.fileName = ⟨0, [Config.fileName]⟩ := by decide
  have hfile : env.resolve (folder.joinText Config.fileName) = folder.joinText Config.fileName :=
    hroot.resolve_joinText hname (by decide)
  have hjoin := Path.joinText_of_ofText folder hname
  have hparent : (folder.joinText Config.fileName).parent = folder := by
    rw [hjoin]
    simp [Path.parent]
  have hlast : (folder.joinText Config.fileName).name = Config.fileName := by
    rw [hjoin]
    simp [Path.name]
  have hself : env.expand folder = .ok folder := by
    have hhome : folder.homeUser? = none := by
      have hslashes : folder.slashes ≠ 0 := by simpa [Path.isAbsolute] using hroot.absolute
      unfold Path.homeUser?
      split
      · exact absurd (by assumption) hslashes
      · rfl
    rw [Environment.expand, hhome]
  rw [← hresolve] at hfolder ⊢
  have hplace : Config.fileFor env t folder = .ok (folder.joinText Config.fileName) := by
    simp [Config.fileFor, Path.join_of_isAbsolute hroot.absolute, hfolder, Error.atPath, hfile,
      bind, Except.bind, pure, Except.pure]
  have hload : configOf env root t = Config.load env folder t := by
    simp [configOf, hexpand, ← hresolve, hfolder, Error.atPath, bind, Except.bind]
  rw [hload]
  cases htext : t.readText (folder.joinText Config.fileName) with
  | error e =>
      simp [Config.load, Config.loadIn, hself, hplace, htext, bind, Except.bind]
  | ok content =>
      cases content <;>
        simp [Config.load, Config.loadIn, hself, hplace, htext, hparent, hlast, bind, Except.bind]

end Build

/-! ## Block documents -/

namespace BlockDocument

/-- The document of a file cannot be read, for a reason that is no complaint about the document. -/
inductive FileFault (p : Path) (t : Tree) : Error → Prop
  | text
      {e : Error}
      (h : t.TextFault p e) :
      FileFault p t e
  | scalar
      {text : List Char} {e : ScalarError}
      (htext : t.readText p = .ok (some text))
      (h : Yaml.parse text = .error (.scalar e)) :
      FileFault p t (.scalar e)
  | unwritable
      {text : List Char} {v : Value}
      (htext : t.readText p = .ok (some text))
      (hparse : Yaml.parse text = .ok v)
      (h : read (some p.name) v = .error (.scalar .unwritable)) :
      FileFault p t (.scalar .unwritable)

/-- A document that cannot be read has a fault, unless it is missing or there is a complaint about it. -/
theorem of_readFile_error
    {p : Path} {t : Tree} {e : Error}
    (h : readFile p t = .error e) :
    e = .documentMissing p ∨ (∃ d, e = .document d) ∨ FileFault p t e := by
  simp only [readFile, bind, Except.bind, throw, throwThe, MonadExceptOf.throw] at h
  split at h
  · rename_i htext
    cases h
    rw [Tree.readText_eq_error_iff] at htext
    exact Or.inr (Or.inr (.text htext))
  · rename_i htext
    split at h
    · cases h
      exact Or.inl rfl
    · split at h
      · cases h
        exact Or.inr (Or.inl ⟨_, rfl⟩)
      · rename_i hparse
        cases h
        exact Or.inr (Or.inr (.scalar htext hparse))
      · rename_i hparse
        cases fault_of_read h with
        | document d =>
            exact Or.inr (Or.inl ⟨d, rfl⟩)
        | unwritable _ =>
            exact Or.inr (Or.inr (.unwritable htext hparse h))

theorem FileFault.readFile
    {p : Path} {t : Tree} {e : Error}
    (h : FileFault p t e) :
    readFile p t = .error e := by
  cases h with
  | text h =>
      rw [← Tree.readText_eq_error_iff] at h
      rw [BlockDocument.readFile, h]
      rfl
  | scalar htext h =>
      simp [BlockDocument.readFile, htext, h, bind, Except.bind, throw, throwThe,
        MonadExceptOf.throw]
  | unwritable htext hparse h =>
      simp [BlockDocument.readFile, htext, hparse, h, bind, Except.bind]

end BlockDocument

/-! ## Whole modules -/

namespace Build

open Work

variable {env : Environment} {request : BuildRequest} {config : Config} {blocks : List Block}
variable {issues : List Issue} {root : Path} {s : Workspace}

/-- The settings, the blocks and their issues that the files of a module give. -/
def loaded (env : Environment) (request : BuildRequest) (root : Path) (t : Tree) :
    Except Error (Config × List Block × List Issue) := do
  let found ← Config.loadIn root t
  let p ← blocksPath env (override request found)
  let (blocks, issues) ← BlockDocument.readFile p t
  return (override request found, blocks, issues)

/-- The module of a request is there and asks for no evaluator, its manifest has a valid name, and the
journal keeps a file of its own. -/
structure Stands (env : Environment) (request : BuildRequest) (root : Path) (s : Workspace) : Prop where
  absolute : env.folder.isAbsolute = true
  found : ∃ expanded, env.expand (Path.ofText request.root) = .ok expanded ∧ root = env.resolve expanded
  folder : s.tree.hasFolder root = .ok true
  unevaluated : request.evaluator = none ∧ presentText? request.module = none
  settings : ∀ config, Config.loadIn root s.tree = .ok config →
    presentText? config.module = none ∧ Writer.isValidName config.manifest = true
  manifestApart : ∀ config, Config.loadIn root s.tree = .ok config →
    s.LogsApart config.manifestPath
  documentApart : ∀ config p, Config.loadIn root s.tree = .ok config →
    blocksPath env (override request config) = .ok p → s.LogsApart p

theorem readFile_of_open?_eq
    {p : Path} {t t' : Tree}
    (h : t'.open? p = t.open? p) :
    BlockDocument.readFile p t' = BlockDocument.readFile p t := by
  rw [BlockDocument.readFile, BlockDocument.readFile, Tree.readText, Tree.readText, h]

theorem Stands.configOf_eq
    (h : Stands env request root s) :
    configOf env request.root s.tree = Config.loadIn root s.tree := by
  obtain ⟨expanded, hexpand, rfl⟩ := h.found
  exact Build.configOf_eq h.absolute hexpand h.folder

/-- Loading ends with what the files give. -/
theorem ends_load
    (h : Stands env request root s) :
    ∃ u, Ends (load env request) s (loaded env request root s.tree) u ∧ s.Logged u := by
  suffices hend : ∃ u, Ends (load env request) s (loaded env request root s.tree) u by
    obtain ⟨u, hend⟩ := hend
    exact ⟨u, hend, (quiet_load env request).logged hend⟩
  have hconfig : Ends (Work.inspect (configOf env request.root)) s
      (Config.loadIn root s.tree) s := ⟨h.configOf_eq, rfl⟩
  cases hfound : Config.loadIn root s.tree with
  | error e =>
      rw [hfound] at hconfig
      rw [loaded, hfound]
      exact ⟨s, hconfig.bind_error⟩
  | ok found =>
      rw [hfound] at hconfig
      obtain ⟨v, hnote, hlog⟩ := ends_note .info .build
        ("Building " ++ (override request found).manifest ++ " for "
          ++ (override request found).root.display) s
      cases hp : blocksPath env (override request found) with
      | error e =>
          simp only [loaded, hfound, hp, bind, Except.bind]
          exact ⟨v, hconfig.bind (hnote.bind (ends_ofExcept hp v).bind_error)⟩
      | ok p =>
          have hopen := hlog.open?_eq (h.documentApart found p hfound hp)
          have hread : Ends (Work.inspect (BlockDocument.readFile p)) v
              (BlockDocument.readFile p s.tree) v := ⟨readFile_of_open?_eq hopen, rfl⟩
          cases hdocument : BlockDocument.readFile p s.tree with
          | error e =>
              rw [hdocument] at hread
              have hload : Ends (BlockDocument.load p) v (.error e) v := hread.bind_error
              simp only [loaded, hfound, hp, hdocument, bind, Except.bind]
              exact ⟨v, hconfig.bind (hnote.bind ((ends_ofExcept hp v).bind hload.bind_error))⟩
          | ok document =>
              obtain ⟨blocks, issues⟩ := document
              rw [hdocument] at hread
              obtain ⟨v₁, hcounted, -⟩ := ends_note .debug .blocks
                ("Loaded " ++ toString blocks.length ++ " block(s) from " ++ p.display) v
              obtain ⟨v₂, hissues, -⟩ :=
                ends_records (issues.map (LogRecord.ofIssue .build)) v₁
              obtain ⟨v₃, hprocessing, -⟩ := ends_note .debug .build
                ("Processing " ++ toString blocks.length ++ " block(s)") v₂
              have hload : Ends (BlockDocument.load p) v (.ok (blocks, issues)) v₁ :=
                hread.bind (hcounted.bind (ends_pure _ v₁))
              simp only [loaded, hfound, hp, hdocument, bind, Except.bind, pure, Except.pure]
              have hdone := ends_pure (override request found, blocks, issues) v₃
              exact ⟨v₃, hconfig.bind (hnote.bind ((ends_ofExcept hp v).bind (hload.bind
                (hissues.bind (hprocessing.bind hdone)))))⟩

/-- What was loaded is the settings of the files with those of the request in their place. -/
theorem of_loaded
    {t : Tree}
    (h : loaded env request root t = .ok (config, blocks, issues)) :
    ∃ found, Config.loadIn root t = .ok found ∧ config = override request found := by
  simp only [loaded, bind, Except.bind, pure, Except.pure] at h
  split at h
  · cases h
  · rename_i found hfound
    split at h
    · cases h
    · split at h
      · cases h
      · cases h
        exact ⟨found, hfound, rfl⟩

end Build
end NamespaceManifest
