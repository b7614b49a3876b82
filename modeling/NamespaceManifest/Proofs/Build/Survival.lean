import NamespaceManifest.Proofs.Build.Rebuild
import NamespaceManifest.Proofs.Directive.ImportLine
import Mathlib.Data.List.Infix

/-!
# What an import pass keeps of an earlier build

An import pass over a manifest of the writer replaces the imports and keeps the other lines, but it knows
only lines: those that it keeps are sorted again, one by one.  So an entry of an earlier build stays
together through every import pass exactly if it has no more than one line (`entry_survives_iff`).  The
lines of a longer entry are torn apart by suitable imports, or even by none
(`preprocess_tears_evaluated_entry`).
-/

namespace NamespaceManifest

open Directive Work

/-! ## One import pass -/

/-- The run of an import pass does not depend on the stage of the compiler. -/
theorem Compiler.run_preprocess
    (c : Compiler) (blocks : List Block) (s : Workspace) :
    (c.preprocess blocks s).2 = importPass c.writer c.path blocks s := by
  unfold Compiler.preprocess
  cases compile importKinds none blocks <;> rfl

/-- The lines that an import pass leaves of a file of the writer. -/
theorem body_of_importPass
    {w : Writer} {s : Workspace} {p : Path} {f : File} {blocks : List Block} {pass : Pass}
    (hw : w.Marked)
    (hv : Writer.isValidName p.name = true)
    (h : s.Holds p (some f))
    (howns : w.owns f = true)
    (hpass : compile importKinds none blocks = .ok pass) :
    ∃ g, (importPass w p blocks s).workspace.tree.open? p = .ok (some g) ∧
      w.bodyOf g = Text.physicalLines (mergeImports pass.lines (w.bodyOf f)) := by
  obtain ⟨written, u, g, hend, hg, hbody⟩ := importPass_of_owned hw hv h howns hpass
  refine ⟨g, ?_, hbody⟩
  rw [hend.2]
  exact hg.opened

namespace Directive

open Text

theorem isImportLine_of_lines
    {e l : String}
    (hlines : lines e = [l])
    (hline : isImportLine e = false) :
    isImportLine l = false := by
  have hprefix : l.toList <+: e.toList := by
    cases hcut : linesOf e.toList with
    | nil =>
        simp [lines, hcut] at hlines
    | cons m ms =>
        simp only [lines, hcut, List.map_cons, List.cons.injEq] at hlines
        rw [← hlines.1, String.toList_ofList]
        exact head_prefix hcut
  rw [Bool.eq_false_iff]
  intro himport
  rw [isImportLine_of_start hprefix himport] at hline
  cases hline

/-- A merged line is laid out, unless it is empty and the only one. -/
theorem mem_physicalLines_mergeImports
    {imports body : List String} {l : String}
    (hl : l ∈ mergeImports imports body)
    (hunbroken : Unbroken l.toList)
    (hne : l = "" → mergeImports imports body ≠ [""]) :
    l ∈ physicalLines (mergeImports imports body) := by
  by_cases hempty : l = ""
  · subst hempty
    obtain ⟨before, after, hmerged⟩ := List.append_of_mem hl
    have hlast := getLast?_ne_empty (pairwise_mergeImports imports body) (hne rfl)
    rw [hmerged] at hlast ⊢
    rw [physicalLines_append_cons]
    cases after with
    | nil =>
        simp at hlast
    | cons d after =>
        rw [physicalLines_cons_cons, laidOut_unbroken hunbroken]
        simp
  · have hinfix := lines_infix_physicalLines hl
    rw [lines_unbroken hunbroken hempty] at hinfix
    exact hinfix.subset (by simp)

/-- An entry that no import pass over a body tears apart: it has one line at most, and if that is the
empty line, then something else in the body keeps it from the end. -/
def Lasting (body : List String) (e : String) : Prop :=
  lines e = [] ∨
    ∃ l, lines e = [l] ∧ (l = "" → ∃ m ∈ body, m ≠ "" ∧ isImportLine m = false)

/-- A lasting entry is there after a merge. -/
theorem lines_infix_mergeImports
    {imports body : List String} {e : String}
    (hi : imports.Pairwise (· < ·))
    (hbody : ∀ l ∈ body, Unbroken l.toList)
    (he : lines e ⊆ body)
    (hline : isImportLine e = false)
    (hlasting : Lasting body e) :
    lines e <:+: physicalLines (mergeImports imports body) := by
  rcases hlasting with hlines | ⟨l, hlines, hempty⟩
  · rw [hlines]
    exact List.nil_infix
  · have hl : l ∈ body := he (by simp [hlines])
    rw [hlines, List.singleton_infix_iff]
    by_cases hfresh : l ∈ physicalLines imports
    · exact physicalLines_subset_mergeImports hi body hfresh
    · have hmem : l ∈ mergeImports imports body :=
        mem_mergeImports.mpr (Or.inr ⟨hl, hfresh, isImportLine_of_lines hlines hline⟩)
      refine mem_physicalLines_mergeImports hmem (hbody l hl) ?_
      rintro rfl hmerged
      obtain ⟨m, hm, hne, hmline⟩ := hempty rfl
      -- the other line is kept, or there are imports
      have hother : ∃ d ∈ mergeImports imports body, d ≠ "" := by
        by_cases hmfresh : m ∈ physicalLines imports
        · obtain ⟨d, hd, hmd⟩ := exists_mem_laidOut hmfresh
          refine ⟨d, subset_mergeImports imports body hd, ?_⟩
          rintro rfl
          have hlaid : laidOut "" = [""] := by decide
          rw [hlaid] at hmd
          exact hne (by simpa using hmd)
        · exact ⟨m, mem_mergeImports.mpr (Or.inr ⟨hm, hmfresh, hmline⟩), hne⟩
      obtain ⟨d, hd, hdne⟩ := hother
      rw [hmerged] at hd
      exact hdne (by simpa using hd)

/-- A line that is longer than two others and neither starts nor ends with a blank. -/
def longer (a b : String) : String :=
  "x" ++ a ++ b ++ "x"

theorem length_longer
    (a b : String) :
    (longer a b).length = a.length + b.length + 2 := by
  have hx : "x".length = 1 := by decide
  simp only [longer, String.length_append, hx]
  omega

theorem unbroken_longer
    {a b : String}
    (ha : Unbroken a.toList)
    (hb : Unbroken b.toList) :
    Unbroken (longer a b).toList := by
  have hx : Unbroken "x".toList := isSingleLine_iff.mp (by decide)
  simp only [longer, String.toList_append, unbroken_append]
  exact ⟨⟨⟨hx, ha⟩, hb⟩, hx⟩

/-- An entry that has a line between two others. -/
def between (outer inner : String) : String :=
  "\n".intercalate [outer, inner, outer]

theorem lines_between
    {outer inner : String}
    (houter : Unbroken outer.toList)
    (hinner : Unbroken inner.toList)
    (hne : outer ≠ "") :
    lines (between outer inner) = [outer, inner, outer] := by
  have hends : ∀ e ∈ [outer, inner, outer].getLast?, EndsInText e := by
    rintro e ⟨⟩
    exact endsInText_of_unbroken houter hne
  calc lines (between outer inner)
      = [outer, inner, outer].flatMap laidOut := physicalLines_eq_flatMap_laidOut hends
    _ = [outer, inner, outer] := by
        simp [laidOut_unbroken houter, laidOut_unbroken hinner]

theorem endsInText_between
    {outer : String}
    (houter : EndsInText outer)
    (inner : String) :
    EndsInText (between outer inner) := by
  obtain ⟨c, hlast, hc⟩ := houter
  refine ⟨c, ?_, hc⟩
  have hsplit : (between outer inner).toList =
      (outer.toList ++ '\n' :: inner.toList ++ ['\n']) ++ outer.toList := by
    simp [between, String.intercalate_cons_cons]
  rw [hsplit, List.getLast?_append, hlast]
  rfl

/-- A single import stands in the merged body with its lines together, and none of them is elsewhere. -/
theorem physicalLines_mergeImports_singleton
    {body : List String} {e : String}
    (hbody : ∀ l ∈ body, Unbroken l.toList)
    (he : EndsInText e) :
    ∃ before after, physicalLines (mergeImports [e] body) = before ++ lines e ++ after ∧
      ∀ l ∈ before ++ after, l ∉ lines e := by
  have hin : e ∈ mergeImports [e] body :=
    subset_mergeImports [e] body (by simp)
  obtain ⟨before, after, hmerged⟩ := List.append_of_mem hin
  have hnodup : (before ++ e :: after).Nodup := by
    rw [← hmerged]
    exact (pairwise_mergeImports [e] body).imp ne_of_lt
  have hkept : ∀ l ∈ before ++ after, Unbroken l.toList ∧ l ∉ lines e := by
    intro l hl
    have hne : l ≠ e := by
      rintro rfl
      exact (List.nodup_middle.mp hnodup).notMem hl
    have hmem : l ∈ mergeImports [e] body := by
      rw [hmerged]
      simp only [List.mem_append, List.mem_cons] at hl ⊢
      tauto
    rcases mem_mergeImports.mp hmem with heq | ⟨hkept, hfresh, -⟩
    · exact absurd (List.mem_singleton.mp heq) hne
    · rw [physicalLines_singleton] at hfresh
      exact ⟨hbody l hkept, hfresh⟩
  refine ⟨before, physicalLines after, ?_, ?_⟩
  · have hbefore : before.flatMap laidOut = before :=
      flatMap_laidOut_eq_self fun l hl => (hkept l (List.mem_append_left _ hl)).1
    rw [hmerged, physicalLines_append_cons, physicalLines_cons he, hbefore, List.append_assoc]
  · intro l hl
    rcases List.mem_append.mp hl with hl | hl
    · exact (hkept l (List.mem_append_left _ hl)).2
    · obtain ⟨d, hd, hlaid⟩ := exists_mem_laidOut hl
      obtain ⟨hunbroken, hfresh⟩ := hkept d (List.mem_append_right _ hd)
      rw [laidOut_unbroken hunbroken] at hlaid
      rwa [List.mem_singleton.mp hlaid]

/-- Two lines that follow each other do so no more after a merge with a suitable import. -/
theorem not_infix_mergeImports
    {body ls : List String} {a b : String}
    (hbody : ∀ l ∈ body, Unbroken l.toList)
    (ha : Unbroken a.toList)
    (hb : Unbroken b.toList) :
    ¬ a :: b :: ls <:+: physicalLines (mergeImports [between (longer a b) a] body) := by
  have hlength := length_longer a b
  have hempty : longer a b ≠ "" := by
    intro heq
    rw [heq] at hlength
    simp at hlength
  have houter := unbroken_longer ha hb
  have hlines := lines_between houter ha hempty
  have hneither : a ≠ longer a b ∧ longer a b ≠ b := by
    constructor
    · intro heq
      rw [← heq] at hlength
      omega
    · intro heq
      rw [heq] at hlength
      omega
  obtain ⟨before, after, hlaid, hout⟩ :=
    physicalLines_mergeImports_singleton hbody
      (endsInText_between (endsInText_of_unbroken houter hempty) a)
  rw [hlines] at hlaid hout
  rw [hlaid]
  rintro ⟨xs, ys, heq⟩
  -- the line is there once, between two others
  have hleft : a ∉ before ++ [longer a b] := by
    intro hmem
    rcases List.mem_append.mp hmem with hmem | hmem
    · exact hout a (List.mem_append_left _ hmem) (by simp)
    · exact hneither.1 (List.mem_singleton.mp hmem)
  have hright : a ∉ longer a b :: after := by
    intro hmem
    rcases List.mem_cons.mp hmem with hmem | hmem
    · exact hneither.1 hmem
    · exact hout a (List.mem_append_right _ hmem) (by simp)
  have hsame : (before ++ [longer a b]) ++ a :: (longer a b :: after) =
      xs ++ a :: (b :: ls ++ ys) := by
    simpa using heq.symm
  obtain ⟨-, -, htail⟩ := (List.append_cons_inj_of_notMem hleft hright).mp hsame
  exact hneither.2 (List.cons.inj htail).1

theorem exists_compile_nil :
    ∃ pass, compile importKinds none [] = .ok pass ∧ pass.lines = [] := by
  obtain ⟨pass, hpass⟩ := exists_imports none []
  refine ⟨pass, hpass, List.eq_nil_iff_forall_not_mem.mpr ?_⟩
  intro l hl
  obtain ⟨block, hblock, -⟩ := (mem_lines_iff hpass).mp hl
  cases hblock

/-- A block with a raw directive. -/
def rawBlock (text : String) : Block :=
  { tags := [{ name := Kind.rawNamespace.tag, value := .code text }] }

/-- Every text is an import of some block. -/
theorem exists_compile_rawBlock
    (text : String) :
    ∃ pass, compile importKinds none [rawBlock text] = .ok pass ∧ pass.lines = [text] := by
  obtain ⟨pass, hpass⟩ := exists_imports none [rawBlock text]
  refine ⟨pass, hpass, ?_⟩
  have hkind : Kind.ofTag? Kind.rawNamespace.tag = some .rawNamespace := by
    decide
  refine eq_of_pairwise_of_mem_iff (pairwise_lines hpass) (List.pairwise_singleton _ text) ?_
  intro l
  rw [mem_lines_iff hpass, List.mem_singleton]
  constructor
  · rintro ⟨block, hblock, tag, htag, kind, hk, -, r, hr, hl⟩
    obtain rfl := List.mem_singleton.mp hblock
    obtain rfl := List.mem_singleton.mp htag
    obtain rfl : Kind.rawNamespace = kind := Option.some.inj (hkind.symm.trans hk)
    cases hr
    exact List.mem_singleton.mp hl
  · rintro rfl
    exact ⟨rawBlock l, by simp, _, List.mem_singleton.mpr rfl, .rawNamespace, hkind, rfl, _, rfl,
      List.mem_singleton.mpr rfl⟩

/-- Lines in strict order that are all empty are nothing once they are laid out. -/
theorem physicalLines_of_forall_empty
    {ls : List String}
    (hsorted : ls.Pairwise (· < ·))
    (h : ∀ l ∈ ls, l = "") :
    physicalLines ls = [] := by
  cases ls with
  | nil =>
      rfl
  | cons a ls =>
      obtain rfl := h a (by simp)
      cases ls with
      | nil =>
          decide
      | cons b ls =>
          obtain rfl := h b (by simp)
          exact absurd ((List.pairwise_cons.mp hsorted).1 "" (by simp)) (lt_irrefl _)

/-- An entry that no merge with imports tears apart is lasting. -/
theorem lasting_of_infix
    {body : List String} {e : String}
    (hbody : ∀ l ∈ body, Unbroken l.toList)
    (hnone : lines e <:+: physicalLines (mergeImports [] body))
    (hraw : ∀ text, lines e <:+: physicalLines (mergeImports [text] body)) :
    Lasting body e := by
  cases hlines : lines e with
  | nil =>
      exact Or.inl hlines
  | cons a ls =>
      cases ls with
      | nil =>
          refine Or.inr ⟨a, hlines, ?_⟩
          rintro rfl
          by_contra hempty
          have hmerged : ∀ l ∈ mergeImports [] body, l = "" := by
            intro l hl
            rcases mem_mergeImports.mp hl with hmem | ⟨hkept, -, hline⟩
            · cases hmem
            · by_contra hne
              exact hempty ⟨l, hkept, hne, hline⟩
          rw [hlines, List.singleton_infix_iff,
            physicalLines_of_forall_empty (pairwise_mergeImports [] body) hmerged] at hnone
          cases hnone
      | cons b ls =>
          have ha : Unbroken a.toList := unbroken_of_mem_lines (s := e) (by simp [hlines])
          have hb : Unbroken b.toList := unbroken_of_mem_lines (s := e) (by simp [hlines])
          rw [hlines] at hraw
          exact absurd (hraw _) (not_infix_mergeImports hbody ha hb)

end Directive

namespace Build

variable {env : Environment} {request : BuildRequest} {config : Config} {blocks : List Block}
variable {issues : List Issue} {s : Workspace} {o : BuildOutcome} {f : File}

/-- The lines that an import pass leaves of what a build left to the writer. -/
theorem Built.body_of_preprocess
    {imports full pass : Pass} {blocks' : List Block}
    (hw : config.writer.Marked)
    (hbuilt : Built env request config blocks imports full f s)
    (howns : config.writer.owns f = true)
    (stage : Stage)
    (hpass : compile importKinds none blocks' = .ok pass) :
    ∃ g,
      (Compiler.preprocess ⟨config.manifestPath, config.writer, stage⟩ blocks'
        s).2.workspace.tree.open? config.manifestPath = .ok (some g) ∧
      config.writer.bodyOf g =
        Text.physicalLines (mergeImports pass.lines (Text.physicalLines full.lines)) := by
  rw [Compiler.run_preprocess, ← hbuilt.body]
  exact body_of_importPass hw hbuilt.valid hbuilt.holds howns hpass

/-- After a full build that left a manifest of the writer, an entry that is no import stays together
through every import pass exactly if it is lasting. -/
theorem entry_survives_iff
    (hdry : request.dryRun = false)
    (honly : request.importsOnly = false)
    (hmarker : Text.isSingleLine config.marker = true)
    (hlogs : s.LogsApart config.manifestPath)
    (h : (ofBlocks env request config blocks issues s).outcome = .ok o)
    (hfile : (ofBlocks env request config blocks issues s).workspace.tree.open?
      config.manifestPath = .ok (some f))
    (howns : config.writer.owns f = true)
    (stage : Stage) :
    ∃ evaluator full,
      evaluatorFor env request config = .ok evaluator ∧
      compile allKinds evaluator blocks = .ok full ∧
      ∀ e ∈ full.lines, isImportLine e = false →
        ((∀ blocks', ∃ g,
            (Compiler.preprocess ⟨config.manifestPath, config.writer, stage⟩ blocks'
              (ofBlocks env request config blocks issues s).workspace).2.workspace.tree.open?
                config.manifestPath = .ok (some g) ∧
            Text.physicalLines [e] <:+: config.writer.bodyOf g)
          ↔
        Lasting (Text.physicalLines full.lines) e) := by
  have hw := Writer.marked_ofMarker hmarker
  have hend : Ends (ofBlocks env request config blocks issues) s (.ok o) _ := ⟨h, rfl⟩
  obtain ⟨imports, full, g, hbuilt⟩ := built_of_ofBlocks hw hdry honly hlogs hend
  obtain rfl : f = g := by
    have heq := hfile.symm.trans hbuilt.holds.opened
    simpa using heq
  obtain ⟨evaluator, hevaluator, hcompile⟩ := hbuilt.resolves
  have hbody : ∀ l ∈ Text.physicalLines full.lines, Text.Unbroken l.toList :=
    fun l hl => Text.unbroken_of_mem_physicalLines hl
  refine ⟨evaluator, full, hevaluator, hcompile, ?_⟩
  intro e he hline
  rw [Text.physicalLines_singleton]
  constructor
  · intro hsurvives
    have hmerged : ∀ blocks' pass, compile importKinds none blocks' = .ok pass →
        Text.lines e <:+:
          Text.physicalLines (mergeImports pass.lines (Text.physicalLines full.lines)) := by
      intro blocks' pass hcompile'
      obtain ⟨g, hg, hinfix⟩ := hsurvives blocks'
      obtain ⟨g', hg', hbodyg⟩ := hbuilt.body_of_preprocess hw howns stage hcompile'
      obtain rfl : g = g' := by
        have heq := hg.symm.trans hg'
        simpa using heq
      rwa [hbodyg] at hinfix
    refine lasting_of_infix hbody ?_ ?_
    · obtain ⟨pass, hcompile', hlines⟩ := exists_compile_nil
      rw [← hlines]
      exact hmerged [] pass hcompile'
    · intro text
      obtain ⟨pass, hcompile', hlines⟩ := exists_compile_rawBlock text
      rw [← hlines]
      exact hmerged [rawBlock text] pass hcompile'
  · intro hlasting blocks'
    obtain ⟨pass, hcompile'⟩ := exists_imports none blocks'
    obtain ⟨g, hg, hbodyg⟩ := hbuilt.body_of_preprocess hw howns stage hcompile'
    refine ⟨g, hg, ?_⟩
    rw [hbodyg]
    exact lines_infix_mergeImports (pairwise_lines hcompile') hbody
      (Text.lines_infix_physicalLines he).subset hline hlasting

/-- A manifest of the usual writer with some text after the marker. -/
def markedFile (text : String) : File :=
  ⟨(Writer.defaultMarker ++ "\n" ++ text).toUTF8, 0o644⟩

theorem owns_markedFile
    (text : String) :
    plainConfig.writer.owns (markedFile text) = true := by
  have hmarker : Text.Unbroken Writer.defaultMarker.toList :=
    Text.isSingleLine_iff.mp (by decide)
  rw [Writer.owns, Writer.claims_iff, Writer.firstLine, String.toList_ofList, Writer.textOf, markedFile,
    Text.Utf8.readLossy_toUTF8, String.toList_append, String.toList_append, List.append_assoc,
    Text.foldNewlines_append hmarker, List.takeWhile_append_of_pos hmarker.ne_newline]
  exact (Writer.signatureOf_prefix _).trans (List.prefix_append _ _)

/-- The workspace after a build of a fragment that is evaluated to a text. -/
def evaluatedModule (text : String) : Workspace :=
  (ofBlocks plainEnvironment (evaluatingTo text) plainConfig evaluatedBlocks []
    emptyModule).workspace

theorem ofBlocks_emptyModule :
    (ofBlocks plainEnvironment (evaluatingTo "b\na") plainConfig evaluatedBlocks []
      emptyModule).outcome =
        .ok
          { path := plainConfig.manifestPath
            lines := ["b\na"]
            issues := []
            written := true } ∧
    (evaluatedModule "b\na").tree.open? plainConfig.manifestPath =
      .ok (some (markedFile "b\na\n")) := by
  decide +kernel

theorem entry_survives_iff_of_evaluatedModule :
    (evaluatedModule "b\na").tree.open? plainConfig.manifestPath =
      .ok (some (markedFile "b\na\n")) ∧
    plainConfig.writer.owns (markedFile "b\na\n") = true ∧
    ∃ evaluator full,
      evaluatorFor plainEnvironment (evaluatingTo "b\na") plainConfig = .ok evaluator ∧
      compile allKinds evaluator evaluatedBlocks = .ok full ∧
      ∀ e ∈ full.lines, isImportLine e = false →
        ((∀ blocks', ∃ g,
            (Compiler.preprocess ⟨plainConfig.manifestPath, plainConfig.writer, .complete⟩ blocks'
              (evaluatedModule "b\na")).2.workspace.tree.open?
                plainConfig.manifestPath = .ok (some g) ∧
            Text.physicalLines [e] <:+: plainConfig.writer.bodyOf g)
          ↔
        Lasting (Text.physicalLines full.lines) e) := by
  have hlogs : emptyModule.LogsApart plainConfig.manifestPath := by
    rintro j ⟨⟩
  have hmarker : Text.isSingleLine plainConfig.marker = true := by
    decide
  obtain ⟨h, hfile⟩ := ofBlocks_emptyModule
  exact ⟨hfile, owns_markedFile _,
    entry_survives_iff rfl rfl hmarker hlogs h hfile (owns_markedFile _) .complete⟩

/-- The two lines of an evaluated text are sorted by an import pass without any imports. -/
theorem preprocess_tears_evaluated_entry :
    isImportLine "b\na" = false ∧
    (∃ o,
      (ofBlocks plainEnvironment (evaluatingTo "b\na") plainConfig evaluatedBlocks []
        emptyModule).outcome = .ok o ∧
      o.lines = ["b\na"]) ∧
    (evaluatedModule "b\na").tree.open? plainConfig.manifestPath =
      .ok (some (markedFile "b\na\n")) ∧
    plainConfig.writer.owns (markedFile "b\na\n") = true ∧
    ∃ g,
      (Compiler.preprocess ⟨plainConfig.manifestPath, plainConfig.writer, .complete⟩ []
        (evaluatedModule "b\na")).2.workspace.tree.open? plainConfig.manifestPath =
          .ok (some g) ∧
      plainConfig.writer.bodyOf g = ["a", "b"] ∧
      ¬ Text.physicalLines ["b\na"] <:+: plainConfig.writer.bodyOf g := by
  obtain ⟨h, hfile⟩ := ofBlocks_emptyModule
  have hmarker : Text.isSingleLine plainConfig.marker = true := by
    decide
  have hw := Writer.marked_ofMarker hmarker
  refine ⟨by decide, ⟨_, h, rfl⟩, hfile, owns_markedFile _, ?_⟩
  have hlogs : emptyModule.LogsApart plainConfig.manifestPath := by
    rintro j ⟨⟩
  obtain ⟨_, _, _, hbuilt⟩ := built_of_ofBlocks hw rfl rfl hlogs ⟨h, rfl⟩
  obtain ⟨pass, hpass, hlines⟩ := exists_compile_nil
  obtain ⟨g, hg, hbody⟩ :=
    body_of_importPass hw (by decide) ⟨hfile, hbuilt.holds.apart⟩ (owns_markedFile _) hpass
  have hold : plainConfig.writer.bodyOf (markedFile "b\na\n") = ["b", "a"] := by
    rfl
  have hmerged : mergeImports [] ["b", "a"] = ["a", "b"] := by
    refine eq_of_pairwise_of_mem_iff (pairwise_mergeImports [] _) (by decide) ?_
    intro l
    rw [mem_mergeImports]
    constructor
    · rintro (hmem | ⟨hmem, -, -⟩)
      · cases hmem
      · simpa [or_comm] using hmem
    · intro hmem
      have hline : ∀ m ∈ ["a", "b"], isImportLine m = false := by
        decide
      exact Or.inr ⟨by simpa [or_comm] using hmem, by simp, hline l hmem⟩
  have hnew : plainConfig.writer.bodyOf g = ["a", "b"] := by
    rw [hbody, hlines, hold, hmerged]
    decide
  refine ⟨g, ?_, hnew, ?_⟩
  · rw [Compiler.run_preprocess]
    exact hg
  · rw [hnew]
    decide

end Build

end NamespaceManifest
