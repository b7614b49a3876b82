import NamespaceManifest.Proofs.Block.Document
import NamespaceManifest.Proofs.Directive.Pass
import NamespaceManifest.Proofs.Directive.Resolve

/-!
# Directives on a single line

The words of a tag hold no line break, so the directives made of them are single lines.  A name that a tag
borrows from its block is any text.  It reaches the directive through one of three gates, and
`Name.StaysOnLine` says what each of them lets through:

* a name that comes with quotes is copied, with all its breaks;
* a syntactic name is copied too, and it may end in a line feed;
* every other name becomes a literal, in which a line feed and a carriage return are escaped, but none of the
  other breaks is.

The directives of a tag are single lines exactly if all borrowed names stay on their lines.  If no tag holds
code, this is what it takes for the lines of a pass to be laid out as they are
(`singleLine_iff_of_document`).
-/

namespace NamespaceManifest

open Text

/-! ## Literals -/

namespace Text.Quoted

/-- The escapes of a literal leave other breaks than line feeds and carriage returns. -/
theorem unbroken_escape
    {s : List Char} :
    Unbroken (escape s) ↔ ∀ c ∈ s, isLineBreak c = true → c = '\n' ∨ c = '\r' := by
  induction s with
  | nil =>
      simp [escape, Unbroken]
  | cons c s ih =>
      have hchar : Unbroken (escapeChar c) ↔ (isLineBreak c = true → c = '\n' ∨ c = '\r') := by
        unfold escapeChar
        split
        · subst c
          decide
        · split
          · subst c
            decide
          · split
            · subst c
              decide
            · split
              · subst c
                decide
              · rename_i hfeed _ hreturn
                simp [Unbroken, hfeed, hreturn]
      rw [escape, List.flatMap_cons, unbroken_append, hchar, List.forall_mem_cons]
      exact and_congr_right fun _ => ih

theorem unbroken_markAfter
    {pattern s : List Char} {n : Nat} :
    Unbroken (markAfter pattern n s) ↔ Unbroken s := by
  fun_induction markAfter pattern n s with
  | case1 =>
      exact Iff.rfl
  | case2 c s n ih =>
      rw [unbroken_cons, unbroken_cons, ih]
  | case3 c s h ih =>
      have hslash : isLineBreak '\\' = false := by decide
      rw [unbroken_cons, unbroken_cons, unbroken_cons, ih]
      simp [hslash]
  | case4 c s h ih =>
      rw [unbroken_cons, unbroken_cons, ih]

theorem unbroken_encode
    {s quote : String}
    (hquote : Unbroken quote.toList)
    (hne : quote ≠ "") :
    Unbroken (encode s quote).toList ↔
      ∀ c ∈ s.toList, isLineBreak c = true → c = '\n' ∨ c = '\r' := by
  have hmark : mark quote.toList (escape s.toList) = markAfter quote.toList 0 (escape s.toList) := by
    simp [mark, hne]
  rw [encode, String.toList_ofList, encodeChars, hmark, unbroken_append, unbroken_append,
    unbroken_markAfter, unbroken_escape]
  simp [hquote]

end Text.Quoted

namespace Directive

open BlockDocument

/-! ## Names -/

namespace Name

theorem isNameChar_of_isLineBreak
    {c : Char}
    (h : isLineBreak c = true) :
    isNameChar c = false ∧ isWordStart c = false := by
  have hbreaks : ∀ n ∈ [0x0A, 0x0B, 0x0C, 0x0D, 0x1C, 0x1D, 0x1E, 0x85, 0x2028, 0x2029],
      isNameChar (Char.ofNat n) = false ∧ isWordStart (Char.ofNat n) = false := by
    decide +kernel
  have hmem : c.toNat ∈ [0x0A, 0x0B, 0x0C, 0x0D, 0x1C, 0x1D, 0x1E, 0x85, 0x2028, 0x2029] := by
    simp only [isLineBreak, Bool.or_eq_true, Bool.and_eq_true, decide_eq_true_eq,
      beq_iff_eq] at h
    simp only [List.mem_cons, List.not_mem_nil, or_false]
    omega
  simpa using hbreaks c.toNat hmem

theorem unbroken_of_isIdentifier
    {s : List Char}
    (h : isIdentifier s = true) :
    Unbroken s := by
  cases s with
  | nil =>
      cases h
  | cons c s =>
      simp only [isIdentifier, Bool.and_eq_true, Bool.or_eq_true, List.all_eq_true] at h
      obtain ⟨hfirst, hrest⟩ := h
      rw [unbroken_cons]
      constructor
      · by_contra hbreak
        obtain ⟨hname, hstart⟩ := isNameChar_of_isLineBreak (Bool.of_not_eq_false hbreak)
        rw [hstart] at hfirst
        rcases hfirst with hfirst | ⟨hdot, -⟩
        · cases hfirst
        · simp [isNameChar, hdot] at hname
      · intro d hd
        by_contra hbreak
        have hname := (isNameChar_of_isLineBreak (Bool.of_not_eq_false hbreak)).1
        rw [hrest d hd] at hname
        cases hname

/-- A syntactic name is broken only by a line feed at its end. -/
theorem unbroken_iff_of_isSyntactic
    {name : String}
    (h : isSyntactic name = true) :
    Unbroken name.toList ↔ name.toList.getLast? ≠ some '\n' := by
  have hfeed : isLineBreak '\n' = true := by decide
  constructor
  · intro hunbroken hlast
    have := hunbroken '\n' (List.mem_of_getLast? hlast)
    rw [hfeed] at this
    cases this
  · intro hlast
    have hidentifier : holdsUpToNewline isIdentifier name.toList = true := by
      simp only [isSyntactic, Bool.and_eq_true] at h
      exact h.2
    refine unbroken_of_isIdentifier ?_
    rwa [holdsUpToNewline_of_ne hlast] at hidentifier

/-- A name that does not break the line of a directive. -/
def StaysOnLine (name : String) : Prop :=
  if hasQuotes name then Unbroken name.toList
  else if isSyntactic name then name.toList.getLast? ≠ some '\n'
  else ∀ c ∈ name.toList, isLineBreak c = true → c = '\n' ∨ c = '\r'

instance (name : String) : Decidable (StaysOnLine name) :=
  have : Decidable (∀ c ∈ name.toList, isLineBreak c = true → c = '\n' ∨ c = '\r') :=
    List.decidableBAll _ _
  inferInstanceAs (Decidable (ite _ _ (ite _ _ _)))

theorem unbroken_quoteWith
    {quote name : String}
    (hquote : Unbroken quote.toList)
    (hne : quote ≠ "") :
    Unbroken (quoteWith quote name).toList ↔ StaysOnLine name := by
  unfold quoteWith StaysOnLine
  by_cases hquotes : hasQuotes name = true
  · simp [hquotes]
  · by_cases hsyntactic : isSyntactic name = true
    · simp only [hquotes, hsyntactic, Bool.or_true, if_true, Bool.false_eq_true, if_false]
      exact unbroken_iff_of_isSyntactic hsyntactic
    · simp only [hquotes, hsyntactic, Bool.or_self, Bool.false_eq_true, if_false]
      exact Quoted.unbroken_encode hquote hne

@[simp] theorem unbroken_autoBacktick
    {name : String} :
    Unbroken (autoBacktick name).toList ↔ StaysOnLine name :=
  unbroken_quoteWith (by decide) (by decide)

@[simp] theorem unbroken_autoQuote
    {name : String} :
    Unbroken (autoQuote name).toList ↔ StaysOnLine name :=
  unbroken_quoteWith (by decide) (by decide)

theorem StaysOnLine.of_unbroken
    {name : String}
    (h : Unbroken name.toList) :
    StaysOnLine name := by
  unfold StaysOnLine
  split
  · exact h
  · split
    · rename_i hsyntactic
      exact (unbroken_iff_of_isSyntactic hsyntactic).mp h
    · intro c hc hbreak
      rw [h c hc] at hbreak
      cases hbreak

theorem StaysOnLine.of_isWord
    {w : String}
    (h : IsWord w) :
    StaysOnLine w :=
  .of_unbroken h.unbroken

end Name

open Name

/-! ## Directives -/

theorem unbroken_line
    {directive arguments : String} :
    Unbroken (line directive arguments).toList ↔
      Unbroken directive.toList ∧ Unbroken arguments.toList := by
  have hopen : isLineBreak '(' = false := by decide
  have hclose : Unbroken [')'] := by decide
  simp [line, unbroken_append, unbroken_cons, hopen, hclose]

theorem unbroken_pair
    {first second : String} :
    Unbroken (autoBacktick first ++ "," ++ autoBacktick second).toList ↔
      StaysOnLine first ∧ StaysOnLine second := by
  have hcomma : isLineBreak ',' = false := by decide
  simp [unbroken_append, unbroken_cons, hcomma]

theorem unbroken_onePerLine
    {directive : String} {names : List String}
    (hdirective : Unbroken directive.toList) :
    (∀ l ∈ onePerLine directive names, Unbroken l.toList) ↔ ∀ name ∈ names, StaysOnLine name := by
  simp [onePerLine, unbroken_line, hdirective]

theorem unbroken_s3Method
    {generic className : String} :
    Unbroken (s3Method generic className).toList ↔
      StaysOnLine generic ∧ StaysOnLine className := by
  have hdirective : Unbroken "S3method".toList := by decide
  rw [s3Method, unbroken_line, unbroken_pair, and_iff_right hdirective]

theorem unbroken_repeatFirst
    {directive l : String} {items : List String}
    (hdirective : Unbroken directive.toList)
    (hitems : ∀ w ∈ items, IsWord w)
    (hl : l ∈ repeatFirst directive items) :
    Unbroken l.toList := by
  cases items with
  | nil =>
      cases hl
  | cons first names =>
      obtain ⟨name, hname, rfl⟩ := List.mem_map.mp hl
      rw [unbroken_line, unbroken_pair]
      refine ⟨hdirective, .of_isWord (hitems first (by simp)), .of_isWord (hitems name ?_)⟩
      exact List.mem_cons_of_mem first hname

theorem unbroken_libraryLines
    {value : TagValue} {l : String}
    (hwords : ∀ w ∈ value.toWords, IsWord w)
    (hl : l ∈ libraryLines value) :
    Unbroken l.toList := by
  have hdirective : Unbroken "useDynLib".toList := by decide
  unfold libraryLines at hl
  split at hl
  · cases hl
  · rename_i library hlibrary
    obtain rfl := List.mem_singleton.mp hl
    rw [unbroken_line, unbroken_autoQuote]
    exact ⟨hdirective, .of_isWord (hwords library (by simp [hlibrary]))⟩
  · split at hl
    · obtain rfl := List.mem_singleton.mp hl
      rw [unbroken_line]
      exact ⟨hdirective, unbroken_intercalate hwords⟩
    · exact unbroken_repeatFirst hdirective hwords hl

/-! ## Names of a block -/

/-- The names that a bare export takes from its block. -/
def exportedNames (block : Block) : List String :=
  match block.object with
  | none => (presentText? block.name).toList
  | some (.plain name exportName) => [(presentText? exportName).getD name]
  | some (.formalClass className) => [className]
  | some (.formalGeneric generic) => [generic]
  | some (.formalMethod generic) => [generic]
  | some (.conventionMethod generic className) => [generic, className]
  | some (.recordClass className) => [className]

/-- The names that a bare method export takes from its block. -/
def methodNames (block : Block) : List String :=
  match block.object with
  | some (.conventionMethod generic className) => [generic, className]
  | _ => []

/-- The names that a tag takes from its block: those that its words leave open. -/
def borrowedNames (block : Block) (value : TagValue) : Kind → List String
  | .exports => if value.toWords = [] then exportedNames block else []
  | .exportS3Method => (methodNames block).drop value.toWords.length
  | _ => []

theorem unbroken_defaultExport
    {block : Block} :
    (∀ l ∈ (defaultExport block).lines, Unbroken l.toList) ↔
      ∀ name ∈ exportedNames block, StaysOnLine name := by
  unfold defaultExport exportedNames
  cases block.object with
  | none =>
      cases presentText? block.name with
      | none => simp [Resolution.complain]
      | some name => exact unbroken_onePerLine (by decide)
  | some object =>
      cases object with
      | conventionMethod generic className =>
          simp [Resolution.ofLines, unbroken_s3Method]
      | plain | formalClass | formalGeneric | formalMethod | recordClass =>
          exact unbroken_onePerLine (by decide)

theorem unbroken_resolveExport
    {block : Block} {value : TagValue}
    (hwords : ∀ w ∈ value.toWords, IsWord w) :
    (∀ l ∈ (resolveExport block value).lines, Unbroken l.toList) ↔
      ∀ name ∈ borrowedNames block value .exports, StaysOnLine name := by
  unfold resolveExport borrowedNames
  split
  · rename_i hnone
    rw [if_pos hnone]
    exact unbroken_defaultExport
  · rename_i hsome
    rw [if_neg hsome]
    simp only [List.not_mem_nil, false_implies, implies_true, iff_true]
    exact (unbroken_onePerLine (by decide)).mpr fun w hw => .of_isWord (hwords w hw)

theorem length_methodNames_le
    (block : Block) :
    (methodNames block).length ≤ 2 := by
  unfold methodNames
  split
  · exact Nat.le_refl 2
  · exact Nat.zero_le 2

theorem unbroken_resolveMethod
    {block : Block} {value : TagValue}
    (hwords : ∀ w ∈ value.toWords, IsWord w) :
    (∀ l ∈ (resolveMethod block value).lines, Unbroken l.toList) ↔
      ∀ name ∈ borrowedNames block value .exportS3Method, StaysOnLine name := by
  have hstays : ∀ w ∈ value.toWords, StaysOnLine w := fun w hw => .of_isWord (hwords w hw)
  unfold resolveMethod borrowedNames
  split
  · rename_i generic className rest hitems
    have hdrop : (methodNames block).drop value.toWords.length = [] := by
      refine List.drop_eq_nil_of_le ?_
      have := length_methodNames_le block
      simp only [hitems, List.length_cons]
      omega
    rw [hitems] at hstays
    simp [Resolution.ofLines, unbroken_s3Method, hdrop, hstays]
  · rename_i generic other className hitems hobject
    rw [hitems] at hstays
    simp [Resolution.ofLines, unbroken_s3Method, methodNames, hobject, hitems, hstays]
  · rename_i generic className hitems hobject
    simp [Resolution.ofLines, unbroken_s3Method, methodNames, hobject, hitems]
  · rename_i htwo hone hnone
    -- Without two words only a convention method would lend a name.
    have hdrop : (methodNames block).drop value.toWords.length = [] := by
      unfold methodNames
      split
      · rename_i generic className hobject
        match hitems : value.toWords with
        | [] => exact (hnone generic className hitems hobject).elim
        | [word] => exact (hone word generic className hitems hobject).elim
        | first :: second :: rest => exact (htwo first second rest hitems).elim
      · exact List.drop_nil
    simp [Resolution.complain, hdrop]

/-! ## Tags -/

section Tags

variable {evaluator : Option Evaluator} {block : Block} {kind : Kind} {value : TagValue}
  {found : Resolution}

theorem isWord_of_fits
    (hraw : kind ≠ .rawNamespace)
    (heval : kind ≠ .evalNamespace)
    (h : kind.shape.Fits value) :
    ∀ w ∈ value.toWords, IsWord w := by
  have hshape : kind.shape ≠ .code := by
    cases kind <;> simp_all [Kind.shape]
  cases hs : kind.shape with
  | code =>
      exact absurd hs hshape
  | line =>
      rw [hs] at h
      cases value with
      | words items => exact h
      | code source => exact h.elim
      | text s => exact h.elim
  | words least most =>
      rw [hs] at h
      cases value with
      | words items => exact h.2.2
      | code source => exact h.elim
      | text s => exact h.elim

/-- The directives of a tag are single lines if the names stay on them that the tag takes from its block. -/
theorem unbroken_resolve
    (hraw : kind ≠ .rawNamespace)
    (heval : kind ≠ .evalNamespace)
    (hwords : ∀ w ∈ value.toWords, IsWord w)
    (h : resolve evaluator block kind value = .ok found) :
    (∀ l ∈ found.lines, Unbroken l.toList) ↔
      ∀ name ∈ borrowedNames block value kind, StaysOnLine name := by
  have hnone : (∀ name ∈ ([] : List String), StaysOnLine name) := by
    intro name hname
    cases hname
  cases kind
  case rawNamespace =>
    exact absurd rfl hraw
  case evalNamespace =>
    exact absurd rfl heval
  case imports | exportClass | exportMethod | exportPattern =>
    cases h
    refine iff_of_true ?_ hnone
    exact (unbroken_onePerLine (by decide)).mpr fun w hw => .of_isWord (hwords w hw)
  case importFrom | importClassesFrom | importMethodsFrom =>
    cases h
    exact iff_of_true (fun l hl => unbroken_repeatFirst (by decide) hwords hl) hnone
  case useDynLib =>
    cases h
    exact iff_of_true (fun l hl => unbroken_libraryLines hwords hl) hnone
  case exports =>
    cases h
    exact unbroken_resolveExport hwords
  case exportS3Method =>
    cases h
    exact unbroken_resolveMethod hwords

end Tags

/-! ## Documents -/

/-- A tag of a block is selected by a pass. -/
structure Selected (kinds : KindSet) (blocks : List Block) (block : Block) (tag : Tag) (kind : Kind) :
    Prop where
  block_mem : block ∈ blocks
  tag_mem : tag ∈ block.tags
  kind_eq : Kind.ofTag? tag.name = some kind
  selects : kinds kind = true

section Document

variable {source : Option String} {v : Value} {blocks : List Block} {issues : List Issue}
  {kinds : KindSet} {evaluator : Option Evaluator} {pass : Pass}

theorem exists_lines_of_selected
    {block : Block} {tag : Tag} {kind : Kind}
    (hread : read source v = .ok (blocks, issues))
    (hpass : compile kinds evaluator blocks = .ok pass)
    (hselected : Selected kinds blocks block tag kind)
    (hraw : kind ≠ .rawNamespace)
    (heval : kind ≠ .evalNamespace) :
    ∃ found, resolve evaluator block kind tag.value = .ok found ∧ found.lines ⊆ pass.lines ∧
      ((∀ l ∈ found.lines, isSingleLine l = true) ↔
        ∀ name ∈ borrowedNames block tag.value kind, StaysOnLine name) := by
  obtain ⟨hblock, htag, hkind, hsel⟩ := hselected
  obtain ⟨found, hfound⟩ := exists_resolve_of_compile hpass hblock htag hkind hsel
  refine ⟨found, hfound, ?_, ?_⟩
  · intro l hl
    exact (mem_lines_iff hpass).mpr ⟨block, hblock, tag, htag, kind, hkind, hsel, found, hfound, hl⟩
  · obtain ⟨text, hshape⟩ := shaped_of_read hread block hblock tag htag
    have hwords := isWord_of_fits hraw heval (fits_of_shapeTag hkind hshape)
    simp only [isSingleLine_iff]
    exact unbroken_resolve hraw heval hwords hfound

/-- A line of a pass comes from a selected tag. -/
theorem exists_selected_of_mem_lines
    {l : String}
    (hpass : compile kinds evaluator blocks = .ok pass)
    (hl : l ∈ pass.lines) :
    ∃ block tag kind found, Selected kinds blocks block tag kind ∧
      resolve evaluator block kind tag.value = .ok found ∧ l ∈ found.lines := by
  obtain ⟨block, hblock, tag, htag, kind, hkind, hsel, found, hfound, hmem⟩ :=
    (mem_lines_iff hpass).mp hl
  exact ⟨block, tag, kind, found, ⟨hblock, htag, hkind, hsel⟩, hfound, hmem⟩

/-- The directives of a tag are single lines exactly if all borrowed names stay on their lines.  Without code,
the lines of a pass are laid out as they are exactly if this holds of all tags. -/
theorem singleLine_iff_of_document
    (hread : read source v = .ok (blocks, issues))
    (hpass : compile kinds evaluator blocks = .ok pass) :
    (∀ block tag kind, Selected kinds blocks block tag kind →
      kind ≠ .rawNamespace → kind ≠ .evalNamespace →
      ∃ found, resolve evaluator block kind tag.value = .ok found ∧ found.lines ⊆ pass.lines ∧
        ((∀ l ∈ found.lines, isSingleLine l = true) ↔
          ∀ name ∈ borrowedNames block tag.value kind, StaysOnLine name)) ∧
    ((∀ block ∈ blocks, ∀ tag ∈ block.tags,
        tag.name ≠ Kind.rawNamespace.tag ∧ tag.name ≠ Kind.evalNamespace.tag) →
      (physicalLines pass.lines = pass.lines ↔
        ∀ block tag kind, Selected kinds blocks block tag kind →
          ∀ name ∈ borrowedNames block tag.value kind, StaysOnLine name)) := by
  refine ⟨fun block tag kind => exists_lines_of_selected hread hpass, ?_⟩
  intro hcode
  have hkinds : ∀ {block tag kind}, Selected kinds blocks block tag kind →
      kind ≠ .rawNamespace ∧ kind ≠ .evalNamespace := by
    intro block tag kind hselected
    obtain ⟨hraw, heval⟩ := hcode block hselected.block_mem tag hselected.tag_mem
    exact ⟨Kind.ne_of_ofTag? hselected.kind_eq hraw, Kind.ne_of_ofTag? hselected.kind_eq heval⟩
  have hends : ∀ l ∈ pass.lines, EndsInText l := by
    intro l hl
    obtain ⟨block, tag, kind, found, hselected, hfound, hmem⟩ := exists_selected_of_mem_lines hpass hl
    obtain ⟨hraw, heval⟩ := hkinds hselected
    exact (isDirective_of_mem_resolve hraw heval hfound hmem).endsInText
  rw [physicalLines_eq_self_iff hends]
  constructor
  · intro hlines block tag kind hselected
    obtain ⟨hraw, heval⟩ := hkinds hselected
    obtain ⟨found, -, hsubset, hiff⟩ := exists_lines_of_selected hread hpass hselected hraw heval
    exact hiff.mp fun l hl => isSingleLine_iff.mpr (hlines l (hsubset hl))
  · intro hnames l hl
    obtain ⟨block, tag, kind, found, hselected, hfound, hmem⟩ := exists_selected_of_mem_lines hpass hl
    obtain ⟨hraw, heval⟩ := hkinds hselected
    obtain ⟨found', hfound', -, hiff⟩ := exists_lines_of_selected hread hpass hselected hraw heval
    obtain rfl : found' = found := Except.ok.inj (hfound'.symm.trans hfound)
    exact isSingleLine_iff.mp (hiff.mpr (hnames block tag kind hselected) l hmem)

end Document

/-- A document with a bare export of a formal class. -/
def exportedClass (className : String) : Value :=
  .list [.map [(.text "tags", .map [(.text "export", .null)]),
    (.text "object", .map [(.text "kind", .text "formal_class"), (.text "class", .text className)])]]

/-- The block of this document. -/
def exportedClassBlock (className : String) : Block :=
  { tags := [⟨"export", .words [], none⟩], object := some (.formalClass className) }

theorem singleLine_of_exportedClass :
    ∃ pass,
      read none (exportedClass "a\nb") = .ok ([exportedClassBlock "a\nb"], []) ∧
      compile allKinds none [exportedClassBlock "a\nb"] = .ok pass ∧
      StaysOnLine "a\nb" ∧ physicalLines pass.lines = pass.lines := by
  have hread : read none (exportedClass "a\nb") = .ok ([exportedClassBlock "a\nb"], []) := by
    decide +kernel
  have hcollect : collect allKinds allKinds none [exportedClassBlock "a\nb"] =
      .ok { lines := ["exportClasses(\x60a\\nb\x60)"] } := by
    decide +kernel
  have hpass := compile_of_collect hcollect
  have hstays : StaysOnLine "a\nb" := by
    decide +kernel
  refine ⟨_, hread, hpass, hstays, ((singleLine_iff_of_document hread hpass).2 ?_).mpr ?_⟩
  · decide
  · rintro block tag kind ⟨hblock, htag, hkind, -⟩ name hname
    obtain rfl := List.mem_singleton.mp hblock
    obtain rfl := List.mem_singleton.mp htag
    obtain rfl : Kind.exports = kind :=
      Option.some.inj ((Kind.ofTag?_tag .exports).symm.trans hkind)
    obtain rfl := List.mem_singleton.mp hname
    exact hstays

/-- A class whose name ends in a line feed is exported on two lines. -/
theorem exportedClass_broken_by_lineFeed :
    ∃ pass,
      read none (exportedClass "Foo\n") = .ok ([exportedClassBlock "Foo\n"], []) ∧
      compile allKinds none [exportedClassBlock "Foo\n"] = .ok pass ∧
      pass.lines = ["exportClasses(Foo\n)"] ∧
      ¬ (∀ l ∈ pass.lines, isSingleLine l = true) ∧
      physicalLines pass.lines = ["exportClasses(Foo", ")"] ∧
      physicalLines pass.lines ≠ pass.lines := by
  have hread : read none (exportedClass "Foo\n") = .ok ([exportedClassBlock "Foo\n"], []) := by
    decide +kernel
  have hcollect : collect allKinds allKinds none [exportedClassBlock "Foo\n"] =
      .ok { lines := ["exportClasses(Foo\n)"] } := by
    decide +kernel
  have hlines : finalize ["exportClasses(Foo\n)"] = ["exportClasses(Foo\n)"] := by
    simp [finalize, List.eraseDups_cons]
  refine ⟨_, hread, compile_of_collect hcollect, hlines, ?_, ?_, ?_⟩
  all_goals
    rw [hlines]
    decide

end Directive
end NamespaceManifest
