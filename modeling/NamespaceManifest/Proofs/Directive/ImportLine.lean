import NamespaceManifest.Proofs.Directive.Call
import NamespaceManifest.Proofs.Directive.Union

/-!
# Lines that read as imports

A manifest does not say which tag a line comes from.  So an import pass knows the imports of an earlier build by
the way they start: some blanks, a directive word of the import family and an opening parenthesis
(`isImportLine_iff`).

A directive starts with its own word, and this word holds no blank and no parenthesis.  Hence a directive reads as
an import exactly if its word is one of the import family, whatever its arguments are (`isImportLine_line_iff`).
The kinds of the import family write these words only, and the export kinds write others.

* The lines of a tag that takes no code read as imports exactly if its kind is one of the import family.  This
  holds of every value, of every object that a bare export is resolved by, and of the library arguments that
  pass through as they are.
* Without code, the lines of a full pass that read as imports are the lines of the import pass, and the others are
  the lines of the remaining kinds.

Both are stated in `isImportLine_of_resolve`.
-/

namespace NamespaceManifest

/-- No tag of a block takes code. -/
def Block.CodeFree (block : Block) : Prop :=
  ∀ tag ∈ block.tags,
    tag.name ≠ Directive.Kind.rawNamespace.tag ∧ tag.name ≠ Directive.Kind.evalNamespace.tag

namespace Directive

open Text

/-! ## How an import starts -/

section Start

variable {l : String}

/-- A text that starts with a word, after padding, is an import if its start is one. -/
theorem isImportLine_of_word
    {blanks s : List Char} {w : String}
    (hblanks : Padding blanks)
    (hw : IsWord w)
    (hl : l.toList = blanks ++ (w.toList ++ s)) :
    isImportLine l = true ↔ ∃ word ∈ importWords, word.toList ++ ['('] <+: w.toList ++ s := by
  rw [isImportLine, hl, dropWhile_padding_word hblanks hw]
  simp only [List.any_eq_true, List.isPrefixOf_iff_prefix]

theorem importWords_subset :
    importWords ⊆ directiveWords := by
  decide

theorem isWord_of_mem_directiveWords
    {directive : String}
    (h : directive ∈ directiveWords) :
    IsWord directive := by
  have hwords : ∀ word ∈ directiveWords, word ≠ "" ∧ word.toList.any isBlank = false := by
    decide
  simpa [IsWord] using hwords directive h

/-- An import is padding, a directive word of the import family, an opening parenthesis and anything. -/
theorem isImportLine_iff :
    isImportLine l = true ↔
      ∃ blanks word rest, Padding blanks ∧ word ∈ importWords ∧
        l.toList = blanks ++ (word.toList ++ '(' :: rest) := by
  constructor
  · intro h
    simp only [isImportLine, List.any_eq_true, List.isPrefixOf_iff_prefix] at h
    obtain ⟨word, hword, rest, hrest⟩ := h
    refine ⟨l.toList.takeWhile isBlank, word, rest, ?_, hword, ?_⟩
    · exact fun c hc => List.mem_takeWhile_imp hc
    · rw [List.append_assoc, List.singleton_append] at hrest
      rw [hrest, List.takeWhile_append_dropWhile]
  · rintro ⟨blanks, word, rest, hblanks, hword, hl⟩
    rw [isImportLine_of_word hblanks (isWord_of_mem_directiveWords (importWords_subset hword)) hl]
    exact ⟨word, hword, rest, by simp⟩

/-- A text that starts with an import is one. -/
theorem isImportLine_of_start
    {e : String}
    (hl : l.toList <+: e.toList)
    (h : isImportLine l = true) :
    isImportLine e = true := by
  obtain ⟨t, ht⟩ := hl
  rw [isImportLine_iff] at h ⊢
  obtain ⟨blanks, word, rest, hblanks, hword, hstart⟩ := h
  refine ⟨blanks, word, rest ++ t, hblanks, hword, ?_⟩
  rw [← ht, hstart]
  simp

end Start

/-! ## Directives -/

/-- A directive is an import exactly if its word is one of the import family. -/
theorem isImportLine_line_iff
    {directive arguments : String}
    (hdirective : directive ∈ directiveWords) :
    isImportLine (line directive arguments) = true ↔ directive ∈ importWords := by
  have hline : (line directive arguments).toList =
      [] ++ (directive.toList ++ '(' :: (arguments.toList ++ [')'])) :=
    toList_line directive arguments
  rw [isImportLine_of_word (List.forall_mem_nil _) (isWord_of_mem_directiveWords hdirective) hline]
  constructor
  · rintro ⟨word, hword, rest, hrest⟩
    -- both words reach up to the first parenthesis
    have hopen := not_mem_of_mem_directiveWords (importWords_subset hword)
    have hcut := congrArg (List.takeWhile (· != '(')) hrest
    rw [List.append_assoc, List.singleton_append, (cut_at_parenthesis hopen _).1,
      (cut_at_parenthesis (not_mem_of_mem_directiveWords hdirective) _).1] at hcut
    rwa [← String.toList_inj.mp hcut]
  · intro hfamily
    exact ⟨directive, hfamily, arguments.toList ++ [')'], by simp⟩

/-- The kinds of the import family are those whose directives have words of the family. -/
theorem mem_importWords_iff
    {kind : Kind} {directive : String}
    (h : directive ∈ kind.directives) :
    directive ∈ importWords ↔ kind.isImport = true := by
  have hwords : ∀ word ∈ kind.directives, (word ∈ importWords ↔ kind.isImport = true) := by
    cases kind <;> decide
  exact hwords directive h

theorem isImportLine_of_isDirectiveIn
    {kind : Kind} {l : String}
    (h : IsDirectiveIn kind.directives l) :
    isImportLine l = kind.isImport := by
  obtain ⟨directive, hdirective, arguments, rfl⟩ := h
  rw [Bool.eq_iff_iff, isImportLine_line_iff (mem_directiveWords hdirective),
    mem_importWords_iff hdirective]

/-! ## Passes without code -/

section Passes

variable {evaluator : Option Evaluator} {blocks : List Block}

theorem exists_compile_of_codeFree
    (hcode : ∀ block ∈ blocks, block.CodeFree)
    (kinds : KindSet)
    (evaluator : Option Evaluator) :
    ∃ pass, compile kinds evaluator blocks = .ok pass := by
  refine exists_compile_iff.mpr ?_
  intro block hblock tag htag kind hkind _
  have heval := Kind.ne_of_ofTag? hkind (hcode block hblock tag htag).2
  exact exists_resolve_of_ne heval evaluator block tag.value

/-- The lines of a tag in a block without code read as imports exactly if the tag is of the import family. -/
theorem isImportLine_of_tag
    {block : Block} {tag : Tag} {kind : Kind} {found : Resolution} {l : String}
    (hcode : block.CodeFree)
    (htag : tag ∈ block.tags)
    (hkind : Kind.ofTag? tag.name = some kind)
    (hfound : resolve evaluator block kind tag.value = .ok found)
    (hl : l ∈ found.lines) :
    isImportLine l = kind.isImport := by
  obtain ⟨hraw, heval⟩ := hcode tag htag
  refine isImportLine_of_isDirectiveIn (isDirectiveIn_of_mem_resolve ?_ ?_ hfound hl)
  · exact Kind.ne_of_ofTag? hkind hraw
  · exact Kind.ne_of_ofTag? hkind heval

/-- If kinds are chosen by whether they are of the import family, then their lines are chosen from those of a full
pass by whether they read as imports. -/
theorem filter_isImportLine_of_compile
    {full part : Pass}
    (chosen : Bool → Bool)
    (hcode : ∀ block ∈ blocks, block.CodeFree)
    (hfull : compile allKinds evaluator blocks = .ok full)
    (hpart : compile (fun kind => chosen kind.isImport) evaluator blocks = .ok part) :
    (full.lines.filter fun l => chosen (isImportLine l)) = part.lines := by
  refine eq_of_pairwise_of_mem_iff ((pairwise_lines hfull).filter _) (pairwise_lines hpart) ?_
  intro l
  rw [List.mem_filter, mem_lines_iff hfull, mem_lines_iff hpart]
  constructor
  · rintro ⟨⟨block, hblock, tag, htag, kind, hkind, -, found, hfound, hl⟩, hchosen⟩
    rw [isImportLine_of_tag (hcode block hblock) htag hkind hfound hl] at hchosen
    exact ⟨block, hblock, tag, htag, kind, hkind, hchosen, found, hfound, hl⟩
  · rintro ⟨block, hblock, tag, htag, kind, hkind, hchosen, found, hfound, hl⟩
    refine ⟨⟨block, hblock, tag, htag, kind, hkind, rfl, found, hfound, hl⟩, ?_⟩
    rw [isImportLine_of_tag (hcode block hblock) htag hkind hfound hl]
    exact hchosen

end Passes

/-- A tag that takes no code is resolved whatever its value and its block are, and its lines read as imports exactly
if its kind is one of the import family.  So the lines of a full pass over such tags fall in two: those that read as
imports are the lines of the import pass, and the others are the lines of the other kinds. -/
theorem isImportLine_of_resolve
    (evaluator : Option Evaluator) :
    (∀ block kind value, kind ≠ .rawNamespace → kind ≠ .evalNamespace →
      ∃ found, resolve evaluator block kind value = .ok found ∧
        ∀ l ∈ found.lines, isImportLine l = kind.isImport) ∧
    ∀ blocks : List Block, (∀ block ∈ blocks, block.CodeFree) →
      ∃ imports others full, compile importKinds none blocks = .ok imports ∧
        compile otherKinds evaluator blocks = .ok others ∧
        compile allKinds evaluator blocks = .ok full ∧
        full.lines.filter isImportLine = imports.lines ∧
        (full.lines.filter fun l => !isImportLine l) = others.lines := by
  constructor
  · intro block kind value hraw heval
    obtain ⟨found, hfound⟩ := exists_resolve_of_ne heval evaluator block value
    refine ⟨found, hfound, fun l hl => ?_⟩
    exact isImportLine_of_isDirectiveIn (isDirectiveIn_of_mem_resolve hraw heval hfound hl)
  · intro blocks hcode
    obtain ⟨imports, himports⟩ := exists_compile_of_codeFree hcode importKinds none
    obtain ⟨imports', himports'⟩ := exists_compile_of_codeFree hcode importKinds evaluator
    obtain ⟨others, hothers⟩ := exists_compile_of_codeFree hcode otherKinds evaluator
    obtain ⟨full, hfull⟩ := exists_compile_of_codeFree hcode allKinds evaluator
    refine ⟨imports, others, full, himports, hothers, hfull, ?_, ?_⟩
    · rw [← lines_imports himports' himports]
      exact filter_isImportLine_of_compile id hcode hfull himports'
    · exact filter_isImportLine_of_compile not hcode hfull hothers

/-- A block of a class whose quoted name holds an import, with library arguments that hold an export. -/
def misleadingBlock : Block :=
  { tags := [{ name := "useDynLib", value := .words ["export(a),", "b"] },
      { name := "export", value := .words [] },
      { name := "importFrom", value := .text " x\ty " }]
    object := some (.formalClass "\x22\nimport(a)\x22") }

theorem isImportLine_of_misleadingBlock :
    resolve none misleadingBlock .useDynLib (.words ["export(a),", "b"]) =
      .ok (.ofLines ["useDynLib(export(a), b)"]) ∧
    isImportLine "useDynLib(export(a), b)" = true ∧
    resolve none misleadingBlock .exports (.words []) =
      .ok (.ofLines ["exportClasses(\x22\nimport(a)\x22)"]) ∧
    isImportLine "exportClasses(\x22\nimport(a)\x22)" = false ∧
    misleadingBlock.CodeFree ∧
    ∃ imports others full, compile importKinds none [misleadingBlock] = .ok imports ∧
      compile otherKinds none [misleadingBlock] = .ok others ∧
      compile allKinds none [misleadingBlock] = .ok full ∧
      full.lines.filter isImportLine = imports.lines ∧
      (full.lines.filter fun l => !isImportLine l) = others.lines := by
  have hlibrary : resolve none misleadingBlock .useDynLib (.words ["export(a),", "b"]) =
      .ok (.ofLines ["useDynLib(export(a), b)"]) := by
    decide +kernel
  have hclass : resolve none misleadingBlock .exports (.words []) =
      .ok (.ofLines ["exportClasses(\x22\nimport(a)\x22)"]) := by
    decide +kernel
  have hcode : misleadingBlock.CodeFree := by
    unfold Block.CodeFree
    decide
  obtain ⟨htags, hpasses⟩ := isImportLine_of_resolve none
  obtain ⟨found, hfound, himport⟩ := htags misleadingBlock .useDynLib (.words ["export(a),", "b"])
    (by decide) (by decide)
  obtain ⟨found', hfound', hexport⟩ := htags misleadingBlock .exports (.words [])
    (by decide) (by decide)
  obtain rfl := Except.ok.inj (hlibrary.symm.trans hfound)
  obtain rfl := Except.ok.inj (hclass.symm.trans hfound')
  refine ⟨hlibrary, himport _ List.mem_cons_self, hclass, hexport _ List.mem_cons_self, hcode, ?_⟩
  exact hpasses [misleadingBlock] (by simpa using hcode)

end Directive
end NamespaceManifest
