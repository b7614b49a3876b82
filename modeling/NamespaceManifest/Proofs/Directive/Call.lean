import NamespaceManifest.Proofs.Directive.Pass
import NamespaceManifest.Proofs.Directive.Resolve
import NamespaceManifest.Proofs.Text.Quoted

/-!
# Directives read back

A directive line is read as a call: a directive word and, between parentheses, one argument or two of them with a
comma between.  An argument is a bare name or a literal, in backticks or in double quotes
(`Call.decode`).

A word may hold commas, parentheses, quotes and backslashes.  Unless it comes with quotes, it is read back
from every directive that it is written in.

* A bare name holds none of these characters, so it ends where the next comma or parenthesis stands.
* A literal is read to its closing quote (`Text.Quoted.readLiteral_encodeChars`).

Hence lines that are equal stand for equal calls, and sorting lines without repetition loses no call
(`decode_of_formats`).
-/

namespace NamespaceManifest
namespace Directive

open Name Text

/-! ## Reading calls -/

/-- A directive word and its arguments. -/
structure Call where
  directive : String
  arguments : List String
  deriving Repr, BEq, DecidableEq

/-- The argument that a text starts with, and what follows it. -/
def readArgument : List Char → Option (List Char × List Char)
  | [] => none
  | c :: s =>
      if c = backtick ∨ c = '\x22' then Quoted.readLiteral c s
      else if isNameChar c then
        some ((c :: s).takeWhile isNameChar, (c :: s).dropWhile isNameChar)
      else none

/-- The arguments that stand before a closing parenthesis at the end of a text. -/
def readArguments (s : List Char) : Option (List String) :=
  match readArgument s with
  | some (first, [')']) => some [String.ofList first]
  | some (first, ',' :: s) =>
      match readArgument s with
      | some (second, [')']) => some [String.ofList first, String.ofList second]
      | _ => none
  | _ => none

/-- The call that a directive line stands for. -/
def Call.decode (l : String) : Option Call :=
  match l.toList.dropWhile (· != '(') with
  | [] => none
  | _ :: s =>
      (readArguments s).map fun arguments =>
        ⟨String.ofList (l.toList.takeWhile (· != '(')), arguments⟩

/-! ## Arguments -/

namespace Name

/-- A text without blanks that does not come with quotes. -/
structure Plain (w : String) : Prop where
  unspaced : ∀ c ∈ w.toList, isBlank c = false
  unquoted : hasQuotes w = false

theorem plain_iff
    {w : String} :
    (w.toList.all fun c => !isBlank c) = true ∧ hasQuotes w = false ↔ Plain w := by
  simp only [List.all_eq_true, Bool.not_eq_true']
  constructor
  · rintro ⟨hunspaced, hunquoted⟩
    exact ⟨hunspaced, hunquoted⟩
  · intro h
    exact ⟨h.unspaced, h.unquoted⟩

instance (w : String) : Decidable (Plain w) :=
  decidable_of_iff _ plain_iff

theorem isNameChar_of_isWordStart
    {c : Char}
    (h : isWordStart c = true) :
    isNameChar c = true := by
  simp only [isWordStart, Bool.and_eq_true] at h
  simp [isNameChar, isWordChar, h.1]

theorem isNameChar_of_mem_identifier
    {s : List Char}
    (h : isIdentifier s = true) :
    s ≠ [] ∧ ∀ c ∈ s, isNameChar c = true := by
  cases s with
  | nil =>
      cases h
  | cons c s =>
      simp only [isIdentifier, Bool.and_eq_true, Bool.or_eq_true, List.all_eq_true] at h
      obtain ⟨hfirst, hrest⟩ := h
      refine ⟨by simp, List.forall_mem_cons.mpr ⟨?_, hrest⟩⟩
      rcases hfirst with hstart | ⟨hdot, -⟩
      · exact isNameChar_of_isWordStart hstart
      · simp [isNameChar, hdot]

/-- A syntactic name without blanks is made of name characters. -/
theorem Plain.isNameChar_of_isSyntactic
    {w : String}
    (h : Plain w)
    (hw : isSyntactic w = true) :
    w.toList ≠ [] ∧ ∀ c ∈ w.toList, isNameChar c = true := by
  refine isNameChar_of_mem_identifier ?_
  simp only [isSyntactic, Bool.and_eq_true, holdsUpToNewline_of_unspaced h.unspaced] at hw
  exact hw.2

end Name

/-- A text that no name character starts. -/
def Ended : List Char → Prop
  | [] => True
  | c :: _ => isNameChar c = false

theorem readArgument_bare
    {s rest : List Char}
    (hne : s ≠ [])
    (hs : ∀ c ∈ s, isNameChar c = true)
    (hrest : Ended rest) :
    readArgument (s ++ rest) = some (s, rest) := by
  have htake : (s ++ rest).takeWhile isNameChar = s := by
    rw [List.takeWhile_append_of_pos hs]
    cases rest with
    | nil => simp
    | cons c rest => simp [show isNameChar c = false from hrest]
  have hdrop : (s ++ rest).dropWhile isNameChar = rest := by
    rw [List.dropWhile_append_of_pos hs]
    cases rest with
    | nil => simp
    | cons c rest => simp [show isNameChar c = false from hrest]
  cases s with
  | nil =>
      exact absurd rfl hne
  | cons c s =>
      have hc : isNameChar c = true := hs c (by simp)
      have hquote : ¬ (c = backtick ∨ c = '\x22') := by
        rintro (rfl | rfl)
        · exact absurd hc (by decide)
        · exact absurd hc (by decide)
      rw [List.cons_append] at htake hdrop ⊢
      rw [readArgument, if_neg hquote, if_pos hc, htake, hdrop]

theorem readArgument_literal
    {quote : Char}
    (hquote : quote = backtick ∨ quote = '\x22')
    (s rest : List Char) :
    readArgument (Quoted.encodeChars [quote] s ++ rest) = some (s, rest) := by
  have hdelimits : Quoted.Delimits quote := by
    rcases hquote with rfl | rfl <;> decide
  obtain ⟨t, ht, hread⟩ := Quoted.readLiteral_encodeChars hdelimits s rest
  rw [ht, readArgument, if_pos hquote, hread]

/-- A plain word is read back from where it stands in a directive. -/
theorem readArgument_quoteWith
    {w : String} {rest : List Char}
    (quote : Char)
    (hquote : quote = backtick ∨ quote = '\x22')
    (hw : Plain w)
    (hrest : Ended rest) :
    readArgument ((quoteWith (String.singleton quote) w).toList ++ rest) = some (w.toList, rest) := by
  unfold quoteWith
  by_cases hsyntactic : isSyntactic w = true
  · obtain ⟨hne, hchars⟩ := hw.isNameChar_of_isSyntactic hsyntactic
    rw [if_pos (by simp [hsyntactic])]
    exact readArgument_bare hne hchars hrest
  · rw [if_neg (by simp [hw.unquoted, hsyntactic]), Quoted.encode, String.toList_ofList,
      String.toList_singleton]
    exact readArgument_literal hquote w.toList rest

theorem readArgument_autoBacktick
    {w : String} {rest : List Char}
    (hw : Plain w)
    (hrest : Ended rest) :
    readArgument ((autoBacktick w).toList ++ rest) = some (w.toList, rest) :=
  readArgument_quoteWith backtick (Or.inl rfl) hw hrest

theorem readArgument_autoQuote
    {w : String} {rest : List Char}
    (hw : Plain w)
    (hrest : Ended rest) :
    readArgument ((autoQuote w).toList ++ rest) = some (w.toList, rest) :=
  readArgument_quoteWith '\x22' (Or.inr rfl) hw hrest

/-! ## Lines -/

/-- The word of a directive reaches up to the first parenthesis. -/
theorem cut_at_parenthesis
    {directive : List Char}
    (hdirective : '(' ∉ directive)
    (rest : List Char) :
    (directive ++ '(' :: rest).takeWhile (· != '(') = directive ∧
      (directive ++ '(' :: rest).dropWhile (· != '(') = '(' :: rest := by
  have hword : ∀ c ∈ directive, (c != '(') = true := by
    intro c hc
    simp only [bne_iff_ne, ne_eq]
    rintro rfl
    exact hdirective hc
  rw [List.takeWhile_append_of_pos hword, List.dropWhile_append_of_pos hword]
  simp

theorem decode_line
    {directive arguments : String}
    (hdirective : '(' ∉ directive.toList) :
    Call.decode (line directive arguments) =
      (readArguments (arguments.toList ++ [')'])).map fun words => ⟨directive, words⟩ := by
  obtain ⟨htake, hdrop⟩ := cut_at_parenthesis hdirective (arguments.toList ++ [')'])
  rw [Call.decode, toList_line, htake, hdrop, String.ofList_toList]

theorem ended_close :
    Ended [')'] := by
  show isNameChar ')' = false
  decide

theorem ended_comma
    (rest : List Char) :
    Ended (',' :: rest) := by
  show isNameChar ',' = false
  decide

section Lines

variable {directive : String}

theorem decode_single
    {w : String}
    (hdirective : '(' ∉ directive.toList)
    (hw : Plain w) :
    Call.decode (line directive (autoBacktick w)) = some ⟨directive, [w]⟩ := by
  rw [decode_line hdirective, readArguments, readArgument_autoBacktick hw ended_close]
  simp

theorem decode_library
    {w : String}
    (hdirective : '(' ∉ directive.toList)
    (hw : Plain w) :
    Call.decode (line directive (autoQuote w)) = some ⟨directive, [w]⟩ := by
  rw [decode_line hdirective, readArguments, readArgument_autoQuote hw ended_close]
  simp

theorem decode_pair
    {v w : String}
    (hdirective : '(' ∉ directive.toList)
    (hv : Plain v)
    (hw : Plain w) :
    Call.decode (line directive (autoBacktick v ++ "," ++ autoBacktick w)) =
      some ⟨directive, [v, w]⟩ := by
  have hsplit : (autoBacktick v ++ "," ++ autoBacktick w).toList ++ [')'] =
      (autoBacktick v).toList ++ ',' :: ((autoBacktick w).toList ++ [')']) := by
    simp
  rw [decode_line hdirective, hsplit, readArguments,
    readArgument_autoBacktick hv (ended_comma _)]
  simp only [readArgument_autoBacktick hw ended_close]
  simp

end Lines

example : Call.decode "importFrom(\x60a,\\\x60\x60,b)" = some ⟨"importFrom", ["a,\x60", "b"]⟩ := by
  decide +kernel

/-! ## Sorted lines -/

/-- The directive words of all kinds. -/
def directiveWords : List String :=
  Kind.all.flatMap Kind.directives

theorem not_mem_of_mem_directiveWords
    {directive : String}
    (h : directive ∈ directiveWords) :
    '(' ∉ directive.toList := by
  have hwords : ∀ word ∈ directiveWords, '(' ∉ word.toList := by
    decide
  exact hwords directive h

theorem mem_directiveWords
    {kind : Kind} {directive : String}
    (h : directive ∈ kind.directives) :
    directive ∈ directiveWords := by
  have hkind : kind ∈ Kind.all := by
    cases kind <;> simp [Kind.all]
  exact List.mem_flatMap.mpr ⟨kind, hkind, h⟩

/-- The directives of every tag that takes no code have these words. -/
theorem isDirectiveIn_directiveWords
    {evaluator : Option Evaluator} {block : Block} {kind : Kind} {value : TagValue}
    {found : Resolution} {l : String}
    (hraw : kind ≠ .rawNamespace)
    (heval : kind ≠ .evalNamespace)
    (h : resolve evaluator block kind value = .ok found)
    (hl : l ∈ found.lines) :
    IsDirectiveIn directiveWords l := by
  obtain ⟨directive, hdirective, arguments, hline⟩ := isDirectiveIn_of_mem_resolve hraw heval h hl
  exact ⟨directive, mem_directiveWords hdirective, arguments, hline⟩

/-- A call with plain words and the line that one of the formats gives for it. -/
inductive Written : Call → String → Prop
  | name {directive w l : String}
      (hdirective : directive ∈ directiveWords)
      (hw : Plain w)
      (hl : onePerLine directive [w] = [l]) :
      Written ⟨directive, [w]⟩ l
  | pair {directive v w l : String}
      (hdirective : directive ∈ directiveWords)
      (hv : Plain v)
      (hw : Plain w)
      (hl : repeatFirst directive [v, w] = [l]) :
      Written ⟨directive, [v, w]⟩ l
  | method {generic className : String}
      (hgeneric : Plain generic)
      (hclass : Plain className) :
      Written ⟨"S3method", [generic, className]⟩ (s3Method generic className)
  | library {w l : String}
      (hw : Plain w)
      (hl : libraryLines (.words [w]) = [l]) :
      Written ⟨"useDynLib", [w]⟩ l

theorem Written.decode_eq
    {call : Call} {l : String}
    (h : Written call l) :
    Call.decode l = some call := by
  cases h with
  | name hdirective hw hl =>
      obtain rfl := List.singleton_inj.mp hl
      exact decode_single (not_mem_of_mem_directiveWords hdirective) hw
  | pair hdirective hv hw hl =>
      obtain rfl := List.singleton_inj.mp hl
      exact decode_pair (not_mem_of_mem_directiveWords hdirective) hv hw
  | method hgeneric hclass =>
      exact decode_pair (by decide) hgeneric hclass
  | library hw hl =>
      obtain rfl := List.singleton_inj.mp hl
      exact decode_library (by decide) hw

/-- Sorting lines without repetition loses no call. -/
theorem mem_map_decode_finalize
    {written : List (Call × String)}
    (h : ∀ x ∈ written, Written x.1 x.2)
    (call : Call) :
    some call ∈ (finalize (written.map Prod.snd)).map Call.decode ↔
      call ∈ written.map Prod.fst := by
  simp only [List.mem_map, mem_finalize]
  constructor
  · rintro ⟨_, ⟨x, hx, rfl⟩, hdecode⟩
    rw [(h x hx).decode_eq] at hdecode
    exact ⟨x, hx, Option.some.inj hdecode⟩
  · rintro ⟨x, hx, rfl⟩
    exact ⟨x.2, ⟨x, hx, rfl⟩, (h x hx).decode_eq⟩

/-- The lines of every format are read as the directive word and the plain words that they were made of.  So
no two different calls are written alike, and all calls are still there after their lines were sorted and
repeated lines dropped. -/
theorem decode_of_formats :
    (∀ evaluator block kind value found l,
      kind ≠ .rawNamespace → kind ≠ .evalNamespace →
      resolve evaluator block kind value = .ok found → l ∈ found.lines →
      IsDirectiveIn directiveWords l) ∧
    (∀ directive ∈ directiveWords, ∀ names, (∀ w ∈ names, Plain w) →
      (onePerLine directive names).map Call.decode =
        names.map fun w => some ⟨directive, [w]⟩) ∧
    (∀ directive ∈ directiveWords, ∀ first names, Plain first → (∀ w ∈ names, Plain w) →
      (repeatFirst directive (first :: names)).map Call.decode =
        names.map fun w => some ⟨directive, [first, w]⟩) ∧
    (∀ generic className, Plain generic → Plain className →
      Call.decode (s3Method generic className) = some ⟨"S3method", [generic, className]⟩) ∧
    (∀ value library, TagValue.toWords value = [library] → Plain library →
      (libraryLines value).map Call.decode = [some ⟨"useDynLib", [library]⟩]) ∧
    (∀ written : List (Call × String), (∀ x ∈ written, Written x.1 x.2) →
      (∀ x ∈ written, ∀ y ∈ written, x.2 = y.2 → x.1 = y.1) ∧
      ∀ call, some call ∈ (finalize (written.map Prod.snd)).map Call.decode ↔
        call ∈ written.map Prod.fst) := by
  refine ⟨?_, ?_, ?_, ?_, ?_, ?_⟩
  · intro evaluator block kind value found l hraw heval hfound hl
    exact isDirectiveIn_directiveWords hraw heval hfound hl
  · intro directive hdirective names hnames
    rw [onePerLine, List.map_map]
    refine List.map_congr_left fun w hw => ?_
    exact decode_single (not_mem_of_mem_directiveWords hdirective) (hnames w hw)
  · intro directive hdirective first names hfirst hnames
    rw [repeatFirst, List.map_map]
    refine List.map_congr_left fun w hw => ?_
    exact decode_pair (not_mem_of_mem_directiveWords hdirective) hfirst (hnames w hw)
  · intro generic className hgeneric hclass
    exact decode_pair (by decide) hgeneric hclass
  · intro value library hwords hlibrary
    simp only [libraryLines, hwords, List.map_cons, List.map_nil]
    rw [decode_library (by decide) hlibrary]
  · intro written hwritten
    refine ⟨?_, mem_map_decode_finalize hwritten⟩
    intro x hx y hy heq
    have hread := (hwritten x hx).decode_eq
    rw [heq, (hwritten y hy).decode_eq] at hread
    exact (Option.some.inj hread).symm

theorem decode_of_quotedWords :
    Plain "a,\x60" ∧ Plain "\\)" ∧
    (repeatFirst "importFrom" ["a,\x60", "\\)"]).map Call.decode =
      [some ⟨"importFrom", ["a,\x60", "\\)"]⟩] ∧
    (libraryLines (.words ["a,\x60"])).map Call.decode = [some ⟨"useDynLib", ["a,\x60"]⟩] := by
  have hfirst : Plain "a,\x60" := by
    decide
  have hsecond : Plain "\\)" := by
    decide
  obtain ⟨-, -, hpairs, -, hlibrary, -⟩ := decode_of_formats
  exact ⟨hfirst, hsecond,
    hpairs "importFrom" (by decide) "a,\x60" ["\\)"] hfirst (by simpa using hsecond),
    hlibrary (.words ["a,\x60"]) "a,\x60" rfl hfirst⟩

end Directive
end NamespaceManifest
