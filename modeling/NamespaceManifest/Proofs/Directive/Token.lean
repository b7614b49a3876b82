import NamespaceManifest.Proofs.Directive.Call

/-!
# Names as tokens

A name in a directive is to be one token: a bare name, or a literal that reaches from its first to its last
character (`Name.IsToken`).  A literal is closed too early by a quote in it that is not escaped, and not closed
at all by a backslash too many before its end.

A name that is put between quotes has all its quotes and backslashes escaped, so it is a token whatever it
holds.  A name that comes with quotes is copied, and nobody looks between its quotes.  Hence a name becomes a
token unless it comes with quotes and is no literal itself (`isToken_iff_of_unspaced`); and there are such
names (`not_isToken_of_bare_inner_quote`).
-/

namespace NamespaceManifest
namespace Directive
namespace Name

open Text

/-! ## Tokens -/

/-- A letter, or a dot that no digit follows, and then word characters and dots, without a meaning of its
own in the module language. -/
structure IsBare (t : String) : Prop where
  identifier : isIdentifier t.toList = true
  unreserved : t ∉ reservedWords
  undotted : isDots t.toList = false

/-- A text between two quotes of one kind that stays inside them. -/
def IsLiteral (s : List Char) : Prop :=
  ∃ quote inner, isQuote quote = true ∧ s = quote :: (inner ++ [quote]) ∧
    Quoted.Contained quote inner

/-- A bare name or a literal, and nothing after it. -/
def IsToken (t : String) : Prop :=
  IsBare t ∨ IsLiteral t.toList

theorem delimits_of_isQuote
    {quote : Char}
    (h : isQuote quote = true) :
    Quoted.Delimits quote := by
  simp only [isQuote, Bool.or_eq_true, beq_iff_eq] at h
  rcases h with (rfl | rfl) | rfl <;> decide

theorem ne_slash_of_isQuote
    {quote : Char}
    (h : isQuote quote = true) :
    quote ≠ '\\' := by
  exact (delimits_of_isQuote h).ne_slash

theorem isNameChar_of_isQuote
    {quote : Char}
    (h : isQuote quote = true) :
    isNameChar quote = false := by
  simp only [isQuote, Bool.or_eq_true, beq_iff_eq] at h
  rcases h with (rfl | rfl) | rfl <;> decide

theorem isEnclosed_iff
    {s : List Char} :
    isEnclosed s = true ↔ ∃ quote inner, isQuote quote = true ∧ s = quote :: (inner ++ [quote]) := by
  constructor
  · intro h
    cases s with
    | nil =>
        cases h
    | cons quote s =>
        simp only [isEnclosed, Bool.and_eq_true, beq_iff_eq] at h
        obtain ⟨inner, rfl⟩ := List.getLast?_eq_some_iff.mp h.2
        exact ⟨quote, inner, h.1, rfl⟩
  · rintro ⟨quote, inner, hquote, rfl⟩
    simp [isEnclosed, hquote]

/-- Whether a text is a literal is found by reading it once. -/
theorem isLiteral_iff
    {s : List Char} :
    isEnclosed s = true ∧ (s.head?.any fun quote => Quoted.isContained quote s.tail.dropLast) = true ↔
      IsLiteral s := by
  rw [isEnclosed_iff]
  constructor
  · rintro ⟨⟨quote, inner, hquote, rfl⟩, hinner⟩
    refine ⟨quote, inner, hquote, rfl, ?_⟩
    rw [← Quoted.isContained_iff (ne_slash_of_isQuote hquote)]
    simpa using hinner
  · rintro ⟨quote, inner, hquote, rfl, hinner⟩
    rw [← Quoted.isContained_iff (ne_slash_of_isQuote hquote)] at hinner
    exact ⟨⟨quote, inner, hquote, rfl⟩, by simpa using hinner⟩

instance (s : List Char) : Decidable (IsLiteral s) :=
  decidable_of_iff _ isLiteral_iff

/-! ## Names without blanks -/

section Unspaced

variable {w : String}

theorem isSyntactic_iff_isBare
    (hw : ∀ c ∈ w.toList, isBlank c = false) :
    isSyntactic w = true ↔ IsBare w := by
  simp only [isSyntactic, holdsUpToNewline_of_unspaced hw, Bool.and_eq_true, Bool.not_eq_true',
    List.contains_eq_mem, decide_eq_false_iff_not]
  constructor
  · rintro ⟨⟨hword, hdots⟩, hidentifier⟩
    exact ⟨hidentifier, hword, hdots⟩
  · rintro ⟨hidentifier, hword, hdots⟩
    exact ⟨⟨hword, hdots⟩, hidentifier⟩

/-- A name that comes with quotes does not start like a bare one. -/
theorem not_isBare_of_hasQuotes
    (hw : ∀ c ∈ w.toList, isBlank c = false)
    (hquotes : hasQuotes w = true) :
    ¬ IsBare w := by
  intro hbare
  rw [hasQuotes, holdsUpToNewline_of_unspaced hw, isEnclosed_iff] at hquotes
  obtain ⟨quote, inner, hquote, hw⟩ := hquotes
  have hname := (isNameChar_of_mem_identifier hbare.identifier).2 quote (by simp [hw])
  rw [isNameChar_of_isQuote hquote] at hname
  cases hname

/-- A name that is put between quotes is a literal. -/
theorem isLiteral_encode
    {quote : Char}
    (hquote : isQuote quote = true)
    (w : String) :
    IsLiteral (Quoted.encode w (String.singleton quote)).toList := by
  have hdelimits := delimits_of_isQuote hquote
  refine ⟨quote, w.toList.flatMap (Quoted.writeChar quote), hquote, ?_, ?_⟩
  · exact Quoted.toList_encode hdelimits w
  · exact Quoted.contained_flatMap_writeChar hdelimits w.toList

theorem quoteWith_of_hasQuotes
    (quote : String)
    (hquotes : hasQuotes w = true) :
    quoteWith quote w = w := by
  simp [quoteWith, hquotes]

/-- A name becomes a token unless it comes with quotes and is no literal. -/
theorem isToken_quoteWith
    (quote : Char)
    (hquote : isQuote quote = true)
    (hw : ∀ c ∈ w.toList, isBlank c = false) :
    IsToken (quoteWith (String.singleton quote) w) ↔
      (hasQuotes w = true → IsLiteral w.toList) := by
  by_cases hquotes : hasQuotes w = true
  · rw [quoteWith_of_hasQuotes _ hquotes, IsToken, or_iff_right (not_isBare_of_hasQuotes hw hquotes)]
    simp [hquotes]
  · refine iff_of_true ?_ fun h => absurd h hquotes
    by_cases hsyntactic : isSyntactic w = true
    · rw [quoteWith, if_pos (by simp [hsyntactic])]
      exact Or.inl ((isSyntactic_iff_isBare hw).mp hsyntactic)
    · rw [quoteWith, if_neg (by simp [hquotes, hsyntactic])]
      exact Or.inr (isLiteral_encode hquote w)

theorem unspaced_of_any
    (h : w.toList.any isBlank = false) :
    ∀ c ∈ w.toList, isBlank c = false := by
  simpa using h

end Unspaced

/-- What a name without blanks becomes is one token, bare or between quotes, exactly if the name is a literal
already or does not come with quotes.  A name that comes with quotes stays as it is. -/
theorem isToken_iff_of_unspaced
    {w : String}
    (hw : ∀ c ∈ w.toList, isBlank c = false) :
    (IsToken (autoBacktick w) ↔ (hasQuotes w = true → IsLiteral w.toList)) ∧
    (IsToken (autoQuote w) ↔ (hasQuotes w = true → IsLiteral w.toList)) ∧
    (hasQuotes w = true → autoBacktick w = w ∧ autoQuote w = w) := by
  refine ⟨?_, ?_, ?_⟩
  · exact isToken_quoteWith backtick (by decide) hw
  · exact isToken_quoteWith '\x22' (by decide) hw
  · intro hquotes
    exact ⟨quoteWith_of_hasQuotes _ hquotes, quoteWith_of_hasQuotes _ hquotes⟩

theorem isToken_of_escaped_inner_quote :
    (∀ c ∈ "\x22a\\\x22b\x22".toList, isBlank c = false) ∧
    hasQuotes "\x22a\\\x22b\x22" = true ∧
    IsToken (autoBacktick "\x22a\\\x22b\x22") ∧ IsToken (autoQuote "\x22a\\\x22b\x22") := by
  have hw : ∀ c ∈ "\x22a\\\x22b\x22".toList, isBlank c = false :=
    unspaced_of_any (by decide)
  have hliteral : IsLiteral "\x22a\\\x22b\x22".toList := by
    decide
  obtain ⟨hbacktick, hquote, -⟩ := isToken_iff_of_unspaced hw
  exact ⟨hw, by decide, hbacktick.mpr fun _ => hliteral, hquote.mpr fun _ => hliteral⟩

/-- A quote inside the quotes that a name comes with is left as it is, and ends the literal too early. -/
theorem not_isToken_of_bare_inner_quote :
    (∀ c ∈ "\x22a\x22b\x22".toList, isBlank c = false) ∧
    autoBacktick "\x22a\x22b\x22" = "\x22a\x22b\x22" ∧
    ¬ IsToken (autoBacktick "\x22a\x22b\x22") ∧ ¬ IsToken (autoQuote "\x22a\x22b\x22") := by
  have hw : ∀ c ∈ "\x22a\x22b\x22".toList, isBlank c = false :=
    unspaced_of_any (by decide)
  have hquotes : hasQuotes "\x22a\x22b\x22" = true := by
    decide
  have hbroken : ¬ IsLiteral "\x22a\x22b\x22".toList := by
    decide
  have hnone : ¬ IsToken "\x22a\x22b\x22" := by
    rintro (hbare | hliteral)
    · exact not_isBare_of_hasQuotes hw hquotes hbare
    · exact hbroken hliteral
  have hbacktick : autoBacktick "\x22a\x22b\x22" = "\x22a\x22b\x22" :=
    quoteWith_of_hasQuotes _ hquotes
  have hquote : autoQuote "\x22a\x22b\x22" = "\x22a\x22b\x22" :=
    quoteWith_of_hasQuotes _ hquotes
  refine ⟨hw, hbacktick, ?_, ?_⟩
  · rwa [hbacktick]
  · rwa [hquote]

end Name
end Directive
end NamespaceManifest
