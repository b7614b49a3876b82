import NamespaceManifest.Text.Quoted
import Mathlib.Algebra.Ring.Parity
import Mathlib.Data.List.Basic
import Mathlib.Data.List.DropRight
import Mathlib.Tactic.SplitIfs

/-!
# Reading literals

A literal is read from its opening quote on: a backslash and the character after it stand for one character,
and the first quote that no backslash precedes ends the literal.

Although a literal is written in two steps, every character of the text gives a piece of its own
(`encodeChars_singleton`).  No piece starts like another one or like the closing quote, so the text comes
back, whatever stands after the literal (`readLiteral_encodeChars`).

Whether a text stays inside its quotes can be told without reading it: a quote is escaped if an odd number of
backslashes stands right before it (`Contained`).  Both ways to look at it agree (`isContained_iff`).

A text that stays inside its quotes can be taken out of them and its escapes be undone on their own, with the same
result (`readLiteral_of_contained`).  For strings this says that writing loses nothing (`encode_reads_back`).
-/

namespace NamespaceManifest
namespace Text
namespace Quoted

/-! ## Writing character by character -/

/-- A quote that takes no part in the escapes, as the backtick and the double quote. -/
abbrev Delimits (quote : Char) : Prop :=
  quote ∉ ['\\', 'n', 't', 'r', '\n', '\t', '\r']

theorem Delimits.ne_slash
    {quote : Char}
    (hquote : Delimits quote) :
    quote ≠ '\\' := by
  rintro rfl
  exact hquote (by decide)

/-- A character as it stands between two quotes. -/
def writeChar (quote c : Char) : List Char :=
  if c = quote then ['\\', quote] else escapeChar c

theorem mark_singleton
    (quote : Char)
    (s : List Char) :
    mark [quote] s = s.flatMap fun c => if c = quote then ['\\', c] else [c] := by
  have hafter : markAfter [quote] 0 s = s.flatMap fun c => if c = quote then ['\\', c] else [c] := by
    induction s with
    | nil =>
        rfl
    | cons c s ih =>
        rw [markAfter, List.flatMap_cons]
        by_cases hc : c = quote
        · simp [hc, ih]
        · simp [hc, Ne.symm hc, ih]
  simpa [mark] using hafter

/-- The second step of writing a literal finds no quote in an escape. -/
theorem flatMap_mark_escapeChar
    {quote : Char}
    (hquote : Delimits quote)
    (c : Char) :
    ((escapeChar c).flatMap fun d => if d = quote then ['\\', d] else [d]) = writeChar quote c := by
  simp only [Delimits, List.mem_cons, List.not_mem_nil, or_false, not_or] at hquote
  obtain ⟨hslash, hn, ht, hr, hfeed, htab, hreturn⟩ := hquote
  unfold writeChar
  by_cases hc : c = quote
  · subst hc
    simp [escapeChar, hslash, hfeed, htab, hreturn]
  · rw [if_neg hc]
    unfold escapeChar
    split_ifs
    · simp [Ne.symm hslash]
    · simp [Ne.symm hslash, Ne.symm hn]
    · simp [Ne.symm hslash, Ne.symm ht]
    · simp [Ne.symm hslash, Ne.symm hr]
    · simp [hc]

theorem encodeChars_singleton
    {quote : Char}
    (hquote : Delimits quote)
    (s : List Char) :
    encodeChars [quote] s = quote :: (s.flatMap (writeChar quote) ++ [quote]) := by
  have hbody : mark [quote] (escape s) = s.flatMap (writeChar quote) := by
    rw [mark_singleton, escape, List.flatMap_assoc]
    exact List.flatMap_congr fun c _ => flatMap_mark_escapeChar hquote c
  rw [encodeChars, hbody]
  simp

/-! ## Reading -/

/-- The character that a backslash and another character stand for. -/
def unescape? (quote c : Char) : Option Char :=
  if c = '\\' then some '\\'
  else if c = 'n' then some '\n'
  else if c = 't' then some '\t'
  else if c = 'r' then some '\r'
  else if c = quote then some quote
  else none

/-- The text of a literal after its opening quote, and what stands after its closing one. -/
def readLiteral (quote : Char) : List Char → Option (List Char × List Char)
  | [] => none
  | '\\' :: c :: s =>
      (unescape? quote c).bind fun d =>
        (readLiteral quote s).map fun (text, rest) => (d :: text, rest)
  | c :: s =>
      if c = quote then some ([], s)
      else (readLiteral quote s).map fun (text, rest) => (c :: text, rest)

theorem readLiteral_escaped
    {quote c d : Char}
    (h : unescape? quote c = some d)
    (s : List Char) :
    readLiteral quote ('\\' :: c :: s) =
      (readLiteral quote s).map fun (text, rest) => (d :: text, rest) := by
  rw [readLiteral, h, Option.bind_some]

theorem readLiteral_cons
    {quote c : Char}
    (hc : c ≠ '\\')
    (s : List Char) :
    readLiteral quote (c :: s) =
      if c = quote then some ([], s)
      else (readLiteral quote s).map fun (text, rest) => (c :: text, rest) := by
  rw [readLiteral]
  intro d rest heq
  exact absurd heq hc

/-- A written character is read back. -/
theorem readLiteral_writeChar
    {quote : Char}
    (hquote : Delimits quote)
    (c : Char)
    (s : List Char) :
    readLiteral quote (writeChar quote c ++ s) =
      (readLiteral quote s).map fun (text, rest) => (c :: text, rest) := by
  simp only [Delimits, List.mem_cons, List.not_mem_nil, or_false, not_or] at hquote
  obtain ⟨hslash, hn, ht, hr, -, -, -⟩ := hquote
  unfold writeChar
  split_ifs with hc
  · subst hc
    exact readLiteral_escaped (by simp [unescape?, hslash, hn, ht, hr]) s
  · unfold escapeChar
    split_ifs with h₁ h₂ h₃ h₄
    · subst h₁
      exact readLiteral_escaped rfl s
    · subst h₂
      exact readLiteral_escaped rfl s
    · subst h₃
      exact readLiteral_escaped rfl s
    · subst h₄
      exact readLiteral_escaped rfl s
    · exact (readLiteral_cons h₁ s).trans (if_neg hc)

theorem readLiteral_flatMap_writeChar
    {quote : Char}
    (hquote : Delimits quote)
    (s rest : List Char) :
    readLiteral quote (s.flatMap (writeChar quote) ++ quote :: rest) = some (s, rest) := by
  induction s with
  | nil =>
      exact (readLiteral_cons hquote.ne_slash rest).trans (if_pos rfl)
  | cons c s ih =>
      rw [List.flatMap_cons, List.append_assoc, readLiteral_writeChar hquote, ih]
      rfl

/-- A literal is read back, whatever stands after it. -/
theorem readLiteral_encodeChars
    {quote : Char}
    (hquote : Delimits quote)
    (s rest : List Char) :
    ∃ t, encodeChars [quote] s ++ rest = quote :: t ∧ readLiteral quote t = some (s, rest) := by
  refine ⟨s.flatMap (writeChar quote) ++ quote :: rest, ?_, ?_⟩
  · rw [encodeChars_singleton hquote]
    simp
  · exact readLiteral_flatMap_writeChar hquote s rest

/-! ## Texts that stay inside their quotes -/

/-- The number of backslashes at the end of a text. -/
def slashRun (s : List Char) : Nat :=
  (s.rtakeWhile (· = '\\')).length

/-- Between two quotes a text neither ends the literal early nor keeps it from ending: every quote in it is
escaped by an odd run of backslashes, and the closing quote has an even run before it. -/
structure Contained (quote : Char) (inner : List Char) : Prop where
  escaped : ∀ before after, inner = before ++ quote :: after → Odd (slashRun before)
  closed : Even (slashRun inner)

/-- The same, read from the left: a backslash takes the next character with it. -/
def isContained (quote : Char) : List Char → Bool
  | [] => true
  | ['\\'] => false
  | '\\' :: _ :: s => isContained quote s
  | c :: s => c != quote && isContained quote s

theorem slashRun_le_length
    (s : List Char) :
    slashRun s ≤ s.length := by
  exact (List.rtakeWhile_suffix _ s).length_le

/-- A character in front of a text lengthens the run at its end only if there is nothing but backslashes. -/
theorem slashRun_cons
    (c : Char)
    (s : List Char) :
    slashRun (c :: s) = slashRun s + if c = '\\' ∧ slashRun s = s.length then 1 else 0 := by
  simp only [slashRun, List.rtakeWhile, List.reverse_cons, List.takeWhile_append, List.length_reverse]
  by_cases hc : c = '\\'
  · by_cases hrun : (s.reverse.takeWhile (· = '\\')).length = s.length
    · simp [hc, hrun]
    · simp [hrun]
  · by_cases hrun : (s.reverse.takeWhile (· = '\\')).length = s.length
    · simp [hc, hrun]
    · simp [hrun]

theorem slashRun_cons_of_ne
    {c : Char}
    (hc : c ≠ '\\')
    (s : List Char) :
    slashRun (c :: s) = slashRun s := by
  simp [slashRun_cons, hc]

/-- An escape in front of a text does not change whether the run at its end is even. -/
theorem even_slashRun_escape
    (c : Char)
    (s : List Char) :
    Even (slashRun ('\\' :: c :: s)) ↔ Even (slashRun s) := by
  have hle := slashRun_le_length s
  rw [slashRun_cons, slashRun_cons, List.length_cons]
  by_cases hall : c = '\\' ∧ slashRun s = s.length
  · -- both characters of the escape go on with the run
    rw [if_pos hall, if_pos ⟨rfl, by omega⟩, Nat.even_add_one, Nat.even_add_one, not_not]
  · rw [if_neg hall, if_neg (by omega), Nat.add_zero]

theorem odd_slashRun_escape
    (c : Char)
    (s : List Char) :
    Odd (slashRun ('\\' :: c :: s)) ↔ Odd (slashRun s) := by
  rw [← Nat.not_even_iff_odd, ← Nat.not_even_iff_odd, even_slashRun_escape]

/-- A character that neither stands alone nor takes the next one with it is no backslash. -/
theorem ne_slash_of_unescaped
    {c : Char} {s : List Char}
    (hsingle : c = '\\' → s = [] → False)
    (hescape : ∀ d t, c = '\\' → s = d :: t → False) :
    c ≠ '\\' := by
  intro hc
  cases s with
  | nil =>
      exact hsingle hc rfl
  | cons d t =>
      exact hescape d t hc rfl

section Contained

variable {quote c : Char} {s : List Char}

theorem contained_nil :
    Contained quote [] := by
  refine ⟨?_, by decide⟩
  intro before after h
  cases before <;> cases h

theorem contained_escape
    (hquote : quote ≠ '\\') :
    Contained quote ('\\' :: c :: s) ↔ Contained quote s := by
  constructor
  · rintro ⟨hescaped, hclosed⟩
    refine ⟨?_, (even_slashRun_escape c s).mp hclosed⟩
    rintro before after rfl
    exact (odd_slashRun_escape c before).mp (hescaped ('\\' :: c :: before) after rfl)
  · rintro ⟨hescaped, hclosed⟩
    refine ⟨?_, (even_slashRun_escape c s).mpr hclosed⟩
    intro before after h
    match before with
    | [] =>
        exact absurd (List.cons.inj h).1.symm hquote
    | [_] =>
        obtain ⟨rfl, -⟩ := List.cons.inj h
        decide
    | _ :: _ :: before =>
        simp only [List.cons_append, List.cons.injEq] at h
        obtain ⟨rfl, rfl, h⟩ := h
        exact (odd_slashRun_escape c before).mpr (hescaped before after h)

theorem contained_cons
    (hc : c ≠ '\\') :
    Contained quote (c :: s) ↔ c ≠ quote ∧ Contained quote s := by
  constructor
  · rintro ⟨hescaped, hclosed⟩
    refine ⟨?_, ?_, ?_⟩
    · rintro rfl
      exact absurd (hescaped [] s rfl) (by decide)
    · rintro before after rfl
      rw [← slashRun_cons_of_ne hc]
      exact hescaped (c :: before) after rfl
    · rwa [slashRun_cons_of_ne hc] at hclosed
  · rintro ⟨hne, hescaped, hclosed⟩
    refine ⟨?_, ?_⟩
    · intro before after h
      cases before with
      | nil =>
          exact absurd (List.cons.inj h).1 hne
      | cons d before =>
          simp only [List.cons_append, List.cons.injEq] at h
          obtain ⟨rfl, h⟩ := h
          rw [slashRun_cons_of_ne hc]
          exact hescaped before after h
    · rwa [slashRun_cons_of_ne hc]

/-- Counting backslashes before the quotes comes to the same as reading from the left. -/
theorem isContained_iff
    (hquote : quote ≠ '\\')
    (s : List Char) :
    isContained quote s = true ↔ Contained quote s := by
  fun_induction isContained quote s with
  | case1 =>
      simp [contained_nil]
  | case2 =>
      -- a single backslash escapes the closing quote
      simp only [Bool.false_eq_true, false_iff]
      intro h
      exact absurd h.closed (by decide)
  | case3 c s ih =>
      rw [ih, contained_escape hquote]
  | case4 c s hsingle hslash ih =>
      have hc := ne_slash_of_unescaped hsingle hslash
      rw [Bool.and_eq_true, bne_iff_ne, ih, contained_cons hc]

end Contained

/-- A text that was written as a literal stays inside the quotes. -/
theorem contained_flatMap_writeChar
    {quote : Char}
    (hquote : Delimits quote)
    (s : List Char) :
    Contained quote (s.flatMap (writeChar quote)) := by
  have hslash := hquote.ne_slash
  induction s with
  | nil =>
      exact contained_nil
  | cons c s ih =>
      rw [List.flatMap_cons]
      unfold writeChar
      split_ifs with hc
      · exact (contained_escape hslash).mpr ih
      · unfold escapeChar
        split_ifs with hback
        · exact (contained_escape hslash).mpr ih
        · exact (contained_escape hslash).mpr ih
        · exact (contained_escape hslash).mpr ih
        · exact (contained_escape hslash).mpr ih
        · exact (contained_cons hback).mpr ⟨hc, ih⟩

/-! ## Undoing the escapes -/

/-- The text that a text between quotes stands for: its escapes are undone from left to right. -/
def undo? (quote : Char) : List Char → Option (List Char)
  | [] => some []
  | ['\\'] => none
  | '\\' :: c :: s => (unescape? quote c).bind fun d => (undo? quote s).map (d :: ·)
  | c :: s => (undo? quote s).map (c :: ·)

/-- A literal whose text stays inside its quotes is read to the closing one, with the escapes of the text
undone. -/
theorem readLiteral_of_contained
    {quote : Char} {inner : List Char}
    (hquote : quote ≠ '\\')
    (h : Contained quote inner)
    (rest : List Char) :
    readLiteral quote (inner ++ quote :: rest) = (undo? quote inner).map fun text => (text, rest) := by
  fun_induction undo? quote inner with
  | case1 =>
      rw [List.nil_append, readLiteral_cons hquote, if_pos rfl]
      rfl
  | case2 =>
      exact absurd h.closed (by decide)
  | case3 c s ih =>
      rw [contained_escape hquote] at h
      rw [List.cons_append, List.cons_append, readLiteral, ih h]
      cases unescape? quote c <;> simp [Function.comp_def]
  | case4 c s hsingle hescape ih =>
      have hc := ne_slash_of_unescaped hsingle hescape
      obtain ⟨hne, h⟩ := (contained_cons hc).mp h
      rw [List.cons_append, readLiteral_cons hc, if_neg hne, ih h]
      simp [Function.comp_def]

/-- The escapes of a written text can be undone. -/
theorem undo?_flatMap_writeChar
    {quote : Char}
    (hquote : Delimits quote)
    (s : List Char) :
    undo? quote (s.flatMap (writeChar quote)) = some s := by
  have hread := readLiteral_flatMap_writeChar hquote s []
  rw [readLiteral_of_contained hquote.ne_slash (contained_flatMap_writeChar hquote s)] at hread
  obtain ⟨text, hundo, htext⟩ := Option.map_eq_some_iff.mp hread
  rw [hundo, (Prod.mk.inj htext).1]

theorem not_mem_escapeChar
    (d : Char) :
    ∀ c ∈ ['\n', '\t', '\r'], c ∉ escapeChar d := by
  unfold escapeChar
  split_ifs with _ hfeed htab hreturn
  · simp
  · simp
  · simp
  · simp
  · simp [Ne.symm hfeed, Ne.symm htab, Ne.symm hreturn]

/-- No line feed, tab or carriage return is written as it is. -/
theorem not_mem_flatMap_writeChar
    {quote : Char}
    (hquote : Delimits quote)
    (s : List Char) :
    ∀ c ∈ ['\n', '\t', '\r'], c ∉ s.flatMap (writeChar quote) := by
  intro c hc hmem
  obtain ⟨d, -, hmem⟩ := List.mem_flatMap.mp hmem
  unfold writeChar at hmem
  split_ifs at hmem with hd
  · rcases List.mem_cons.mp hmem with rfl | hmem
    · exact absurd hc (by decide)
    · obtain rfl := List.mem_singleton.mp hmem
      have hsub : ['\n', '\t', '\r'] ⊆ ['\\', 'n', 't', 'r', '\n', '\t', '\r'] := by
        decide
      exact hquote (hsub hc)
  · exact not_mem_escapeChar d c hc hmem

/-! ## Strings -/

theorem toList_encode
    {quote : Char}
    (hquote : Delimits quote)
    (s : String) :
    (encode s (String.singleton quote)).toList =
      quote :: (s.toList.flatMap (writeChar quote) ++ [quote]) := by
  rw [encode, String.toList_ofList, String.toList_singleton, encodeChars_singleton hquote]

/-- Different strings have different literals. -/
theorem encode_injective
    {quote : Char}
    (hquote : Delimits quote) :
    Function.Injective fun s => encode s (String.singleton quote) := by
  intro s t h
  have hinner : s.toList.flatMap (writeChar quote) = t.toList.flatMap (writeChar quote) := by
    have hlist := congrArg String.toList h
    simpa only [toList_encode hquote, List.cons.injEq, true_and, List.append_cancel_right_eq]
      using hlist
  have hundo := congrArg (undo? quote) hinner
  rw [undo?_flatMap_writeChar hquote, undo?_flatMap_writeChar hquote] at hundo
  exact String.toList_inj.mp (Option.some.inj hundo)

/-- A string that is written as a literal stands between two quotes, stays inside them, holds no line feed, tab
or carriage return there, and comes back when the escapes are undone.  So no two strings have the same
literal. -/
theorem encode_reads_back
    {quote : Char}
    (hquote : Delimits quote)
    (s : String) :
    (∃ inner,
      (encode s (String.singleton quote)).toList = quote :: (inner ++ [quote]) ∧
      Contained quote inner ∧
      (∀ c ∈ ['\n', '\t', '\r'], c ∉ inner) ∧
      undo? quote inner = some s.toList) ∧
    ∀ t, encode t (String.singleton quote) = encode s (String.singleton quote) → t = s := by
  refine ⟨⟨s.toList.flatMap (writeChar quote), ?_, ?_, ?_, ?_⟩, ?_⟩
  · exact toList_encode hquote s
  · exact contained_flatMap_writeChar hquote s.toList
  · exact not_mem_flatMap_writeChar hquote s.toList
  · exact undo?_flatMap_writeChar hquote s.toList
  · exact fun t h => encode_injective hquote h

theorem encode_reads_back_slash_before_quote :
    let s := "\\\x22\n"
    let inner := "\\\\\\\x22\\n".toList
    Delimits '\x22' ∧ Delimits '\x60' ∧
    (encode s "\x22").toList = '\x22' :: (inner ++ ['\x22']) ∧
    Contained '\x22' inner ∧ undo? '\x22' inner = some s.toList ∧
    ∀ t, encode t "\x60" = encode s "\x60" → t = s := by
  intro s inner
  have hdouble : Delimits '\x22' := by
    decide
  have hback : Delimits '\x60' := by
    decide
  have hwritten : (encode s "\x22").toList = '\x22' :: (inner ++ ['\x22']) := by
    decide +kernel
  obtain ⟨⟨_, hread, hcontained, -, hundo⟩, -⟩ := encode_reads_back hdouble s
  have hinner := hread.symm.trans hwritten
  simp only [List.cons.injEq, List.append_cancel_right_eq, true_and] at hinner
  subst hinner
  exact ⟨hdouble, hback, hwritten, hcontained, hundo, (encode_reads_back hback s).2⟩

end Quoted
end Text
end NamespaceManifest
