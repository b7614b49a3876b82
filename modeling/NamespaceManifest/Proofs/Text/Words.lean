import NamespaceManifest.Proofs.Text.Lines
import Mathlib.Data.List.DropRight

/-!
# Words of a text

The words that a text is cut into are not empty and hold no blank.  Every line break is a blank, so a word
stands on a single line.  Words that are put together with single spaces are cut into the same words again
(`words_intercalate`).

Blanks at the ends of a text are its padding.  They change neither the words (`words_padded`) nor what trimming
leaves (`trim_padded`).  A text is what trimming leaves of it, with some padding (`exists_trim`).  Hence whatever
ignores padding does not see whether a text was trimmed (`eq_of_ignores_padding`).
-/

namespace NamespaceManifest
namespace Text

/-- A text that is not empty and holds no blank. -/
def IsWord (w : String) : Prop :=
  w ≠ "" ∧ ∀ c ∈ w.toList, isBlank c = false

theorem of_mem_consHead
    {c : Char} {w : List Char} {pieces : List (List Char)}
    (h : w ∈ consHead c pieces) :
    w = [c] ∨ (∃ piece ∈ pieces, w = c :: piece) ∨ w ∈ pieces := by
  cases pieces with
  | nil =>
      exact Or.inl (List.mem_singleton.mp h)
  | cons piece pieces =>
      rcases List.mem_cons.mp h with rfl | h
      · exact Or.inr (Or.inl ⟨piece, by simp, rfl⟩)
      · exact Or.inr (Or.inr (List.mem_cons_of_mem piece h))

theorem of_mem_wordsOf
    {s w : List Char}
    (h : w ∈ wordsOf s) :
    w ≠ [] ∧ ∀ c ∈ w, isBlank c = false := by
  fun_induction wordsOf s generalizing w with
  | case1 =>
      cases h
  | case2 c hc =>
      cases h
  | case3 c hc =>
      obtain rfl := List.mem_singleton.mp h
      simpa using hc
  | case4 c d s hc ih =>
      exact ih h
  | case5 c d s hc hd ih =>
      rcases List.mem_cons.mp h with rfl | h
      · simpa using hc
      · exact ih h
  | case6 c d s hc hd ih =>
      have hc : isBlank c = false := by simpa using hc
      rcases of_mem_consHead h with rfl | ⟨piece, hpiece, rfl⟩ | h
      · simpa using hc
      · simp only [ne_eq, reduceCtorEq, not_false_eq_true, true_and, List.forall_mem_cons]
        exact ⟨hc, (ih hpiece).2⟩
      · exact ih h

/-- The words of a text are words. -/
theorem isWord_of_mem_words
    {s w : String}
    (h : w ∈ words s) :
    IsWord w := by
  obtain ⟨cs, hcs, rfl⟩ := List.mem_map.mp h
  obtain ⟨hne, hblank⟩ := of_mem_wordsOf hcs
  refine ⟨?_, by simpa using hblank⟩
  intro hempty
  exact hne (by simpa using congrArg String.toList hempty)

theorem IsWord.unbroken
    {w : String}
    (h : IsWord w) :
    Unbroken w.toList := by
  intro c hc
  by_contra hbreak
  have hblank := isBlank_of_isLineBreak (by simpa using hbreak)
  rw [h.2 c hc] at hblank
  cases hblank

/-- Words with spaces between them stand on a single line. -/
theorem unbroken_intercalate
    {items : List String}
    (hitems : ∀ w ∈ items, IsWord w) :
    Unbroken (" ".intercalate items).toList := by
  induction items with
  | nil =>
      exact unbroken_nil
  | cons w items ih =>
      rw [List.forall_mem_cons] at hitems
      cases items with
      | nil =>
          simpa using hitems.1.unbroken
      | cons v items =>
          have hspace : isLineBreak ' ' = false := by decide
          rw [String.intercalate_cons_cons]
          simpa [unbroken_append, unbroken_cons, hspace, hitems.1.unbroken] using ih hitems.2

/-! ## Padding -/

/-- Characters that are all blank. -/
def Padding (s : List Char) : Prop :=
  ∀ c ∈ s, isBlank c = true

theorem padding_cons
    {c : Char} {s : List Char} :
    Padding (c :: s) ↔ isBlank c = true ∧ Padding s := by
  exact List.forall_mem_cons

theorem isBlankText_iff
    {s : String} :
    isBlankText s = true ↔ Padding s.toList := by
  exact List.all_eq_true

section Chars

variable {l r : List Char}

theorem trimChars_padded
    (hl : Padding l)
    (hr : Padding r)
    (s : List Char) :
    trimChars (l ++ s ++ r) = trimChars s := by
  have hback : ∀ t, dropEndWhile isBlank (t ++ r) = dropEndWhile isBlank t := by
    intro t
    rw [dropEndWhile, dropEndWhile, List.reverse_append, List.dropWhile_append_of_pos]
    exact fun c hc => hr c (List.mem_reverse.mp hc)
  rw [trimChars, trimChars, List.append_assoc, List.dropWhile_append_of_pos hl, List.dropWhile_append]
  split_ifs with hempty
  · -- a text of padding only is gone when its front is dropped
    have hnone : r.dropWhile isBlank = [] :=
      List.dropWhile_eq_nil_iff.mpr hr
    rw [hnone, List.isEmpty_iff.mp hempty]
  · exact hback _

theorem exists_trimChars
    (s : List Char) :
    ∃ l r, Padding l ∧ Padding r ∧ s = l ++ trimChars s ++ r := by
  refine ⟨s.takeWhile isBlank, (s.dropWhile isBlank).rtakeWhile isBlank, ?_, ?_, ?_⟩
  · exact fun c hc => List.mem_takeWhile_imp hc
  · exact fun c hc => List.mem_rtakeWhile_imp hc
  · have hback : trimChars s = (s.dropWhile isBlank).rdropWhile isBlank := rfl
    rw [hback, List.append_assoc, List.rdropWhile_append_rtakeWhile, List.takeWhile_append_dropWhile]

theorem wordsOf_cons_blank
    {c : Char}
    (hc : isBlank c = true)
    (s : List Char) :
    wordsOf (c :: s) = wordsOf s := by
  cases s <;> simp [wordsOf, hc]

theorem wordsOf_append_left
    (hl : Padding l)
    (s : List Char) :
    wordsOf (l ++ s) = wordsOf s := by
  induction l with
  | nil =>
      rfl
  | cons c l ih =>
      rw [padding_cons] at hl
      obtain ⟨hc, hl⟩ := hl
      rw [List.cons_append, wordsOf_cons_blank hc, ih hl]

theorem wordsOf_padding
    (hr : Padding r) :
    wordsOf r = [] := by
  simpa [wordsOf] using wordsOf_append_left hr []

/-- Padding ends where a word starts. -/
theorem dropWhile_padding_word
    {w : String}
    (hl : Padding l)
    (hw : IsWord w)
    (s : List Char) :
    (l ++ (w.toList ++ s)).dropWhile isBlank = w.toList ++ s := by
  rw [List.dropWhile_append_of_pos hl]
  cases hchars : w.toList with
  | nil =>
      exact absurd (by simpa using hchars) hw.1
  | cons c cs =>
      have hc : isBlank c = false := hw.2 c (by simp [hchars])
      simp [hc]

/-- A word ends where a blank stands. -/
theorem wordsOf_word_append
    {w : List Char} {b : Char}
    (hne : w ≠ [])
    (hw : ∀ c ∈ w, isBlank c = false)
    (hb : isBlank b = true)
    (s : List Char) :
    wordsOf (w ++ b :: s) = w :: wordsOf s := by
  induction w with
  | nil =>
      exact absurd rfl hne
  | cons c w ih =>
      obtain ⟨hc, hw⟩ := List.forall_mem_cons.mp hw
      cases w with
      | nil =>
          simp [wordsOf, hc, hb, wordsOf_cons_blank hb]
      | cons d w =>
          have ih := ih (by simp) hw
          simp only [List.cons_append] at ih ⊢
          simp [wordsOf, hc, hw d (by simp), ih, consHead]

theorem wordsOf_append_right
    (hr : Padding r)
    (s : List Char) :
    wordsOf (s ++ r) = wordsOf s := by
  fun_induction wordsOf s with
  | case1 =>
      exact wordsOf_padding hr
  | case2 c hc =>
      rw [List.singleton_append, wordsOf_cons_blank hc, wordsOf_padding hr]
  | case3 c hc =>
      cases r with
      | nil =>
          simp [wordsOf, hc]
      | cons b r =>
          rw [padding_cons] at hr
          obtain ⟨hb, hr⟩ := hr
          rw [wordsOf_word_append (by simp) (by simpa using hc) hb, wordsOf_padding hr]
  | case4 c d s hc ih =>
      rw [List.cons_append, wordsOf_cons_blank hc, ih]
  | case5 c d s hc hd ih =>
      rw [List.cons_append] at ih
      simp [wordsOf, hc, hd, ih]
  | case6 c d s hc hd ih =>
      rw [List.cons_append] at ih
      simp [wordsOf, hc, hd, ih]

theorem wordsOf_word
    {w : List Char}
    (hne : w ≠ [])
    (hw : ∀ c ∈ w, isBlank c = false) :
    wordsOf w = [w] := by
  have hspace : Padding [' '] := by
    simp [Padding, isBlank]
  rw [← wordsOf_append_right hspace w, wordsOf_word_append hne hw (by decide)]
  rfl

end Chars

section Padded

variable {left right : String}

theorem words_padded
    (hl : isBlankText left = true)
    (hr : isBlankText right = true)
    (s : String) :
    words (left ++ s ++ right) = words s := by
  rw [isBlankText_iff] at hl hr
  rw [words, words, String.toList_append, String.toList_append, wordsOf_append_right hr,
    wordsOf_append_left hl]

theorem trim_padded
    (hl : isBlankText left = true)
    (hr : isBlankText right = true)
    (s : String) :
    trim (left ++ s ++ right) = trim s := by
  rw [isBlankText_iff] at hl hr
  rw [trim, trim, String.toList_append, String.toList_append, trimChars_padded hl hr]

theorem isBlankText_padded
    (hl : isBlankText left = true)
    (hr : isBlankText right = true)
    (s : String) :
    isBlankText (left ++ s ++ right) = isBlankText s := by
  rw [isBlankText] at hl hr
  simp [isBlankText, List.all_append, hl, hr]

end Padded

/-- A text is what trimming leaves of it, with some padding. -/
theorem exists_trim
    (s : String) :
    ∃ left right,
      isBlankText left = true ∧ isBlankText right = true ∧ s = left ++ trim s ++ right := by
  obtain ⟨l, r, hl, hr, hs⟩ := exists_trimChars s.toList
  refine ⟨String.ofList l, String.ofList r, ?_, ?_, ?_⟩
  · rwa [isBlankText_iff, String.toList_ofList]
  · rwa [isBlankText_iff, String.toList_ofList]
  · apply String.toList_inj.mp
    simpa [trim] using hs

theorem unbroken_trim
    {s : String}
    (hs : Unbroken s.toList) :
    Unbroken (trim s).toList := by
  obtain ⟨left, right, -, -, htext⟩ := exists_trim s
  rw [htext, String.toList_append, String.toList_append, unbroken_append, unbroken_append] at hs
  exact hs.1.2

/-- What ignores padding does not see whether a text was trimmed. -/
theorem eq_of_ignores_padding
    {α : Type} {g : String → α}
    (hg : ∀ {left right}, isBlankText left = true → isBlankText right = true →
      ∀ s, g (left ++ s ++ right) = g s)
    (s : String) :
    g (trim s) = g s := by
  obtain ⟨left, right, hl, hr, hs⟩ := exists_trim s
  calc g (trim s)
      = g (left ++ trim s ++ right) := (hg hl hr (trim s)).symm
    _ = g s := by rw [← hs]

theorem trim_trim
    (s : String) :
    trim (trim s) = trim s := by
  exact eq_of_ignores_padding trim_padded s

theorem isBlankText_trim
    (s : String) :
    isBlankText (trim s) = isBlankText s := by
  exact eq_of_ignores_padding isBlankText_padded s

/-! ## Words put together -/

/-- Words with spaces between them are cut into the same words again. -/
theorem words_intercalate
    {items : List String}
    (hitems : ∀ w ∈ items, IsWord w) :
    words (" ".intercalate items) = items := by
  have hchars : ∀ {w : String}, IsWord w → w.toList ≠ [] := by
    intro w hw
    simpa using hw.1
  induction items with
  | nil =>
      rfl
  | cons w items ih =>
      obtain ⟨hw, hitems⟩ := List.forall_mem_cons.mp hitems
      cases items with
      | nil =>
          simp [words, wordsOf_word (hchars hw) hw.2]
      | cons v items =>
          have htext : (" ".intercalate (w :: v :: items)).toList =
              w.toList ++ ' ' :: (" ".intercalate (v :: items)).toList := by
            simp [String.intercalate_cons_cons]
          rw [words, htext, wordsOf_word_append (hchars hw) hw.2 (by decide), List.map_cons,
            String.ofList_toList, ← words, ih hitems]

end Text
end NamespaceManifest
