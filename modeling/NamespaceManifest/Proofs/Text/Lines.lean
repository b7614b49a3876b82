import NamespaceManifest.Text.Lines
import Mathlib.Data.List.Basic
import Mathlib.Data.List.TakeWhile

/-!
# Laws of lines

Cutting a text into lines undoes putting lines together, as long as no line holds a break of its own.
There are two ways to put lines together:

* every line is followed by a newline, which is how files are written (`endedText`);
* entries are separated by line feeds and cut again, which is how a list of entries is laid out
  (`physicalLines`).  An entry may hold breaks.  Its lines then stand one after the other.

**Results.**
* `foldNewlines_endedText`, `linesOf_endedText`: lines that are written with either style of newlines
  and read with folded newlines are the same lines.
* `exists_head_of_prefix`: what a text starts with stands on its first line.
* `succ_lt_length_linesOf`: a text with a break of its own takes more than one line.
* `lines_infix_physicalLines`: the lines of an entry stay together in the layout.
* `physicalLines_eq_flatMap_laidOut`: entries of which the last ends in a character of its own are laid
  out one by one.
* `physicalLines_eq_self_iff`: such entries are laid out as they are if none of them is broken.
* `mem_physicalLines_iff`: but for empty lines, the layout has the lines of the entries and no others.
-/

namespace NamespaceManifest
namespace Text

/-- Characters among which there is no line break. -/
def Unbroken (s : List Char) : Prop :=
  ∀ c ∈ s, isLineBreak c = false

-- The characters of the text are looked at, not all characters.
instance (s : List Char) : Decidable (Unbroken s) :=
  List.decidableBAll (fun c => isLineBreak c = false) s

theorem unbroken_nil : Unbroken [] := by
  intro c hc
  cases hc

theorem unbroken_cons
    {c : Char} {s : List Char} :
    Unbroken (c :: s) ↔ isLineBreak c = false ∧ Unbroken s := by
  simp [Unbroken]

theorem unbroken_append
    {s t : List Char} :
    Unbroken (s ++ t) ↔ Unbroken s ∧ Unbroken t := by
  simp only [Unbroken, List.mem_append]
  constructor
  · intro h
    exact ⟨fun c hc => h c (Or.inl hc), fun c hc => h c (Or.inr hc)⟩
  · rintro ⟨hs, ht⟩ c (hc | hc)
    · exact hs c hc
    · exact ht c hc

theorem Unbroken.ne_newline
    {s : List Char}
    (hs : Unbroken s) :
    ∀ c ∈ s, (c != '\n') = true := by
  intro c hc
  rw [bne_iff_ne]
  rintro rfl
  exact absurd (hs _ hc) (by decide)

/-- A string is a single line when its characters are unbroken. -/
theorem isSingleLine_iff
    {s : String} :
    isSingleLine s = true ↔ Unbroken s.toList := by
  simp [isSingleLine, Unbroken]

/-! ## Cutting a text -/

theorem linesOf_nil : linesOf [] = [] := by
  rfl

theorem linesOf_pair
    (s : List Char) :
    linesOf ('\r' :: '\n' :: s) = [] :: linesOf s := by
  rfl

/-- Other characters than the first half of a pair are cut one by one. -/
theorem linesOf_cons
    {c : Char} {s : List Char}
    (hpair : c = '\r' → s.head? ≠ some '\n') :
    linesOf (c :: s) =
      if isLineBreak c then [] :: linesOf s else consHead c (linesOf s) := by
  rw [linesOf]
  rintro s' rfl rfl
  exact hpair rfl rfl

/-- A break that is not the first half of a pair opens a line of its own. -/
theorem linesOf_cons_break
    {c : Char} {s : List Char}
    (hc : isLineBreak c = true)
    (hpair : c = '\r' → s.head? ≠ some '\n') :
    linesOf (c :: s) = [] :: linesOf s := by
  rw [linesOf_cons hpair, if_pos hc]

/-- A character that is no break goes on with the first line. -/
theorem linesOf_cons_char
    {c : Char} {s : List Char}
    (hc : isLineBreak c = false) :
    linesOf (c :: s) = consHead c (linesOf s) := by
  have hpair : c = '\r' → s.head? ≠ some '\n' := by
    rintro rfl
    exact absurd hc (by decide)
  rw [linesOf_cons hpair, if_neg (ne_true_of_eq_false hc)]

theorem linesOf_newline
    (s : List Char) :
    linesOf ('\n' :: s) = [] :: linesOf s := by
  have hpair : '\n' = '\r' → s.head? ≠ some '\n' := by
    intro h
    exact absurd h (by decide)
  exact linesOf_cons_break (by decide) hpair

/-- An unbroken text before a line feed is the first line. -/
theorem linesOf_line
    {s : List Char}
    (hs : Unbroken s)
    (t : List Char) :
    linesOf (s ++ '\n' :: t) = s :: linesOf t := by
  induction s with
  | nil =>
      exact linesOf_newline t
  | cons c s ih =>
      rw [unbroken_cons] at hs
      obtain ⟨hc, hs⟩ := hs
      rw [List.cons_append, linesOf_cons_char hc, ih hs]
      rfl

/-- An unbroken text that is not empty is its only line. -/
theorem linesOf_unbroken
    {s : List Char}
    (hs : Unbroken s)
    (hne : s ≠ []) :
    linesOf s = [s] := by
  induction s with
  | nil =>
      exact absurd rfl hne
  | cons c s ih =>
      rw [unbroken_cons] at hs
      obtain ⟨hc, hs⟩ := hs
      rw [linesOf_cons_char hc]
      cases s with
      | nil =>
          rfl
      | cons d s =>
          rw [ih hs (by simp)]
          rfl

/-- No line holds a break. -/
theorem unbroken_of_mem_linesOf
    {s l : List Char}
    (hl : l ∈ linesOf s) :
    Unbroken l := by
  fun_induction linesOf s generalizing l with
  | case1 =>
      cases hl
  | case2 s ih =>
      rcases List.mem_cons.mp hl with rfl | hl
      · exact unbroken_nil
      · exact ih hl
  | case3 c s _ hc ih =>
      rcases List.mem_cons.mp hl with rfl | hl
      · exact unbroken_nil
      · exact ih hl
  | case4 c s _ hc ih =>
      have hc : isLineBreak c = false := by simpa using hc
      cases hs : linesOf s with
      | nil =>
          simp only [hs, consHead, List.mem_singleton] at hl
          subst hl
          rw [unbroken_cons]
          exact ⟨hc, unbroken_nil⟩
      | cons m ms =>
          simp only [hs, consHead, List.mem_cons] at hl ih
          rcases hl with rfl | hl
          · rw [unbroken_cons]
            exact ⟨hc, ih (Or.inl rfl)⟩
          · exact ih (Or.inr hl)

/-- The first line is how the text starts. -/
theorem head_prefix
    {s l : List Char} {ls : List (List Char)}
    (h : linesOf s = l :: ls) :
    l <+: s := by
  fun_induction linesOf s generalizing l ls with
  | case1 =>
      cases h
  | case2 s ih =>
      obtain ⟨rfl, -⟩ := List.cons.inj h
      exact List.nil_prefix
  | case3 c s _ hc ih =>
      obtain ⟨rfl, -⟩ := List.cons.inj h
      exact List.nil_prefix
  | case4 c s _ hc ih =>
      cases hs : linesOf s with
      | nil =>
          rw [hs, consHead] at h
          obtain ⟨rfl, -⟩ := List.cons.inj h
          exact List.prefix_append [c] s
      | cons m ms =>
          rw [hs, consHead] at h
          obtain ⟨rfl, -⟩ := List.cons.inj h
          exact List.cons_prefix_cons.mpr ⟨rfl, ih hs⟩

/-- The first line ends before the first line feed. -/
theorem head_prefix_takeWhile
    {s l : List Char} {ls : List (List Char)}
    (h : linesOf s = l :: ls) :
    l <+: s.takeWhile (· != '\n') := by
  have hl : Unbroken l := unbroken_of_mem_linesOf (h ▸ List.mem_cons_self)
  obtain ⟨t, rfl⟩ := head_prefix h
  rw [List.takeWhile_append_of_pos hl.ne_newline]
  exact List.prefix_append l _

/-- What a text starts with stands on its first line, unless it is broken or empty. -/
theorem exists_head_of_prefix
    {s t : List Char}
    (hs : Unbroken s)
    (hne : s ≠ [])
    (h : s <+: t) :
    ∃ l ls, linesOf t = l :: ls ∧ s <+: l := by
  obtain ⟨rest, rfl⟩ := h
  induction s with
  | nil =>
      exact absurd rfl hne
  | cons c s ih =>
      rw [unbroken_cons] at hs
      obtain ⟨hc, hs⟩ := hs
      rw [List.cons_append, linesOf_cons_char hc]
      cases s with
      | nil =>
          -- the first line goes on after the last character, or there is nothing after it
          rw [List.nil_append]
          cases linesOf rest with
          | nil =>
              exact ⟨[c], [], rfl, List.prefix_rfl⟩
          | cons l ls =>
              exact ⟨c :: l, ls, rfl, List.prefix_append [c] l⟩
      | cons d s =>
          obtain ⟨l, ls, hl, hpre⟩ := ih hs (by simp)
          rw [hl]
          exact ⟨c :: l, ls, rfl, List.cons_prefix_cons.mpr ⟨rfl, hpre⟩⟩

theorem linesOf_ne_nil
    {s : List Char}
    (hs : s ≠ []) :
    linesOf s ≠ [] := by
  fun_cases linesOf s with
  | case1 =>
      exact absurd rfl hs
  | case2 s =>
      simp
  | case3 c s =>
      simp
  | case4 c s =>
      cases linesOf s <;> simp [consHead]

/-- The line that a line feed at the end of a text adds: none if it closes a line or completes a
pair. -/
def openedLine (s : List Char) : List (List Char) :=
  match s.getLast? with
  | none => [[]]
  | some c => if isLineBreak c && c != '\r' then [[]] else []

theorem eq_nil_of_mem_openedLine
    {s m : List Char}
    (hm : m ∈ openedLine s) :
    m = [] := by
  unfold openedLine at hm
  split at hm
  · simpa using hm
  · split at hm
    · simpa using hm
    · cases hm

theorem openedLine_cons
    {c : Char} {s : List Char}
    (hs : s ≠ []) :
    openedLine (c :: s) = openedLine s := by
  cases s with
  | nil =>
      exact absurd rfl hs
  | cons d s =>
      simp [openedLine, List.getLast?_cons_cons]

/-- A text that ends in a character of its own is closed by a line feed. -/
theorem openedLine_eq_nil
    {s : List Char} {c : Char}
    (hlast : s.getLast? = some c)
    (hc : isLineBreak c = false) :
    openedLine s = [] := by
  simp [openedLine, hlast, hc]

/-- What stands after a line feed is cut on its own. -/
theorem linesOf_append_newline
    (s t : List Char) :
    linesOf (s ++ '\n' :: t) = linesOf s ++ openedLine s ++ linesOf t := by
  fun_induction linesOf s with
  | case1 =>
      simp [linesOf_newline, openedLine]
  | case2 s ih =>
      have hopen : openedLine ('\r' :: '\n' :: s) = openedLine s := by
        cases s with
        | nil =>
            decide
        | cons d s =>
            rw [openedLine_cons (by simp), openedLine_cons (by simp)]
      simpa [linesOf_pair, hopen] using ih
  | case3 c s hpair hc ih =>
      cases s with
      | nil =>
          -- the line feed completes a pair if the break is a carriage return
          by_cases hr : c = '\r'
          · subst hr
            rfl
          · rw [List.cons_append, linesOf_cons_break hc (fun h => absurd h hr)]
            simp [openedLine, hc, hr, linesOf_newline, linesOf_nil]
      | cons d s =>
          have hhead : c = '\r' → (d :: s ++ '\n' :: t).head? ≠ some '\n' := by
            rintro rfl hd
            simp only [List.cons_append, List.head?_cons, Option.some.injEq] at hd
            subst hd
            exact hpair s rfl rfl
          have hopen : openedLine (c :: d :: s) = openedLine (d :: s) :=
            openedLine_cons (by simp)
          rw [List.cons_append, linesOf_cons_break hc hhead, ih, hopen]
          simp
  | case4 c s _ hc ih =>
      have hc : isLineBreak c = false := by simpa using hc
      rw [List.cons_append, linesOf_cons_char hc, ih]
      cases s with
      | nil =>
          simp [openedLine, hc, consHead, linesOf_nil]
      | cons d s =>
          have hopen : openedLine (c :: d :: s) = openedLine (d :: s) :=
            openedLine_cons (by simp)
          rw [hopen]
          cases hs : linesOf (d :: s) with
          | nil =>
              exact absurd hs (linesOf_ne_nil (by simp))
          | cons m ms =>
              simp [consHead]

/-- A text before a line feed takes at least one line. -/
theorem lt_length_linesOf
    (s t : List Char) :
    (linesOf t).length < (linesOf (s ++ '\n' :: t)).length := by
  rw [linesOf_append_newline]
  cases s with
  | nil =>
      simp [openedLine, linesOf_nil]
  | cons c s =>
      have hne : linesOf (c :: s) ≠ [] := linesOf_ne_nil (by simp)
      have hpos := List.length_pos_iff.mpr hne
      simp only [List.length_append]
      omega

/-- If it has a break of its own, it takes more than one. -/
theorem succ_lt_length_linesOf
    {s : List Char}
    (hs : ¬ Unbroken s)
    (hr : '\r' ∉ s)
    (t : List Char) :
    (linesOf t).length + 1 < (linesOf (s ++ '\n' :: t)).length := by
  induction s with
  | nil =>
      exact absurd unbroken_nil hs
  | cons c s ih =>
      obtain ⟨hc, hr⟩ := List.ne_and_not_mem_of_not_mem_cons hr
      rw [List.cons_append]
      by_cases hbreak : isLineBreak c = true
      · rw [linesOf_cons_break hbreak (fun h => absurd h.symm hc), List.length_cons]
        have := lt_length_linesOf s t
        omega
      · have hbreak : isLineBreak c = false := by simpa using hbreak
        have hs : ¬ Unbroken s := by
          simpa [unbroken_cons, hbreak] using hs
        have := ih hs hr
        rw [linesOf_cons_char hbreak]
        cases hl : linesOf (s ++ '\n' :: t) with
        | nil =>
            simp [hl] at this
        | cons l ls =>
            rw [hl] at this
            exact this

/-! ## A line feed at the end -/

theorem holdsUpToNewline_iff
    {p : List Char → Bool} {s : List Char} :
    holdsUpToNewline p s = true ↔ p s = true ∨ ∃ front, p front = true ∧ s = front ++ ['\n'] := by
  simp only [holdsUpToNewline, Bool.or_eq_true, Bool.and_eq_true, beq_iff_eq]
  refine or_congr_right ?_
  constructor
  · rintro ⟨hlast, hp⟩
    obtain ⟨front, rfl⟩ := List.getLast?_eq_some_iff.mp hlast
    exact ⟨front, by simpa using hp, rfl⟩
  · rintro ⟨front, hp, rfl⟩
    simpa using hp

theorem holdsUpToNewline_of_ne
    {s : List Char}
    (h : s.getLast? ≠ some '\n')
    (p : List Char → Bool) :
    holdsUpToNewline p s = p s := by
  simp [holdsUpToNewline, h]

/-- A text without blanks has no line feed at its end. -/
theorem holdsUpToNewline_of_unspaced
    {s : List Char}
    (hs : ∀ c ∈ s, isBlank c = false)
    (p : List Char → Bool) :
    holdsUpToNewline p s = p s := by
  refine holdsUpToNewline_of_ne (fun hlast => ?_) p
  exact absurd (hs '\n' (List.mem_of_getLast? hlast)) (by decide)

/-! ## Lines that are each followed by a newline -/

/-- Lines put together, every one followed by a newline. -/
def endedText (newline : String) (ls : List String) : List Char :=
  ls.flatMap fun l => l.toList ++ newline.toList

/-- Separating lines by newlines and adding one at the end follows every line by a newline. -/
theorem toList_intercalate_append
    (newline l : String)
    (ls : List String) :
    (newline.intercalate (l :: ls) ++ newline).toList = endedText newline (l :: ls) := by
  induction ls generalizing l with
  | nil =>
      simp [endedText]
  | cons m ls ih =>
      rw [String.intercalate_cons_cons, String.append_assoc, String.toList_append, ih]
      simp [endedText]

/-- Folding newlines leaves what stands before the first carriage return as it is. -/
theorem foldNewlines_append_of_not_mem
    {s : List Char}
    (hs : '\r' ∉ s)
    (t : List Char) :
    foldNewlines (s ++ t) = s ++ foldNewlines t := by
  induction s with
  | nil =>
      rfl
  | cons c s ih =>
      obtain ⟨hr, hs⟩ := List.ne_and_not_mem_of_not_mem_cons hs
      rw [List.cons_append, foldNewlines, ih hs]
      · rfl
      · exact fun _ h => absurd h hr.symm
      · exact hr.symm

theorem foldNewlines_append
    {s : List Char}
    (hs : Unbroken s)
    (t : List Char) :
    foldNewlines (s ++ t) = s ++ foldNewlines t := by
  refine foldNewlines_append_of_not_mem (fun hr => ?_) t
  exact absurd (hs _ hr) (by decide)

/-- No carriage return is left when newlines are folded. -/
theorem return_not_mem_foldNewlines
    (s : List Char) :
    '\r' ∉ foldNewlines s := by
  fun_induction foldNewlines s with
  | case1 =>
      exact List.not_mem_nil
  | case2 s ih =>
      exact List.not_mem_cons_of_ne_of_not_mem (by decide) ih
  | case3 s _ ih =>
      exact List.not_mem_cons_of_ne_of_not_mem (by decide) ih
  | case4 c s _ hc ih =>
      exact List.not_mem_cons_of_ne_of_not_mem (Ne.symm hc) ih

/-- Both styles of newlines are read as line feeds. -/
theorem foldNewlines_endedText
    {newline : String} {ls : List String}
    (hnl : newline = "\n" ∨ newline = "\r\n")
    (hls : ∀ l ∈ ls, Unbroken l.toList) :
    foldNewlines (endedText newline ls) = endedText "\n" ls := by
  induction ls with
  | nil =>
      rfl
  | cons l ls ih =>
      have hl : Unbroken l.toList := hls l (by simp)
      have ih := ih fun m hm => hls m (by simp [hm])
      simp only [endedText, List.flatMap_cons, List.append_assoc] at ih ⊢
      rw [foldNewlines_append hl]
      rcases hnl with rfl | rfl
      · simpa [foldNewlines] using ih
      · simpa [foldNewlines] using ih

/-- The lines of lines followed by line feeds. -/
theorem linesOf_endedText
    {ls : List String}
    (hls : ∀ l ∈ ls, Unbroken l.toList) :
    linesOf (endedText "\n" ls) = ls.map String.toList := by
  induction ls with
  | nil =>
      rfl
  | cons l ls ih =>
      have hl : Unbroken l.toList := hls l (by simp)
      have ih := ih fun m hm => hls m (by simp [hm])
      have htext : endedText "\n" (l :: ls) = l.toList ++ '\n' :: endedText "\n" ls := by
        simp [endedText]
      rw [htext, linesOf_line hl, ih]
      rfl

/-! ## Entries laid out one after the other -/

theorem unbroken_of_mem_lines
    {s l : String}
    (hl : l ∈ lines s) :
    Unbroken l.toList := by
  obtain ⟨m, hm, rfl⟩ := List.mem_map.mp hl
  rw [String.toList_ofList]
  exact unbroken_of_mem_linesOf hm

/-- Laid out lines hold no break. -/
theorem unbroken_of_mem_physicalLines
    {entries : List String} {l : String}
    (hl : l ∈ physicalLines entries) :
    Unbroken l.toList := by
  exact unbroken_of_mem_lines hl

/-- An unbroken string that is not empty is its only line. -/
theorem lines_unbroken
    {s : String}
    (hs : Unbroken s.toList)
    (hne : s ≠ "") :
    lines s = [s] := by
  have hne : s.toList ≠ [] := by
    simpa using hne
  rw [lines, linesOf_unbroken hs hne]
  simp

/-- An entry that ends in a character which is no break. -/
def EndsInText (e : String) : Prop :=
  ∃ c, e.toList.getLast? = some c ∧ isLineBreak c = false

theorem endsInText_of_unbroken
    {e : String}
    (he : Unbroken e.toList)
    (hne : e ≠ "") :
    EndsInText e := by
  have hlast : e.toList ≠ [] := by
    simpa using hne
  exact ⟨_, List.getLast?_eq_some_getLast hlast, he _ (List.getLast_mem hlast)⟩

theorem isBlank_of_isLineBreak
    {c : Char}
    (h : isLineBreak c = true) :
    isBlank c = true := by
  simp only [isLineBreak, Bool.or_eq_true, Bool.and_eq_true, decide_eq_true_eq,
    beq_iff_eq] at h
  simp only [isBlank, Bool.or_eq_true, Bool.and_eq_true, decide_eq_true_eq, beq_iff_eq]
  omega

/-- A text that is not blank ends in a character of its own once it is trimmed. -/
theorem endsInText_trim
    {s : String}
    (h : isBlankText s = false) :
    EndsInText (trim s) := by
  have hfront : s.toList.dropWhile isBlank ≠ [] := by
    rw [ne_eq, List.dropWhile_eq_nil_iff]
    simpa [isBlankText] using h
  have hback : (s.toList.dropWhile isBlank).reverse.dropWhile isBlank ≠ [] := by
    rw [ne_eq, List.dropWhile_eq_nil_iff]
    intro hall
    have hhead := List.head_dropWhile_not isBlank hfront
    have hblank := hall _ (List.mem_reverse.mpr (List.head_mem hfront))
    rw [hhead] at hblank
    cases hblank
  have hlast := List.head_dropWhile_not isBlank hback
  have hbreak :
      isLineBreak (((s.toList.dropWhile isBlank).reverse.dropWhile isBlank).head hback) = false := by
    rw [Bool.eq_false_iff]
    intro hbreak
    rw [isBlank_of_isLineBreak hbreak] at hlast
    cases hlast
  refine ⟨_, ?_, hbreak⟩
  rw [trim, String.toList_ofList, trimChars, dropEndWhile, List.getLast?_reverse,
    List.head?_eq_some_head hback]

/-- The lines of an entry that another entry follows. -/
def laidOut (e : String) : List String :=
  lines e ++ (openedLine e.toList).map String.ofList

theorem laidOut_ne_nil
    (e : String) :
    laidOut e ≠ [] := by
  by_cases hne : e.toList = []
  · simp [laidOut, hne, openedLine]
  · simp [laidOut, lines, linesOf_ne_nil hne]

theorem laidOut_of_endsInText
    {e : String}
    (he : EndsInText e) :
    laidOut e = lines e := by
  obtain ⟨c, hlast, hc⟩ := he
  simp [laidOut, openedLine_eq_nil hlast hc]

theorem laidOut_unbroken
    {e : String}
    (he : Unbroken e.toList) :
    laidOut e = [e] := by
  by_cases hne : e = ""
  · subst hne
    decide
  · rw [laidOut_of_endsInText (endsInText_of_unbroken he hne), lines_unbroken he hne]

@[simp] theorem physicalLines_nil :
    physicalLines [] = [] := by
  decide

@[simp] theorem physicalLines_singleton
    (e : String) :
    physicalLines [e] = lines e := by
  simp [physicalLines]

theorem physicalLines_cons_cons
    (e d : String)
    (entries : List String) :
    physicalLines (e :: d :: entries) = laidOut e ++ physicalLines (d :: entries) := by
  have htext :
      ("\n".intercalate (e :: d :: entries)).toList =
        e.toList ++ '\n' :: ("\n".intercalate (d :: entries)).toList := by
    simp [String.intercalate_cons_cons]
  rw [physicalLines, lines, htext, linesOf_append_newline]
  simp [laidOut, physicalLines, lines]

/-- The first entries are laid out before the others. -/
theorem physicalLines_append_cons
    (entries : List String)
    (e : String)
    (more : List String) :
    physicalLines (entries ++ e :: more) =
      entries.flatMap laidOut ++ physicalLines (e :: more) := by
  induction entries with
  | nil =>
      rfl
  | cons d entries ih =>
      rw [List.flatMap_cons, List.append_assoc, ← ih]
      cases entries with
      | nil =>
          exact physicalLines_cons_cons d e more
      | cons d' entries =>
          exact physicalLines_cons_cons d d' (entries ++ e :: more)

/-- An entry that ends in a character of its own is laid out before the others. -/
theorem physicalLines_cons
    {e : String}
    (he : EndsInText e)
    (entries : List String) :
    physicalLines (e :: entries) = lines e ++ physicalLines entries := by
  cases entries with
  | nil =>
      simp
  | cons d entries =>
      rw [physicalLines_cons_cons, laidOut_of_endsInText he]

/-- What ends in a character of its own at the very end is laid out entry by entry. -/
theorem physicalLines_eq_flatMap_laidOut
    {entries : List String}
    (h : ∀ e ∈ entries.getLast?, EndsInText e) :
    physicalLines entries = entries.flatMap laidOut := by
  rcases List.eq_nil_or_concat entries with rfl | ⟨front, e, rfl⟩
  · rfl
  · rw [List.concat_eq_append] at h ⊢
    have he : EndsInText e := h e (by simp)
    rw [physicalLines_append_cons, physicalLines_singleton, List.flatMap_append,
      List.flatMap_singleton, laidOut_of_endsInText he]

theorem flatMap_laidOut_eq_self
    {ls : List String}
    (h : ∀ l ∈ ls, Unbroken l.toList) :
    ls.flatMap laidOut = ls := by
  calc ls.flatMap laidOut
      = ls.flatMap fun l => [l] := List.flatMap_congr fun l hl => laidOut_unbroken (h l hl)
    _ = ls := List.flatMap_singleton' ls

/-- Entries are laid out as they are if none of them is broken. -/
theorem physicalLines_eq_self_iff
    {entries : List String}
    (h : ∀ e ∈ entries, EndsInText e) :
    physicalLines entries = entries ↔ ∀ e ∈ entries, Unbroken e.toList := by
  constructor
  · intro hsame e he
    rw [← hsame] at he
    exact unbroken_of_mem_physicalLines he
  · intro hunbroken
    rw [physicalLines_eq_flatMap_laidOut fun e he => h e (List.mem_of_getLast? he)]
    exact flatMap_laidOut_eq_self hunbroken

theorem unbroken_of_mem_laidOut
    {e l : String}
    (hl : l ∈ laidOut e) :
    Unbroken l.toList := by
  rcases List.mem_append.mp hl with hl | hl
  · exact unbroken_of_mem_lines hl
  · obtain ⟨m, hm, rfl⟩ := List.mem_map.mp hl
    obtain rfl := eq_nil_of_mem_openedLine hm
    simpa using unbroken_nil

/-- Among the lines of an entry that another entry follows, only an empty one can be none of its own. -/
theorem mem_laidOut_iff
    {e l : String}
    (hne : l ≠ "") :
    l ∈ laidOut e ↔ l ∈ lines e := by
  constructor
  · intro hl
    rcases List.mem_append.mp hl with hl | hl
    · exact hl
    · obtain ⟨m, hm, rfl⟩ := List.mem_map.mp hl
      obtain rfl := eq_nil_of_mem_openedLine hm
      exact absurd rfl hne
  · exact List.mem_append_left _

/-- Entries with the lines that they occupy. -/
def layout : List String → List (String × List String)
  | [] => []
  | [e] => [(e, lines e)]
  | e :: d :: entries => (e, laidOut e) :: layout (d :: entries)

@[simp] theorem map_fst_layout
    (entries : List String) :
    (layout entries).map Prod.fst = entries := by
  fun_induction layout entries with
  | case1 =>
      rfl
  | case2 e =>
      rfl
  | case3 e d entries ih =>
      rw [List.map_cons, ih]

theorem flatMap_snd_layout
    (entries : List String) :
    (layout entries).flatMap Prod.snd = physicalLines entries := by
  fun_induction layout entries with
  | case1 =>
      simp
  | case2 e =>
      simp
  | case3 e d entries ih =>
      rw [List.flatMap_cons, ih, physicalLines_cons_cons]

theorem snd_of_mem_layout
    {entries : List String} {x : String × List String}
    (hx : x ∈ layout entries) :
    x.2 = lines x.1 ∨ x.2 = laidOut x.1 := by
  fun_induction layout entries with
  | case1 =>
      cases hx
  | case2 e =>
      obtain rfl := List.mem_singleton.mp hx
      exact Or.inl rfl
  | case3 e d entries ih =>
      rcases List.mem_cons.mp hx with rfl | hx
      · exact Or.inr rfl
      · exact ih hx

theorem snd_layout_of_endsInText
    {entries : List String} {x : String × List String}
    (hx : x ∈ layout entries)
    (he : EndsInText x.1) :
    x.2 = lines x.1 := by
  rcases snd_of_mem_layout hx with h | h
  · exact h
  · rw [h, laidOut_of_endsInText he]

theorem unbroken_of_mem_snd_layout
    {entries : List String} {x : String × List String} {l : String}
    (hx : x ∈ layout entries)
    (hl : l ∈ x.2) :
    Unbroken l.toList := by
  rcases snd_of_mem_layout hx with h | h
  · rw [h] at hl
    exact unbroken_of_mem_lines hl
  · rw [h] at hl
    exact unbroken_of_mem_laidOut hl

/-- The lines of an entry stand together, in their order. -/
theorem lines_infix_physicalLines
    {entries : List String} {e : String}
    (he : e ∈ entries) :
    lines e <:+: physicalLines entries := by
  obtain ⟨before, after, rfl⟩ := List.append_of_mem he
  rw [physicalLines_append_cons]
  refine List.IsInfix.trans ?_ (List.suffix_append _ _).isInfix
  cases after with
  | nil =>
      simp
  | cons d after =>
      rw [physicalLines_cons_cons, laidOut, List.append_assoc]
      exact (List.prefix_append _ _).isInfix

/-- Leaving out entries adds no lines. -/
theorem physicalLines_subset
    {entries more : List String}
    (h : entries.Sublist more) :
    physicalLines entries ⊆ physicalLines more := by
  induction h with
  | slnil =>
      exact fun _ hl => hl
  | @cons entries more e h ih =>
      cases more with
      | nil =>
          rw [List.sublist_nil.mp h]
          simp
      | cons d more =>
          rw [physicalLines_cons_cons]
          exact fun l hl => List.mem_append_right _ (ih hl)
  | @cons_cons entries more e h ih =>
      cases entries with
      | nil =>
          rw [physicalLines_singleton]
          exact (lines_infix_physicalLines (by simp)).subset
      | cons d entries =>
          cases more with
          | nil =>
              cases h
          | cons d' more =>
              rw [physicalLines_cons_cons, physicalLines_cons_cons]
              intro l hl
              rcases List.mem_append.mp hl with hl | hl
              · exact List.mem_append_left _ hl
              · exact List.mem_append_right _ (ih hl)

/-- Every laid out line belongs to an entry. -/
theorem exists_mem_laidOut
    {entries : List String} {l : String}
    (hl : l ∈ physicalLines entries) :
    ∃ e ∈ entries, l ∈ laidOut e := by
  induction entries with
  | nil =>
      simp at hl
  | cons e entries ih =>
      cases entries with
      | nil =>
          refine ⟨e, by simp, ?_⟩
          rw [physicalLines_singleton] at hl
          exact List.mem_append_left _ hl
      | cons d entries =>
          rw [physicalLines_cons_cons] at hl
          rcases List.mem_append.mp hl with hl | hl
          · exact ⟨e, by simp, hl⟩
          · obtain ⟨b, hb, hlb⟩ := ih hl
            exact ⟨b, List.mem_cons_of_mem e hb, hlb⟩

/-- The laid out lines are those of the entries, but for empty ones. -/
theorem mem_physicalLines_iff
    {entries : List String} {l : String}
    (hne : l ≠ "") :
    l ∈ physicalLines entries ↔ ∃ e ∈ entries, l ∈ lines e := by
  constructor
  · intro hl
    obtain ⟨e, he, hl⟩ := exists_mem_laidOut hl
    exact ⟨e, he, (mem_laidOut_iff hne).mp hl⟩
  · rintro ⟨e, he, hl⟩
    exact (lines_infix_physicalLines he).subset hl

end Text
end NamespaceManifest
