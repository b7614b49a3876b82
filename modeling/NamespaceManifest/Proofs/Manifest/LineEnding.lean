import NamespaceManifest.Proofs.Manifest.Writing

/-!
# The line ends of a rewritten manifest

A file whose line feeds all have a carriage return before them is to be rewritten in the same way.  The writer
judges the style of an old file by its first bytes only (`headSize`).

* What it writes has one style throughout: the marker and the lines of the entries have no breaks, so that
  all line feeds are those of the newlines (`paired_fileText_iff`).
* It takes the old style from the head of the file, where a pair is found just if there is a line feed
  (`hasCrLf_iff_of_paired`).

So the style is kept exactly if the first line of the old file ends within its head
(`paired_after_write_iff`).  Otherwise the file comes out with bare line feeds
(`longLine_loses_pairs`).
-/

namespace NamespaceManifest

open Work

namespace Text

/-- Text and the lines it is written on have the same bytes. -/
theorem encoded_endedText
    (newline : String) (ls : List String) :
    (endedText newline ls).flatMap String.utf8EncodeChar =
      ls.flatMap fun l => l.toUTF8.data.toList ++ newline.toUTF8.data.toList := by
  simp only [endedText, List.flatMap_assoc, List.flatMap_append, Utf8.toList_data_toUTF8]

/-- An unbroken text has neither byte of a newline. -/
theorem not_mem_bytes_of_unbroken
    {l : String}
    (hl : Unbroken l.toList) :
    10 ∉ l.toUTF8.data.toList ∧ 13 ∉ l.toUTF8.data.toList := by
  have hbyte : ∀ b : UInt8, b.toNat < 128 → isLineBreak (Char.ofNat b.toNat) = true →
      b ∉ l.toUTF8.data.toList := by
    intro b hb hbreak hmem
    rw [Utf8.toList_data_toUTF8] at hmem
    obtain ⟨c, hc, hmem⟩ := List.mem_flatMap.mp hmem
    rw [← Utf8.toNat_eq_of_mem_encoded hb hmem, Char.ofNat_toNat, hl c hc] at hbreak
    cases hbreak
  exact ⟨hbyte 10 (by decide) (by decide), hbyte 13 (by decide) (by decide)⟩

end Text

namespace Writer

/-! ## Pairs -/

/-- Every line feed among some bytes has a carriage return right before it. -/
def Paired (bytes : List UInt8) : Prop :=
  ∀ before after, bytes = before ++ 10 :: after → before.getLast? = some 13

section Paired

variable {line rest bytes : List UInt8}

theorem paired_nil :
    Paired [] := by
  intro before after h
  simp at h

/-- What stands before a byte of a paired text is paired. -/
theorem Paired.of_append
    (h : Paired (bytes ++ rest)) :
    Paired bytes := by
  rintro before after rfl
  exact h before (after ++ rest) (by simp)

theorem paired_cons
    {b : UInt8}
    (hb : b ≠ 10)
    (h : Paired bytes) :
    Paired (b :: bytes) := by
  intro before after heq
  cases before with
  | nil =>
      exact absurd (List.cons.inj heq).1 hb
  | cons a before =>
      rw [List.getLast?_cons, h before after (List.cons.inj heq).2]
      rfl

theorem paired_pair
    (h : Paired rest) :
    Paired (13 :: 10 :: rest) := by
  intro before after heq
  match before with
  | [] =>
      cases heq
  | [_] =>
      cases heq
      rfl
  | _ :: _ :: before =>
      simp only [List.cons_append, List.cons.injEq] at heq
      rw [List.getLast?_cons, List.getLast?_cons, h before after heq.2.2]
      rfl

/-- A line that ends in a pair. -/
theorem paired_line
    (hfeed : 10 ∉ line)
    (hrest : Paired rest) :
    Paired (line ++ 13 :: 10 :: rest) := by
  induction line with
  | nil =>
      exact paired_pair hrest
  | cons b line ih =>
      obtain ⟨hb, hline⟩ := List.ne_and_not_mem_of_not_mem_cons hfeed
      exact paired_cons hb.symm (ih hline)

/-- A line that ends in a bare line feed. -/
theorem not_paired_line
    (hreturn : 13 ∉ line) :
    ¬ Paired (line ++ 10 :: rest) := by
  intro h
  exact hreturn (List.mem_of_getLast? (h line rest rfl))

theorem hasCrLf_iff
    (bytes : List UInt8) :
    hasCrLf bytes = true ↔ [13, 10] <:+: bytes := by
  fun_induction hasCrLf bytes with
  | case1 a b bytes ih =>
      have hpair : [13, 10] <+: a :: b :: bytes ↔ (a == 13 && b == 10) = true := by
        constructor
        · rintro ⟨after, h⟩
          cases h
          rfl
        · intro h
          simp only [Bool.and_eq_true, beq_iff_eq] at h
          obtain ⟨rfl, rfl⟩ := h
          exact List.prefix_append [13, 10] bytes
      rw [Bool.or_eq_true, ih, ← hpair, ← List.infix_cons_iff]
  | case2 bytes hshort =>
      simp only [Bool.false_eq_true, false_iff]
      intro h
      match bytes with
      | [] =>
          exact absurd h.length_le (by decide)
      | [a] =>
          exact absurd h.length_le (by simp)
      | a :: b :: bytes =>
          exact hshort a b bytes rfl

/-- Where all line feeds are in pairs, looking for a pair is looking for a line feed. -/
theorem hasCrLf_iff_of_paired
    (h : Paired bytes) :
    hasCrLf bytes = true ↔ 10 ∈ bytes := by
  rw [hasCrLf_iff]
  constructor
  · intro hpair
    exact hpair.subset (by simp)
  · intro hfeed
    obtain ⟨before, after, rfl⟩ := List.append_of_mem hfeed
    obtain ⟨front, rfl⟩ := List.getLast?_eq_some_iff.mp (h before after rfl)
    exact ⟨front, after, by simp⟩

end Paired

/-! ## Files -/

theorem newlineOf_eq_pair_iff
    (f : File) :
    newlineOf f = "\r\n" ↔ hasCrLf (f.bytes.data.toList.take headSize) = true := by
  unfold newlineOf
  split
  · simp_all
  · simp_all

/-- Lines that are each followed by a pair. -/
theorem paired_endedText
    {ls : List String}
    (hls : ∀ l ∈ ls, Text.Unbroken l.toList) :
    Paired ((Text.endedText "\r\n" ls).flatMap String.utf8EncodeChar) := by
  rw [Text.encoded_endedText]
  induction ls with
  | nil =>
      exact paired_nil
  | cons l ls ih =>
      have hl := (Text.not_mem_bytes_of_unbroken (hls l (by simp))).1
      rw [List.flatMap_cons, List.append_assoc]
      exact paired_line hl (ih fun m hm => hls m (by simp [hm]))

/-- A file of the writer has pairs throughout, or its marker already ends in a bare line feed. -/
theorem paired_fileText_iff
    {w : Writer} {newline : String}
    (hmarker : Text.isSingleLine w.marker = true)
    (hnewline : newline = "\n" ∨ newline = "\r\n")
    (entries : List String) :
    Paired (w.fileText newline entries).toUTF8.data.toList ↔ newline = "\r\n" := by
  have hmarker := Text.isSingleLine_iff.mp hmarker
  rw [Text.Utf8.toList_data_toUTF8, fileText, render, Text.toList_intercalate_append]
  rcases hnewline with rfl | rfl
  · refine iff_of_false ?_ (by decide)
    rw [Text.encoded_endedText, List.flatMap_cons, List.append_assoc]
    exact not_paired_line (Text.not_mem_bytes_of_unbroken hmarker).2
  · refine iff_of_true (paired_endedText ?_) rfl
    intro l hl
    rcases List.mem_cons.mp hl with rfl | hl
    · exact hmarker
    · exact Text.unbroken_of_mem_physicalLines hl

/-- What replaces an old file with pairs throughout has pairs if the head of the old file shows one. -/
theorem paired_bytesFor_iff
    {w : Writer} {old : File}
    (hmarker : Text.isSingleLine w.marker = true)
    (hpaired : Paired old.bytes.data.toList)
    (entries : List String) :
    Paired (w.bytesFor (some old) entries).data.toList ↔ 10 ∈ old.bytes.data.toList.take headSize := by
  have hhead : Paired (old.bytes.data.toList.take headSize) := by
    rw [← List.take_append_drop headSize old.bytes.data.toList] at hpaired
    exact hpaired.of_append
  rw [bytesFor, paired_fileText_iff hmarker (newlineOf_cases (some old)), Option.map_some,
    Option.getD_some, newlineOf_eq_pair_iff, hasCrLf_iff_of_paired hhead]

/-- A write over a file whose line feeds all have a carriage return before them leaves such a file exactly if
there is a line feed within the head of the old one. -/
theorem paired_after_write_iff
    {w : Writer} {s : Workspace} {p : Path} {old : File}
    (hmarker : Text.isSingleLine w.marker = true)
    (hfile : s.tree.open? p = .ok (some old))
    (hpaired : Paired old.bytes.data.toList)
    (entries : List String) (check : Bool)
    (hwritten : (w.write p entries check s).outcome = .ok true) :
    ∃ new,
      (w.write p entries check s).workspace.tree.open? p = .ok (some new) ∧
      (Paired new.bytes.data.toList ↔ 10 ∈ old.bytes.data.toList.take headSize) := by
  have hwrite : Ends (w.write p entries check) s (.ok true) _ := ⟨hwritten, rfl⟩
  obtain ⟨c, hopen, ⟨⟨⟩, -⟩ | ⟨-, -, mode, hnew⟩⟩ := of_write hwrite
  obtain rfl := Except.ok.inj (hopen.symm.trans hfile)
  exact ⟨_, hnew.opened, paired_bytesFor_iff hmarker hpaired entries⟩

theorem paired_after_write_pairedSpace :
    let p : Path := ⟨1, ["NAMESPACE"]⟩
    let old : File := ⟨"export(a)\r\n".toUTF8, 0o600⟩
    let run := (ofMarker defaultMarker).write p ["b\nc"] false pairedSpace
    pairedSpace.tree.open? p = .ok (some old) ∧
    Paired old.bytes.data.toList ∧
    run.outcome = .ok true ∧
    ∃ new, run.workspace.tree.open? p = .ok (some new) ∧
      (Paired new.bytes.data.toList ↔ 10 ∈ old.bytes.data.toList.take headSize) := by
  intro p old run
  have hfile : pairedSpace.tree.open? p = .ok (some old) := by
    decide +kernel
  have hfeed : 10 ∉ "export(a)".toUTF8.data.toList := by
    decide
  have hpaired : Paired old.bytes.data.toList :=
    paired_line hfeed paired_nil
  have hwritten : run.outcome = .ok true := by
    decide +kernel
  exact ⟨hfile, hpaired, hwritten,
    paired_after_write_iff (by decide) hfile hpaired ["b\nc"] false hwritten⟩

/-! ## A long first line -/

/-- The bytes of a single line that ends in a pair. -/
def pairedLine (l : String) : File :=
  ⟨(l ++ "\r\n").toUTF8, 0o644⟩

section PairedLine

variable {l : String}

theorem bytes_pairedLine
    (l : String) :
    (pairedLine l).bytes.data.toList = l.toUTF8.data.toList ++ [13, 10] := by
  have hnewline : "\r\n".toUTF8.data.toList = [13, 10] := by
    decide
  rw [← hnewline, pairedLine]
  simp only [Text.Utf8.toList_data_toUTF8, String.toList_append, List.flatMap_append]

theorem textOf_pairedLine
    (hl : Text.Unbroken l.toList) :
    textOf (pairedLine l) = Text.endedText "\n" [l] := by
  have htext : (l ++ "\r\n").toList = Text.endedText "\r\n" [l] := by
    simp [Text.endedText]
  rw [textOf, pairedLine, Text.Utf8.readLossy_toUTF8, htext,
    Text.foldNewlines_endedText (Or.inr rfl) (by simpa using hl)]

theorem owns_pairedLine
    {w : Writer}
    (hl : Text.Unbroken l.toList)
    (hclaims : w.claims l = true) :
    w.owns (pairedLine l) = true := by
  rw [owns, firstLine, textOf_pairedLine hl, Text.endedText, List.flatMap_singleton,
    List.takeWhile_append_of_pos hl.ne_newline]
  simpa using hclaims

theorem bodyOf_pairedLine
    {w : Writer}
    (hl : Text.Unbroken l.toList)
    (hclaims : w.claims l = true) :
    w.bodyOf (pairedLine l) = [] := by
  have hlines : Text.lines (String.ofList (textOf (pairedLine l))) = [l] := by
    rw [textOf_pairedLine hl, Text.lines, String.toList_ofList,
      Text.linesOf_endedText (by simpa using hl)]
    simp
  simp [bodyOf, hlines, hclaims]

/-- The path of a manifest below the root. -/
def manifestPlace : Path :=
  ⟨1, ["NAMESPACE"]⟩

/-- A module of which only the manifest is there. -/
def manifestAlone (f : File) : Workspace :=
  { tree := { files := [(["NAMESPACE"], f)] } }

/-- All line feeds of a manifest, of which there is at least one, are in pairs, and a write of some entries
that is subject to the check leaves bare ones. -/
def LosesPairs (w : Writer) (entries : List String) (old : File) : Prop :=
  (manifestAlone old).tree.open? manifestPlace = .ok (some old) ∧
  Paired old.bytes.data.toList ∧
  10 ∈ old.bytes.data.toList ∧
  (w.write manifestPlace entries true (manifestAlone old)).outcome = .ok true ∧
  ∃ new,
    (w.write manifestPlace entries true (manifestAlone old)).workspace.tree.open? manifestPlace =
      .ok (some new) ∧
    ¬ Paired new.bytes.data.toList

/-- A manifest of the writer whose pair stands after a first line that is as long as the head of a file. -/
theorem losesPairs_of_long_line
    {w : Writer} {entries : List String}
    (hmarker : Text.isSingleLine w.marker = true)
    (hl : Text.Unbroken l.toList)
    (hclaims : w.claims l = true)
    (hlong : headSize ≤ l.toUTF8.data.toList.length)
    (hentries : Text.physicalLines entries ≠ []) :
    LosesPairs w entries (pairedLine l) := by
  have hfeed := (Text.not_mem_bytes_of_unbroken hl).1
  have hpaired : Paired (pairedLine l).bytes.data.toList := by
    rw [bytes_pairedLine]
    exact paired_line hfeed paired_nil
  have hhead : 10 ∉ (pairedLine l).bytes.data.toList.take headSize := by
    rw [bytes_pairedLine, List.take_append_of_le_length hlong]
    exact fun h => hfeed (List.mem_of_mem_take h)
  have hseat : (manifestAlone (pairedLine l)).tree.Seat manifestPlace := by
    refine ⟨rfl, ?_, ?_, ?_, rfl⟩ <;> decide
  have hopen : (manifestAlone (pairedLine l)).tree.open? manifestPlace = .ok (some (pairedLine l)) :=
    hseat.open?_eq
  have h : (manifestAlone (pairedLine l)).Holds manifestPlace (some (pairedLine l)) := by
    refine ⟨hopen, ?_⟩
    rintro j ⟨⟩
  have hallowed : true = true → ∀ f ∈ some (pairedLine l), w.owns f = true := by
    rintro - f ⟨⟩
    exact owns_pairedLine hl hclaims
  have hbody : (some (pairedLine l)).map w.bodyOf ≠ some (Text.physicalLines entries) := by
    rw [Option.map_some, bodyOf_pairedLine hl hclaims]
    simpa using hentries.symm
  obtain ⟨u, hwrite⟩ := write_replaces (by decide) h hseat hallowed hbody
  obtain ⟨⟨⟩, -⟩ | ⟨-, -, mode, hnew⟩ := holds_of_write h hwrite
  rw [← hwrite.2] at hnew
  refine ⟨hopen, hpaired, by simp [bytes_pairedLine], hwrite.1, _, hnew.opened, ?_⟩
  rwa [paired_bytesFor_iff hmarker hpaired]

end PairedLine

/-- A line that the default writer claims, with a number of characters after its signature. -/
def longLine (n : Nat) : String :=
  String.ofList ("# Generated by nsgen".toList ++ List.replicate n 'x')

theorem toList_longLine
    (n : Nat) :
    (longLine n).toList = "# Generated by nsgen".toList ++ List.replicate n 'x' := by
  exact String.toList_ofList

theorem unbroken_longLine
    (n : Nat) :
    Text.Unbroken (longLine n).toList := by
  rw [toList_longLine, Text.unbroken_append]
  refine ⟨by decide, ?_⟩
  intro c hc
  obtain ⟨-, rfl⟩ := List.mem_replicate.mp hc
  decide

theorem claims_longLine
    (n : Nat) :
    (ofMarker defaultMarker).claims (longLine n) = true := by
  rw [claims_iff, toList_longLine]
  exact List.prefix_append _ _

theorem le_length_longLine
    (n : Nat) :
    n ≤ (longLine n).toUTF8.data.toList.length := by
  have hbyte : String.utf8EncodeChar 'x' = [120] := by
    decide
  have hlength : ((List.replicate n 'x').flatMap String.utf8EncodeChar).length = n := by
    simp [List.flatMap_replicate, hbyte]
  rw [Text.Utf8.toList_data_toUTF8, toList_longLine, List.flatMap_append, List.length_append, hlength]
  omega

/-- A file of the default writer with a long first line: all of its line feeds are in pairs, and those of the file
that is written over it are not. -/
theorem longLine_loses_pairs :
    Text.isSingleLine (ofMarker defaultMarker).marker = true ∧
    LosesPairs (ofMarker defaultMarker) ["a"] (pairedLine (longLine headSize)) := by
  have hmarker : Text.isSingleLine (ofMarker defaultMarker).marker = true := by
    decide
  have hentries : Text.physicalLines ["a"] ≠ [] := by
    decide
  exact ⟨hmarker, losesPairs_of_long_line hmarker (unbroken_longLine headSize) (claims_longLine headSize)
    (le_length_longLine headSize) hentries⟩

end Writer
end NamespaceManifest
