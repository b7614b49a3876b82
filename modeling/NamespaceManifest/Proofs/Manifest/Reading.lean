import NamespaceManifest.Manifest.Writer
import NamespaceManifest.Proofs.Text.Decoding
import NamespaceManifest.Proofs.Text.Lines
import NamespaceManifest.Proofs.Work

/-!
# Reading manifests back

A writer recognises what it wrote: a file that it has written belongs to it, and the lines of the file
without the marker line are the lines that were written.  This takes a marker on a single line
(`Writer.Marked`), and holds for both styles of newlines and for entries with breaks in them.  A marker with a
break in it is not read back as the first line of a file of which the other lines are those that were written
(`Writer.single_of_read_back`).

Whose file it is, and which of its lines are read, depends on the first line.  The two questions cut that line in
different ways, and still they never differ (`Writer.readers_agree`): a file that does not belong to the writer
is read with all its lines, and any other without the first one.
-/

namespace NamespaceManifest
namespace Writer

/-- The marker stands on a single line and is recognised as such. -/
structure Marked (w : Writer) : Prop where
  single : Text.isSingleLine w.marker = true
  claimed : w.claims w.marker = true

theorem claims_iff
    {w : Writer} {line : String} :
    w.claims line = true ↔ w.signature.toList <+: line.toList := by
  simp [claims]

/-- The signature of a marker is how the marker starts. -/
theorem signatureOf_prefix
    (marker : String) :
    (signatureOf marker).toList <+: marker.toList := by
  have hword : marker.toList.takeWhile (· != ':') <+: marker.toList :=
    List.takeWhile_prefix _
  refine List.IsPrefix.trans ?_ hword
  rw [signatureOf, Text.trimEnd, String.toList_ofList, String.toList_ofList, Text.dropEndWhile]
  rw [← List.reverse_suffix, List.reverse_reverse]
  exact List.dropWhile_suffix _

theorem marked_ofMarker
    {marker : String}
    (h : Text.isSingleLine marker = true) :
    (ofMarker marker).Marked := by
  refine ⟨h, ?_⟩
  rw [claims_iff]
  exact signatureOf_prefix marker

/-- The newline of a file is one of two. -/
theorem newlineOf_cases
    (old : Option File) :
    (old.map newlineOf).getD "\n" = "\n" ∨ (old.map newlineOf).getD "\n" = "\r\n" := by
  cases old with
  | none =>
      exact Or.inl rfl
  | some f =>
      simp only [Option.map_some, Option.getD_some, newlineOf]
      split
      · exact Or.inr rfl
      · exact Or.inl rfl

section Written

variable {w : Writer}

/-- The marker and the lines of entries are unbroken. -/
theorem unbroken_of_mem_render
    (hw : w.Marked)
    (entries : List String) :
    ∀ l ∈ w.render (Text.physicalLines entries), Text.Unbroken l.toList := by
  intro l hl
  rcases List.mem_cons.mp hl with rfl | hl
  · exact Text.isSingleLine_iff.mp hw.single
  · exact Text.unbroken_of_mem_physicalLines hl

/-- The text of a file as it was written, read with its newlines folded: the marker, unless that has a
carriage return, and the lines of the entries. -/
theorem textOf_bytesFor
    (hr : '\r' ∉ w.marker.toList)
    (old : Option File)
    (entries : List String)
    (mode : Nat) :
    textOf ⟨w.bytesFor old entries, mode⟩ =
      w.marker.toList ++ '\n' :: Text.endedText "\n" (Text.physicalLines entries) := by
  have hls : ∀ l ∈ "" :: Text.physicalLines entries, Text.Unbroken l.toList := by
    intro l hl
    rcases List.mem_cons.mp hl with rfl | hl
    · exact Text.unbroken_nil
    · exact Text.unbroken_of_mem_physicalLines hl
  -- what follows the marker is an empty line and the lines of the entries
  have hrest := Text.foldNewlines_endedText (newlineOf_cases old) hls
  simp only [Text.endedText, List.flatMap_cons] at hrest
  rw [textOf, bytesFor, Text.Utf8.readLossy_toUTF8, fileText, render, Text.toList_intercalate_append,
    Text.endedText, List.flatMap_cons, List.append_assoc, Text.foldNewlines_append_of_not_mem hr]
  simpa [Text.endedText] using hrest

theorem textOf_written
    (hw : w.Marked)
    (old : Option File)
    (entries : List String)
    (mode : Nat) :
    textOf ⟨w.bytesFor old entries, mode⟩ =
      Text.endedText "\n" (w.render (Text.physicalLines entries)) := by
  have hr : '\r' ∉ w.marker.toList := by
    intro hr
    exact absurd (Text.isSingleLine_iff.mp hw.single _ hr) (by decide)
  rw [textOf_bytesFor hr]
  simp [Text.endedText, render]

/-- The first line of a written file is the marker. -/
theorem firstLine_written
    (hw : w.Marked)
    (old : Option File)
    (entries : List String)
    (mode : Nat) :
    firstLine ⟨w.bytesFor old entries, mode⟩ = w.marker := by
  have hmarker := (Text.isSingleLine_iff.mp hw.single).ne_newline
  rw [firstLine, textOf_written hw, render, Text.endedText, List.flatMap_cons, List.append_assoc,
    List.takeWhile_append_of_pos hmarker]
  simp

/-- A written file belongs to its writer. -/
theorem owns_written
    (hw : w.Marked)
    (old : Option File)
    (entries : List String)
    (mode : Nat) :
    w.owns ⟨w.bytesFor old entries, mode⟩ = true := by
  rw [owns, firstLine_written hw, hw.claimed]

/-- The lines of a written file are those that were written. -/
theorem bodyOf_written
    (hw : w.Marked)
    (old : Option File)
    (entries : List String)
    (mode : Nat) :
    w.bodyOf ⟨w.bytesFor old entries, mode⟩ = Text.physicalLines entries := by
  have hlines :
      Text.lines (String.ofList (textOf ⟨w.bytesFor old entries, mode⟩)) =
        w.render (Text.physicalLines entries) := by
    rw [textOf_written hw, Text.lines, String.toList_ofList,
      Text.linesOf_endedText (unbroken_of_mem_render hw entries)]
    simp
  simp only [bodyOf, hlines, render, hw.claimed, if_true]

/-- All lines of a file are read but for one. -/
theorem length_lines_le
    (w : Writer) (f : File) :
    (Text.lines (String.ofList (textOf f))).length ≤ (w.bodyOf f).length + 1 := by
  unfold bodyOf
  split
  · rename_i first body hlines
    rw [hlines]
    split <;> simp
  · rename_i hlines
    rw [hlines]
    simp

/-- A marker that is the first line of its file stands on a single line if no part of it is read as a line of
the entries. -/
theorem single_of_read_back
    {old : Option File} {entries : List String} {mode : Nat}
    (hfirst : firstLine ⟨w.bytesFor old entries, mode⟩ = w.marker)
    (hbody : w.bodyOf ⟨w.bytesFor old entries, mode⟩ = Text.physicalLines entries) :
    Text.isSingleLine w.marker = true := by
  have hr : '\r' ∉ w.marker.toList := by
    rw [← hfirst, firstLine, String.toList_ofList]
    intro hr
    exact Text.return_not_mem_foldNewlines _ ((List.takeWhile_prefix _).subset hr)
  rw [Text.isSingleLine_iff]
  by_contra hbroken
  have hmarker := Text.succ_lt_length_linesOf hbroken hr
    (Text.endedText "\n" (Text.physicalLines entries))
  rw [← textOf_bytesFor hr old entries mode,
    Text.linesOf_endedText fun l hl => Text.unbroken_of_mem_physicalLines hl] at hmarker
  have hread := length_lines_le w ⟨w.bytesFor old entries, mode⟩
  rw [hbody, Text.lines, String.toList_ofList, List.length_map] at hread
  rw [List.length_map] at hmarker
  omega

end Written

/-- Whose file it is depends on its bytes only. -/
theorem owns_eq_of_bytes_eq
    {f g : File}
    (w : Writer)
    (h : g.bytes = f.bytes) :
    w.owns g = w.owns f := by
  rw [owns, owns, firstLine, firstLine, textOf, textOf, h]

/-! ## Two ways to look at a file -/

section Look

variable {w : Writer} {f : File}

/-- A file belongs to the writer if its text starts with the signature. -/
theorem owns_iff
    (hline : Text.Unbroken w.signature.toList) :
    w.owns f = true ↔ w.signature.toList <+: textOf f := by
  rw [owns, claims_iff, firstLine, String.toList_ofList]
  constructor
  · exact fun h => h.trans (List.takeWhile_prefix _)
  · rintro ⟨rest, htext⟩
    rw [← htext, List.takeWhile_append_of_pos hline.ne_newline]
    exact List.prefix_append _ _

/-- All lines of a file of the writer are read but for the first one. -/
theorem lines_of_owns
    (hne : w.signature ≠ "")
    (hline : Text.Unbroken w.signature.toList)
    (h : w.owns f = true) :
    ∃ first, Text.lines (String.ofList (textOf f)) = first :: w.bodyOf f := by
  have hne : w.signature.toList ≠ [] := by
    simpa using hne
  obtain ⟨l, ls, hl, hpre⟩ := Text.exists_head_of_prefix hline hne ((owns_iff hline).mp h)
  have hlines :
      Text.lines (String.ofList (textOf f)) = String.ofList l :: ls.map String.ofList := by
    rw [Text.lines, String.toList_ofList, hl, List.map_cons]
  have hclaims : w.claims (String.ofList l) = true := by
    rwa [claims_iff, String.toList_ofList]
  refine ⟨String.ofList l, ?_⟩
  simp only [bodyOf, hlines, hclaims, if_true]

end Look

/-- All lines of a file that does not belong to the writer are read. -/
theorem bodyOf_of_not_owns
    {w : Writer} {f : File}
    (h : w.owns f = false) :
    w.bodyOf f = Text.lines (String.ofList (textOf f)) := by
  unfold bodyOf
  cases hl : Text.linesOf (textOf f) with
  | nil =>
      simp [Text.lines, hl]
  | cons first body =>
      have hfirst : w.claims (String.ofList first) = false := by
        by_contra hclaim
        have hsig : w.signature.toList <+: first := by
          simpa [claims_iff] using hclaim
        have hpre := Text.head_prefix_takeWhile hl
        have hown : w.owns f = true := by
          rw [owns, claims_iff, firstLine, String.toList_ofList]
          exact hsig.trans hpre
        rw [h] at hown
        cases hown
      simp [Text.lines, hl, hfirst]

section Opened

variable {w : Writer} {s : Workspace} {p : Path} {c : Option File}

theorem ends_isGenerated_of_opened
    (h : s.tree.open? p = .ok c) :
    Work.Ends (w.isGenerated p) s (.ok (c.any w.owns)) s := by
  exact (Work.ends_open? h).bind (Work.ends_pure _ s)

theorem ends_body?_of_opened
    (h : s.tree.open? p = .ok c) :
    Work.Ends (w.body? p) s (.ok (c.map w.bodyOf)) s := by
  exact (Work.ends_open? h).bind (Work.ends_pure _ s)

end Opened

/-- Asking whose a file is and reading its lines go by the same first line, although only a newline ends it
for the one, and any line break for the other.  A file is the writer's exactly if its text starts with the
signature; then all its lines are read but for the first one, and all of them otherwise. -/
theorem readers_agree
    {w : Writer} {s : Workspace} {p : Path} {f : File}
    (hne : w.signature ≠ "")
    (hline : Text.Unbroken w.signature.toList)
    (hfile : s.tree.open? p = .ok (some f)) :
    ∃ owned body,
      (w.isGenerated p s).outcome = .ok owned ∧
      (w.body? p s).outcome = .ok (some body) ∧
      (owned = true ↔ w.signature.toList <+: textOf f) ∧
      (owned = true → ∃ first, Text.lines (String.ofList (textOf f)) = first :: body) ∧
      (owned = false → Text.lines (String.ofList (textOf f)) = body) := by
  refine ⟨w.owns f, w.bodyOf f, ?_, ?_, owns_iff hline, lines_of_owns hne hline, ?_⟩
  · exact (ends_isGenerated_of_opened hfile).1
  · exact (ends_body?_of_opened hfile).1
  · exact fun h => (bodyOf_of_not_owns h).symm

/-- A manifest with a line separator after its marker, and with other breaks of which only a carriage return
counts as a newline.  Its last byte is no character. -/
def separated : File :=
  ⟨"# Generated by nsgen!\u2028a\x0bb\rc".toUTF8.push 0xFF, 0o644⟩

theorem readers_agree_separated :
    let w := ofMarker defaultMarker
    let p : Path := ⟨1, ["NAMESPACE"]⟩
    let s : Workspace := { tree := { files := [(["NAMESPACE"], separated)] } }
    s.tree.open? p = .ok (some separated) ∧
    w.signature.toList <+: textOf separated ∧
    (w.isGenerated p s).outcome = .ok true ∧
    (w.body? p s).outcome = .ok (some ["a", "b", "c\uFFFD"]) := by
  intro w p s
  have hne : w.signature ≠ "" := by
    decide
  have hline : Text.Unbroken w.signature.toList := by
    decide
  have hfile : s.tree.open? p = .ok (some separated) := by
    decide +kernel
  have hstarts : w.signature.toList <+: textOf separated := by
    decide +kernel
  have htext : Text.lines (String.ofList (textOf separated)) =
      ["# Generated by nsgen!", "a", "b", "c\uFFFD"] := by
    decide +kernel
  obtain ⟨owned, body, hgenerated, hbody, howned, hfirst, -⟩ := readers_agree hne hline hfile
  obtain rfl : owned = true := howned.mpr hstarts
  obtain ⟨first, hlines⟩ := hfirst rfl
  rw [htext, List.cons.injEq] at hlines
  obtain ⟨-, rfl⟩ := hlines
  exact ⟨hfile, hstarts, hgenerated, hbody⟩

/-- The lines of what is at a path; without a file there are none. -/
def bodyIn (w : Writer) (c : Option File) : List String :=
  (c.map w.bodyOf).getD []

@[simp] theorem bodyIn_some
    (w : Writer) (f : File) :
    w.bodyIn (some f) = w.bodyOf f := by
  rfl

@[simp] theorem bodyIn_none
    (w : Writer) :
    w.bodyIn none = [] := by
  rfl

/-- Lines that are read have no breaks in them. -/
theorem unbroken_of_mem_bodyIn
    {w : Writer} {c : Option File} {l : String}
    (hl : l ∈ w.bodyIn c) :
    Text.Unbroken l.toList := by
  cases c with
  | none =>
      cases hl
  | some f =>
      rw [bodyIn_some, bodyOf] at hl
      split at hl
      · rename_i first body hlines
        refine Text.unbroken_of_mem_lines (s := String.ofList (textOf f)) ?_
        rw [hlines]
        split at hl
        · exact List.mem_cons_of_mem first hl
        · exact hl
      · cases hl

end Writer
end NamespaceManifest
