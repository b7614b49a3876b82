import NamespaceManifest.Block.Load
import NamespaceManifest.Proofs.Text.Lines
import Mathlib.Data.List.Forall2

/-!
# Readings of block documents

A document that can be read has one block for every entry, in order (`readings_of_read`).  The raw tags of
an entry are cut in two: those that fit their shapes are the tags of the block, and each of the others
leaves an issue.

So the tags of all blocks went through the table of shapes (`Block.Shaped`).
-/

namespace NamespaceManifest

/-- Every tag of a block has the value of some raw text. -/
def Block.Shaped (block : Block) : Prop :=
  ∀ tag ∈ block.tags, ∃ raw, shapeTag tag.name raw = .ok tag.value

namespace BlockDocument

/-- What is read of an entry: its raw tags, where it stands, and its block. -/
structure Reading where
  raw : List (String × String)
  location : String
  block : Block

/-- The entries of a document. -/
def entriesOf : Value → List Value
  | .list items => items
  | .map fields =>
      match (Value.lookup "blocks" fields).getD (.list []) with
      | .list items => items
      | _ => []
  | _ => []

/-- An entry with an index is read: its raw tags are those of its field, and all of them go to its block
or to its issues. -/
structure Reads (source : Option String) (index : Nat) (entry : Value) (r : Reading) : Prop where
  found : ∃ fields, entry = .map fields ∧ rawTags index (field fields "tags") = .ok r.raw ∧
    readEntry source index fields = .ok (r.block, shapeIssues r.location r.raw)
  tags : r.block.tags = keptTags r.block.line r.raw

/-- A document is read as blocks and issues, entry by entry. -/
structure ReadAs (source : Option String) (v : Value) (readings : List Reading)
    (blocks : List Block) (issues : List Issue) : Prop where
  entries :
    List.Forall₂ (fun entry r => Reads source entry.2 entry.1 r) (entriesOf v).zipIdx readings
  blocks_eq : blocks = readings.map fun r => r.block
  issues_eq : issues = readings.flatMap fun r => shapeIssues r.location r.raw

/-- A list of tags is read if each of its items is a mapping with one entry. -/
theorem singleEntries_eq_ok_iff
    {index : Nat} {items : List Value} {entries : List (Value × Value)} :
    singleEntries index items = .ok entries ↔ items = entries.map fun entry => .map [entry] := by
  fun_induction singleEntries index items generalizing entries with
  | case1 =>
      cases entries <;> simp
  | case2 entry items ih =>
      cases entries with
      | nil =>
          cases singleEntries index items <;> simp [Except.map]
      | cons first entries =>
          rw [List.map_cons, List.cons.injEq, ← ih]
          cases singleEntries index items <;> simp [Except.map]
  | case3 item items hitem =>
      constructor
      · intro h
        cases h
      · intro h
        cases entries with
        | nil =>
            cases h
        | cons entry entries =>
            exact absurd (List.cons.inj h).1 (hitem entry)

theorem reads_of_readEntry
    {source : Option String} {index : Nat} {fields : List (Value × Value)}
    {block : Block} {issues : List Issue}
    (h : readEntry source index fields = .ok (block, issues)) :
    ∃ r, Reads source index (.map fields) r ∧ r.block = block ∧
      issues = shapeIssues r.location r.raw := by
  have hentry := h
  simp only [readEntry, bind, Except.bind, pure, Except.pure] at h
  split at h
  · cases h
  · rename_i raw hraw
    split at h
    · cases h
    · rename_i location _
      split at h
      · cases h
      · cases h
        exact ⟨⟨raw, location, _⟩, ⟨⟨fields, rfl, hraw, hentry⟩, rfl⟩, rfl, rfl⟩

theorem readings_of_readEntries
    {source : Option String} {index : Nat} {items : List Value}
    {blocks : List Block} {issues : List Issue}
    (h : readEntries source index items = .ok (blocks, issues)) :
    ∃ readings,
      List.Forall₂ (fun entry r => Reads source entry.2 entry.1 r) (items.zipIdx index) readings ∧
      (blocks = readings.map fun r => r.block) ∧
      issues = readings.flatMap fun r => shapeIssues r.location r.raw := by
  fun_induction readEntries source index items generalizing blocks issues with
  | case1 =>
      cases h
      exact ⟨[], .nil, rfl, rfl⟩
  | case2 index fields items ih =>
      simp only [bind, Except.bind, pure, Except.pure] at h
      cases hentry : readEntry source index fields with
      | error e =>
          simp [hentry] at h
      | ok first =>
          obtain ⟨block, found⟩ := first
          cases hrest : readEntries source (index + 1) items with
          | error e =>
              simp [hentry, hrest] at h
          | ok rest =>
              obtain ⟨others, more⟩ := rest
              simp only [hentry, hrest, Except.ok.injEq, Prod.mk.injEq] at h
              obtain ⟨rfl, rfl⟩ := h
              obtain ⟨r, hr, rfl, rfl⟩ := reads_of_readEntry hentry
              obtain ⟨readings, hall, rfl, rfl⟩ := ih hrest
              exact ⟨r :: readings, .cons hr hall, rfl, by simp⟩
  | case3 =>
      cases h

/-- A document that can be read has a reading. -/
theorem readings_of_read
    {source : Option String} {v : Value} {blocks : List Block} {issues : List Issue}
    (h : read source v = .ok (blocks, issues)) :
    ∃ readings, ReadAs source v readings blocks issues := by
  have hitems : readEntries source 0 (entriesOf v) = .ok (blocks, issues) := by
    unfold read at h
    split at h
    · exact h
    · exact h
    · rename_i fields
      simp only [entriesOf]
      split at h
      · rename_i items hlookup
        simpa only [hlookup] using h
      · cases h
    · cases h
  obtain ⟨readings, hall, hblocks, hissues⟩ := readings_of_readEntries hitems
  exact ⟨readings, hall, hblocks, hissues⟩

/-- A tag that is kept is a raw tag that fits its shape. -/
theorem exists_raw_of_mem_keptTags
    {line : Option LineMark} {raw : List (String × String)} {tag : Tag}
    (h : tag ∈ keptTags line raw) :
    ∃ text, (tag.name, text) ∈ raw ∧ shapeTag tag.name text = .ok tag.value := by
  obtain ⟨⟨name, text⟩, hmem, hkept⟩ := List.mem_filterMap.mp h
  cases hshape : shapeTag name text with
  | error e =>
      simp [hshape] at hkept
  | ok value =>
      simp only [hshape, Option.some.injEq] at hkept
      subst hkept
      exact ⟨text, hmem, hshape⟩

/-- Every block of a document comes from an entry. -/
theorem ReadAs.exists_reads
    {source : Option String} {v : Value} {readings : List Reading}
    {blocks : List Block} {issues : List Issue} {r : Reading}
    (h : ReadAs source v readings blocks issues)
    (hr : r ∈ readings) :
    ∃ index entry, Reads source index entry r := by
  obtain ⟨i, hi, rfl⟩ := List.mem_iff_getElem.mp hr
  have hlength := h.entries.length_eq
  have hentry := (List.forall₂_iff_get.mp h.entries).2 i (by omega) hi
  exact ⟨_, _, hentry⟩

/-- All blocks of a document are shaped. -/
theorem shaped_of_read
    {source : Option String} {v : Value} {blocks : List Block} {issues : List Issue}
    (h : read source v = .ok (blocks, issues)) :
    ∀ block ∈ blocks, block.Shaped := by
  intro block hblock tag htag
  obtain ⟨readings, hread⟩ := readings_of_read h
  rw [hread.blocks_eq] at hblock
  obtain ⟨r, hr, rfl⟩ := List.mem_map.mp hblock
  obtain ⟨index, entry, hreads⟩ := hread.exists_reads hr
  rw [hreads.tags] at htag
  obtain ⟨text, -, hshape⟩ := exists_raw_of_mem_keptTags htag
  exact ⟨text, hshape⟩

theorem shaped_of_readFile
    {p : Path} {t : Tree} {blocks : List Block} {issues : List Issue}
    (h : readFile p t = .ok (blocks, issues)) :
    ∀ block ∈ blocks, block.Shaped := by
  simp only [readFile, bind, Except.bind] at h
  split at h
  · cases h
  · split at h
    · cases h
    · split at h
      · cases h
      · cases h
      · exact shaped_of_read h

end BlockDocument
end NamespaceManifest
