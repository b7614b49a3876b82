import NamespaceManifest.Value.Display

/-!
# Values that can be written

A list can be written if all its items can, and a mapping if all its keys and values can.  So setting a
key keeps a mapping that can be written (`areWritableEntries_insert`), and what is looked up in one can be
written (`isWritable_of_lookup`).
-/

namespace NamespaceManifest

namespace Value

theorem areWritable_iff
    {items : List Value} :
    areWritable items = true ↔ ∀ v ∈ items, v.isWritable = true := by
  induction items with
  | nil =>
      simp [areWritable]
  | cons v items ih =>
      simp [areWritable, ih]

theorem areWritableEntries_iff
    {entries : List (Value × Value)} :
    areWritableEntries entries = true ↔
      ∀ entry ∈ entries, entry.1.isWritable = true ∧ entry.2.isWritable = true := by
  induction entries with
  | nil =>
      simp [areWritableEntries]
  | cons entry entries ih =>
      simp [areWritableEntries, ih]

theorem areWritableEntries_insert
    {key v : Value} {entries : List (Value × Value)}
    (hkey : key.isWritable = true)
    (hv : v.isWritable = true)
    (h : areWritableEntries entries = true) :
    areWritableEntries (insert key v entries) = true := by
  induction entries with
  | nil =>
      simp [insert, areWritableEntries, hkey, hv]
  | cons entry entries ih =>
      obtain ⟨k, w⟩ := entry
      simp only [areWritableEntries, Bool.and_eq_true] at h
      obtain ⟨⟨hk, hw⟩, hrest⟩ := h
      simp only [insert]
      split
      · simp [areWritableEntries, hk, hv, hrest]
      · simp [areWritableEntries, hk, hw, ih hrest]

theorem mem_of_lookup
    {key : String} {entries : List (Value × Value)} {v : Value}
    (h : lookup key entries = some v) :
    ∃ k, (k, v) ∈ entries := by
  fun_induction lookup key entries with
  | case1 =>
      cases h
  | case2 s w entries hkey =>
      cases h
      exact ⟨_, List.mem_cons_self⟩
  | case3 s w entries hkey ih =>
      obtain ⟨k, hk⟩ := ih h
      exact ⟨k, List.mem_cons_of_mem _ hk⟩
  | case4 entry entries hentry ih =>
      obtain ⟨k, hk⟩ := ih h
      exact ⟨k, List.mem_cons_of_mem _ hk⟩

/-- What stands under a key of a mapping that can be written can be written. -/
theorem isWritable_of_lookup
    {key : String} {entries : List (Value × Value)} {v : Value}
    (hentries : (Value.map entries).isWritable = true)
    (h : lookup key entries = some v) :
    v.isWritable = true := by
  obtain ⟨k, hk⟩ := mem_of_lookup h
  exact (areWritableEntries_iff.mp hentries _ hk).2

end Value

end NamespaceManifest
