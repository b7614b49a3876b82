import NamespaceManifest.Proofs.Block.Document
import NamespaceManifest.Proofs.Value

/-!
# Why a block document is not read

A document that is not read misses the structure of block documents, or a text is needed that the document
does not have because of an integer with too many digits.  The second is the document's own doing: it
cannot be written as a whole either (`fault_of_read`).
-/

namespace NamespaceManifest

namespace BlockDocument

/-- What ends the reading of a part of a document. -/
inductive Fault (part : Value) : Error → Prop
  | document (d : DocumentError) :
      Fault part (.document d)
  | unwritable
      (h : part.isWritable = false) :
      Fault part (.scalar .unwritable)

theorem Fault.of_part
    {part whole : Value} {e : Error}
    (h : Fault part e)
    (hpart : whole.isWritable = true → part.isWritable = true) :
    Fault whole e := by
  cases h with
  | document d =>
      exact .document d
  | unwritable h =>
      refine .unwritable ?_
      rw [Bool.eq_false_iff] at h ⊢
      exact fun hwhole => h (hpart hwhole)

theorem isWritable_field
    {fields : List (Value × Value)}
    (h : (Value.map fields).isWritable = true)
    (key : String) :
    (field fields key).isWritable = true := by
  rw [field]
  cases hlookup : Value.lookup key fields with
  | none =>
      rfl
  | some v =>
      exact Value.isWritable_of_lookup h hlookup

/-! ## Tags -/

theorem areWritableEntries_of_tagEntries
    {index : Nat} {tags : Value} {entries : List (Value × Value)}
    (htags : tags.isWritable = true)
    (h : tagEntries index tags = .ok entries) :
    Value.areWritableEntries entries = true := by
  unfold tagEntries at h
  split at h
  · cases h
    rfl
  · cases h
    exact htags
  · obtain rfl := singleEntries_eq_ok_iff.mp h
    rw [Value.isWritable, Value.areWritable_iff] at htags
    refine Value.areWritableEntries_iff.mpr fun entry hentry => ?_
    have hsingle := htags (.map [entry]) (List.mem_map_of_mem hentry)
    exact Value.areWritableEntries_iff.mp hsingle entry List.mem_cons_self
  · cases h

/-- A list that is the value of a tag can be written if its items can. -/
theorem isWritable_of_mem_rawValues
    {v w : Value}
    (hv : v.isWritable = true)
    (h : w ∈ rawValues v) :
    w.isWritable = true := by
  unfold rawValues at h
  split at h
  · exact Value.areWritable_iff.mp hv w h
  · rw [List.mem_singleton.mp h]
    exact hv

theorem areWritable_of_areWritableEntries
    {entries : List (Value × Value)}
    (h : Value.areWritableEntries entries = true) :
    areWritable entries = true := by
  rw [Value.areWritableEntries_iff] at h
  simp only [areWritable, List.all_eq_true, Bool.and_eq_true]
  intro entry hentry v hv
  exact ⟨(h entry hentry).1, isWritable_of_mem_rawValues (h entry hentry).2 hv⟩

theorem fault_of_rawTags
    {index : Nat} {tags : Value} {e : Error}
    (h : rawTags index tags = .error e) :
    Fault tags e := by
  unfold rawTags at h
  split at h
  · cases h
    exact .document _
  · rename_i entries hentries
    split at h
    · cases h
    · rename_i hunwritable
      cases h
      refine .unwritable (Bool.eq_false_iff.mpr fun htags => hunwritable ?_)
      exact areWritable_of_areWritableEntries (areWritableEntries_of_tagEntries htags hentries)

/-! ## The line and the object -/

theorem isWritableLine_of_lineMark?
    {v : Value} {line : LineMark}
    (hv : v.isWritable = true)
    (h : lineMark? v = some line) :
    isWritableLine line = true := by
  unfold lineMark? at h
  split at h
  · cases h
    exact hv
  · cases h
    rfl
  · cases h

theorem fault_of_entryLocation
    {file name : Option String} {v : Value} {index : Nat} {e : Error}
    (h : entryLocation file (lineMark? v) name index = .error e) :
    Fault v e := by
  unfold entryLocation at h
  split at h
  · rename_i line hline
    split at h
    · cases h
    · rename_i hunwritable
      cases h
      exact .unwritable (Bool.eq_false_iff.mpr fun hv =>
        hunwritable (isWritableLine_of_lineMark? hv hline))
  · cases h
  · cases h

theorem fault_of_require
    {index : Nat} {fields : List (Value × Value)} {keys : List String} {e : Error}
    (h : require index fields keys = .error e) :
    Fault (.map fields) e := by
  unfold require at h
  split at h
  · cases h
  · cases hkind : (field fields "kind").isWritable with
    | true =>
        simp only [writable, hkind, if_true, bind, Except.bind, throw, throwThe,
          MonadExceptOf.throw, Except.error.injEq] at h
        subst h
        exact .document _
    | false =>
        simp only [writable, hkind, Bool.false_eq_true, if_false, bind, Except.bind,
          Except.error.injEq] at h
        subst h
        exact (Fault.unwritable hkind).of_part fun hfields => isWritable_field hfields "kind"

theorem fault_of_map
    {α β : Type} {x : Except Error α} {f : α → β} {part : Value} {e : Error}
    (hx : ∀ {e}, x = .error e → Fault part e)
    (h : x.map f = .error e) :
    Fault part e := by
  cases x with
  | error e' =>
      cases h
      exact hx rfl
  | ok a =>
      cases h

theorem fault_of_readFields
    {index : Nat} {name : Option String} {fields : List (Value × Value)} {e : Error}
    (h : readFields index name fields = .error e) :
    Fault (.map fields) e := by
  unfold readFields at h
  split at h
  · split at h
    · cases h
    · exact fault_of_map fault_of_require h
  · exact fault_of_map fault_of_require h
  · exact fault_of_map fault_of_require h
  · exact fault_of_map fault_of_require h
  · -- a convention method needs two fields
    simp only [bind, Except.bind, pure, Except.pure] at h
    split at h
    · rename_i hgeneric
      cases h
      exact fault_of_require hgeneric
    · split at h
      · rename_i hclass
        cases h
        exact fault_of_require hclass
      · cases h
  · exact fault_of_map fault_of_require h
  · cases h
    exact .document _

theorem fault_of_readObject
    {index : Nat} {name : Option String} {v : Value} {e : Error}
    (h : readObject index name v = .error e) :
    Fault v e := by
  unfold readObject at h
  split at h
  · cases h
  · exact (fault_of_map fault_of_readFields h).of_part fun _ => rfl
  · exact fault_of_map fault_of_readFields h
  · cases h
    exact .document _

/-! ## Entries and documents -/

theorem fault_of_readEntry
    {source : Option String} {index : Nat} {fields : List (Value × Value)} {e : Error}
    (h : readEntry source index fields = .error e) :
    Fault (.map fields) e := by
  have hfield : ∀ {key}, Fault (field fields key) e → Fault (.map fields) e :=
    fun hfault => hfault.of_part fun hfields => isWritable_field hfields _
  simp only [readEntry, bind, Except.bind, pure, Except.pure] at h
  split at h
  · rename_i htags
    cases h
    exact hfield (fault_of_rawTags htags)
  · split at h
    · rename_i hlocation
      cases h
      exact hfield (fault_of_entryLocation hlocation)
    · split at h
      · rename_i hobject
        cases h
        exact hfield (fault_of_readObject hobject)
      · cases h

theorem fault_of_readEntries
    {source : Option String} {index : Nat} {items : List Value} {e : Error}
    (h : readEntries source index items = .error e) :
    Fault (.list items) e := by
  fun_induction readEntries source index items with
  | case1 =>
      cases h
  | case2 index fields items ih =>
      simp only [bind, Except.bind, pure, Except.pure] at h
      split at h
      · rename_i hentry
        cases h
        refine (fault_of_readEntry hentry).of_part fun hitems => ?_
        exact Value.areWritable_iff.mp hitems _ List.mem_cons_self
      · split at h
        · rename_i hrest
          cases h
          refine (ih hrest).of_part fun hitems => Value.areWritable_iff.mpr fun v hv => ?_
          exact Value.areWritable_iff.mp hitems v (List.mem_cons_of_mem _ hv)
        · cases h
  | case3 =>
      cases h
      exact .document _

/-- A document that is not read misses the structure, or cannot be written. -/
theorem fault_of_read
    {source : Option String} {v : Value} {e : Error}
    (h : read source v = .error e) :
    Fault v e := by
  unfold read at h
  split at h
  · cases h
  · exact fault_of_readEntries h
  · rename_i fields
    split at h
    · rename_i items hitems
      refine (fault_of_readEntries h).of_part fun hfields => ?_
      cases hlookup : Value.lookup "blocks" fields with
      | none =>
          simp only [hlookup, Option.getD_none, Value.list.injEq] at hitems
          subst hitems
          rfl
      | some blocks =>
          simp only [hlookup, Option.getD_some] at hitems
          subst hitems
          exact Value.isWritable_of_lookup hfields hlookup
    · cases h
      exact .document _
  · cases h
    exact .document _

end BlockDocument
end NamespaceManifest
