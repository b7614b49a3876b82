import NamespaceManifest.Proofs.Block.Fault

/-!
# The grammar of block documents

A value is a block document if it is built as follows.

* It is nothing, a list of entries, or a mapping that has such a list under `blocks` or lacks this key.
* Every entry is a mapping.
* The tags of an entry are nothing, a mapping, or a list of mappings with one entry each.
* The object of an entry is nothing, or a mapping that carries what its kind requires.  It may also be the
  kind alone, as a text; then it is plain, since every other kind requires a field.

A field that is not a text, or an empty one, counts as missing wherever a text is looked for.  This is how an
object comes to be plain although something else stands under its kind.

Such documents are read, and all other values are refused for what they miss (`read_accepts_iff`).
-/

namespace NamespaceManifest
namespace BlockDocument

/-! ## The grammar -/

/-- A field holds a text that is not empty. -/
def HasText (fields : List (Value × Value)) (key : String) : Prop :=
  ∃ s, s ≠ "" ∧ field fields key = .text s

/-- A field holds the name of a class. -/
def HasClass (fields : List (Value × Value)) : Prop :=
  HasText fields "class" ∨ HasText fields "class_name"

/-- The kind of an object with some fields: plain, unless a text says something else. -/
inductive StatesKind (fields : List (Value × Value)) : String → Prop
  | given
      {kind : String}
      (hne : kind ≠ "")
      (h : field fields "kind" = .text kind) :
      StatesKind fields kind
  | default
      (h : ¬ HasText fields "kind") :
      StatesKind fields "plain"

/-- The fields of an object carry what its kind requires.  A plain object can take its name from a block that
is named. -/
def Carries (named : Prop) (fields : List (Value × Value)) (kind : String) : Prop :=
  (kind = "plain" ∧ (HasText fields "name" ∨ named)) ∨
  ((kind = "formal_class" ∨ kind = "record_class") ∧ HasClass fields) ∨
  ((kind = "formal_generic" ∨ kind = "formal_method") ∧ HasText fields "generic") ∨
  (kind = "convention_method" ∧ HasText fields "generic" ∧ HasClass fields)

/-- A value is the object of a block that may be named. -/
inductive IsObject (named : Prop) : Value → Prop
  | nothing :
      IsObject named .null
  | kindAlone
      {kind : String}
      (hkind : kind = "plain" ∨ kind = "")
      (h : named) :
      IsObject named (.text kind)
  | mapping
      {fields : List (Value × Value)} {kind : String}
      (hkind : StatesKind fields kind)
      (h : Carries named fields kind) :
      IsObject named (.map fields)

/-- A value lists tags with their values. -/
inductive ListsTags : Value → List (Value × Value) → Prop
  | nothing :
      ListsTags .null []
  | mapping
      (entries : List (Value × Value)) :
      ListsTags (.map entries) entries
  | singles
      (entries : List (Value × Value)) :
      ListsTags (.list (entries.map fun entry => .map [entry])) entries

/-- An entry with some fields and tags names its block. -/
def Names (fields entries : List (Value × Value)) : Prop :=
  HasText fields "name" ∨
    ∃ tag ∈ rawTagsOf entries, tag.1 = "name" ∧ Text.isBlankText tag.2 = false

/-- A value is an entry of a document. -/
inductive IsEntry : Value → Prop
  | mapping
      {fields entries : List (Value × Value)}
      (htags : ListsTags (field fields "tags") entries)
      (hobject : IsObject (Names fields entries) (field fields "object")) :
      IsEntry (.map fields)

/-- A value lists the entries of a document. -/
inductive ListsEntries : Value → List Value → Prop
  | nothing :
      ListsEntries .null []
  | list
      (items : List Value) :
      ListsEntries (.list items) items
  | missing
      {fields : List (Value × Value)}
      (h : Value.lookup "blocks" fields = none) :
      ListsEntries (.map fields) []
  | blocks
      {fields : List (Value × Value)} {items : List Value}
      (h : Value.lookup "blocks" fields = some (.list items)) :
      ListsEntries (.map fields) items

/-- A value is a block document. -/
def IsDocument (v : Value) : Prop :=
  ∃ items, ListsEntries v items ∧ ∀ entry ∈ items, IsEntry entry

/-! ## Objects -/

section Objects

variable {fields : List (Value × Value)} {name : Option String} {index : Nat}

theorem nonemptyText?_eq_some_iff
    {v : Value} {s : String} :
    v.nonemptyText? = some s ↔ s ≠ "" ∧ v = .text s := by
  cases v with
  | text t =>
      by_cases ht : t = ""
      · have hempty : t.isEmpty = true := by simp [ht]
        simp only [Value.nonemptyText?, hempty, if_true, reduceCtorEq, false_iff, Value.text.injEq,
          not_and]
        rintro hs rfl
        exact hs ht
      · have hempty : t.isEmpty = false := by simpa using ht
        simp only [Value.nonemptyText?, hempty, Bool.false_eq_true, if_false, Option.some.injEq,
          Value.text.injEq]
        constructor
        · rintro rfl
          exact ⟨ht, rfl⟩
        · exact fun h => h.2
  | _ =>
      simp [Value.nonemptyText?]

theorem textField_eq_some_iff
    {key s : String} :
    textField fields key = some s ↔ s ≠ "" ∧ field fields key = .text s :=
  nonemptyText?_eq_some_iff

theorem isSome_textField_iff
    {key : String} :
    (textField fields key).isSome = true ↔ HasText fields key := by
  simp only [Option.isSome_iff_exists, textField_eq_some_iff, HasText]

/-- The kind of an object is stated by a text under `kind`, or it is plain. -/
theorem statesKind_iff
    {kind : String} :
    StatesKind fields kind ↔ (textField fields "kind").getD "plain" = kind := by
  cases hkind : textField fields "kind" with
  | some stated =>
      obtain ⟨hne, hfield⟩ := textField_eq_some_iff.mp hkind
      constructor
      · rintro (⟨-, h⟩ | h)
        · exact Value.text.inj (hfield.symm.trans h)
        · exact absurd ⟨stated, hne, hfield⟩ h
      · rintro rfl
        exact .given hne hfield
  | none =>
      have hnone : ¬ HasText fields "kind" := by
        rw [← isSome_textField_iff, hkind]
        simp
      constructor
      · rintro (⟨hne, h⟩ | -)
        · exact absurd ⟨kind, hne, h⟩ hnone
        · rfl
      · rintro rfl
        exact .default hnone

theorem exists_require_iff
    {keys : List String} :
    (∃ s, require index fields keys = .ok s) ↔ ∃ key ∈ keys, HasText fields key := by
  have hfound : (keys.findSome? (textField fields)).isSome = true ↔
      ∃ key ∈ keys, HasText fields key := by
    rw [List.findSome?_isSome_iff]
    simp only [isSome_textField_iff]
  rw [← hfound]
  unfold require
  cases keys.findSome? (textField fields) with
  | some s =>
      simp
  | none =>
      cases hkind : writable (field fields "kind") <;>
        simp [bind, Except.bind, throw, throwThe, MonadExceptOf.throw]

theorem exists_map_iff
    {α β : Type} {x : Except Error α} {f : α → β} :
    (∃ b, x.map f = .ok b) ↔ ∃ a, x = .ok a := by
  cases x <;> simp [Except.map]

theorem exists_bind_iff
    {α β : Type} {x : Except Error α} {f : α → Except Error β} :
    (∃ b, (x >>= f) = .ok b) ↔ ∃ a, x = .ok a ∧ ∃ b, f a = .ok b := by
  cases x <;> simp [bind, Except.bind]

theorem exists_requireClass_iff :
    (∃ s, require index fields classKeys = .ok s) ↔ HasClass fields := by
  simp [exists_require_iff, classKeys, HasClass]

theorem exists_requireField_iff
    {key : String} :
    (∃ s, require index fields [key] = .ok s) ↔ HasText fields key := by
  simp [exists_require_iff]

/-- A mapping describes an object if it carries what its kind requires. -/
theorem exists_readFields_iff :
    (∃ object, readFields index name fields = .ok object) ↔
      ∃ kind, StatesKind fields kind ∧ Carries (name.isSome = true) fields kind := by
  simp only [statesKind_iff, exists_eq_left']
  unfold readFields
  generalize (textField fields "kind").getD "plain" = kind
  split
  · have hcarries : Carries (name.isSome = true) fields "plain" ↔
        (textField fields "name" <|> name).isSome = true := by
      simp [Carries, isSome_textField_iff]
    rw [hcarries]
    split
    · rename_i hname
      simp [hname]
    · -- the name is asked for once more, where it is known to be missing
      rename_i hname
      have hmissing : ¬ HasText fields "name" := by
        rw [← isSome_textField_iff]
        cases hown : textField fields "name" with
        | none =>
            simp
        | some n =>
            simp [hown] at hname
      rw [exists_map_iff, exists_requireField_iff]
      simp [hname, hmissing]
  · rw [exists_map_iff, exists_requireClass_iff]
    simp [Carries]
  · rw [exists_map_iff, exists_requireField_iff]
    simp [Carries]
  · rw [exists_map_iff, exists_requireField_iff]
    simp [Carries]
  · simp only [exists_bind_iff, pure, Except.pure, Except.ok.injEq, exists_eq', and_true]
    rw [exists_and_right, exists_requireField_iff, exists_requireClass_iff]
    simp [Carries]
  · rw [exists_map_iff, exists_requireClass_iff]
    simp [Carries]
  · rename_i hplain hclass hgeneric hmethod hconvention hrecord
    have hnone : ¬ Carries (name.isSome = true) fields kind := by
      rintro (⟨h, -⟩ | ⟨h | h, -⟩ | ⟨h | h, -⟩ | ⟨h, -⟩)
      · exact hplain h
      · exact hclass h
      · exact hrecord h
      · exact hgeneric h
      · exact hmethod h
      · exact hconvention h
    simp [hnone]

/-- The kind alone carries nothing else, so it has to be plain. -/
theorem exists_readKind_iff
    {kind : String} :
    (∃ object, readFields index name [(.text "kind", .text kind)] = .ok object) ↔
      (kind = "plain" ∨ kind = "") ∧ name.isSome = true := by
  rw [exists_readFields_iff]
  simp only [statesKind_iff, exists_eq_left']
  have hmissing : ∀ key, key ≠ "kind" → ¬ HasText [(.text "kind", .text kind)] key := by
    rintro key hkey ⟨s, -, hs⟩
    simp [field, Value.lookup, Ne.symm hkey] at hs
  have hkind : (textField [(.text "kind", .text kind)] "kind").getD "plain" = "plain" ↔
      kind = "plain" ∨ kind = "" := by
    by_cases hempty : kind = ""
    · simp [textField, field, Value.lookup, Value.nonemptyText?, hempty]
    · simp [textField, field, Value.lookup, Value.nonemptyText?, hempty]
  simp [Carries, HasClass, hmissing, hkind]

theorem exists_readObject_iff
    {v : Value} :
    (∃ object, readObject index name v = .ok object) ↔ IsObject (name.isSome = true) v := by
  unfold readObject
  split
  · exact ⟨fun _ => .nothing, fun _ => ⟨none, rfl⟩⟩
  · rw [exists_map_iff, exists_readKind_iff]
    constructor
    · rintro ⟨hkind, hname⟩
      exact .kindAlone hkind hname
    · rintro (_ | ⟨hkind, hname⟩)
      exact ⟨hkind, hname⟩
  · rw [exists_map_iff, exists_readFields_iff]
    constructor
    · rintro ⟨kind, hkind, h⟩
      exact .mapping hkind h
    · rintro (_ | _ | ⟨hkind, h⟩)
      exact ⟨_, hkind, h⟩
  · rename_i hnull htext hmap
    constructor
    · rintro ⟨object, h⟩
      cases h
    · rintro (_ | _ | _)
      · exact absurd rfl hnull
      · exact absurd rfl (htext _)
      · exact absurd rfl (hmap _)

end Objects

/-! ## Tags and names -/

theorem tagEntries_eq_ok_iff
    (index : Nat)
    {tags : Value} {entries : List (Value × Value)} :
    tagEntries index tags = .ok entries ↔ ListsTags tags entries := by
  unfold tagEntries
  split
  · constructor
    · rintro ⟨⟩
      exact .nothing
    · rintro ⟨⟩
      rfl
  · constructor
    · rintro ⟨⟩
      exact .mapping _
    · rintro ⟨⟩
      rfl
  · rw [singleEntries_eq_ok_iff]
    constructor
    · rintro rfl
      exact .singles _
    · rintro ⟨⟩
      rfl
  · rename_i hnull hmap hlist
    constructor
    · rintro ⟨⟩
    · rintro (_ | _ | _)
      · exact absurd rfl hnull
      · exact absurd rfl (hmap _)
      · exact absurd rfl (hlist _)

theorem listsTags_of_rawTags
    {index : Nat} {tags : Value} {raw : List (String × String)}
    (h : rawTags index tags = .ok raw) :
    ∃ entries, ListsTags tags entries ∧ rawTagsOf entries = raw := by
  unfold rawTags at h
  split at h
  · cases h
  · rename_i entries hentries
    split at h
    · cases h
      exact ⟨entries, (tagEntries_eq_ok_iff index).mp hentries, rfl⟩
    · cases h

/-- The tags of an entry are read if they are listed and can be written. -/
theorem rawTags_eq_ok_iff
    {index : Nat} {tags : Value} {raw : List (String × String)}
    (htags : tags.isWritable = true) :
    rawTags index tags = .ok raw ↔ ∃ entries, ListsTags tags entries ∧ rawTagsOf entries = raw := by
  constructor
  · exact listsTags_of_rawTags
  · rintro ⟨entries, hlists, rfl⟩
    have hentries := (tagEntries_eq_ok_iff index).mpr hlists
    have hwritable := areWritable_of_areWritableEntries
      (areWritableEntries_of_tagEntries htags hentries)
    simp only [rawTags, hentries, hwritable, if_true]

theorem isSome_nameFromTags_iff
    {raw : List (String × String)} :
    (nameFromTags raw).isSome = true ↔
      ∃ tag ∈ raw, tag.1 = "name" ∧ Text.isBlankText tag.2 = false := by
  simp [nameFromTags, List.find?_isSome]

theorem exists_entryLocation
    {file name : Option String} {v : Value} {index : Nat}
    (hv : v.isWritable = true) :
    ∃ location, entryLocation file (lineMark? v) name index = .ok location := by
  unfold entryLocation
  split
  · rename_i line hline
    rw [if_pos (isWritableLine_of_lineMark? hv hline)]
    exact ⟨_, rfl⟩
  · exact ⟨_, rfl⟩
  · exact ⟨_, rfl⟩

/-! ## Entries and documents -/

theorem read_eq_readEntries
    (source : Option String)
    {v : Value} {items : List Value}
    (h : ListsEntries v items) :
    read source v = readEntries source 0 items := by
  cases h with
  | nothing =>
      rfl
  | list items =>
      rfl
  | missing h =>
      simp only [read, h, Option.getD_none]
  | blocks h =>
      simp only [read, h, Option.getD_some]

theorem listsEntries_of_read
    {source : Option String} {v : Value} {result : List Block × List Issue}
    (h : read source v = .ok result) :
    ∃ items, ListsEntries v items := by
  unfold read at h
  split at h
  · exact ⟨_, .nothing⟩
  · exact ⟨_, .list _⟩
  · rename_i fields
    split at h
    · rename_i items hitems
      cases hlookup : Value.lookup "blocks" fields with
      | none =>
          exact ⟨_, .missing hlookup⟩
      | some blocks =>
          simp only [hlookup, Option.getD_some] at hitems
          subst hitems
          exact ⟨_, .blocks hlookup⟩
    · cases h
  · cases h

theorem areWritable_of_listsEntries
    {v : Value} {items : List Value}
    (hv : v.isWritable = true)
    (h : ListsEntries v items) :
    Value.areWritable items = true := by
  cases h with
  | nothing =>
      rfl
  | list items =>
      exact hv
  | missing h =>
      rfl
  | blocks h =>
      exact Value.isWritable_of_lookup hv h

section Documents

variable (source : Option String)

theorem exists_readEntry_iff
    (index : Nat)
    {fields : List (Value × Value)}
    (hfields : (Value.map fields).isWritable = true) :
    (∃ result, readEntry source index fields = .ok result) ↔ IsEntry (.map fields) := by
  have hname : ∀ entries : List (Value × Value),
      (textField fields "name" <|> nameFromTags (rawTagsOf entries)).isSome = true ↔
        Names fields entries := by
    intro entries
    simp [Names, isSome_textField_iff, isSome_nameFromTags_iff]
  unfold readEntry
  simp only [exists_bind_iff, rawTags_eq_ok_iff (isWritable_field hfields "tags"),
    exists_readObject_iff, pure, Except.pure, Except.ok.injEq, exists_eq', and_true]
  constructor
  · rintro ⟨_, ⟨entries, htags, rfl⟩, _, -, hobject⟩
    rw [hname] at hobject
    exact .mapping htags hobject
  · rintro ⟨htags, hobject⟩
    rw [← hname] at hobject
    obtain ⟨location, hlocation⟩ := exists_entryLocation (isWritable_field hfields "line")
    exact ⟨_, ⟨_, htags, rfl⟩, location, hlocation, hobject⟩

theorem exists_readEntries_iff
    (index : Nat)
    {items : List Value}
    (hitems : Value.areWritable items = true) :
    (∃ result, readEntries source index items = .ok result) ↔ ∀ entry ∈ items, IsEntry entry := by
  fun_induction readEntries source index items with
  | case1 =>
      simp
  | case2 index fields items ih =>
      simp only [Value.areWritable, Bool.and_eq_true] at hitems
      have hentry := exists_readEntry_iff source index hitems.1
      rw [List.forall_mem_cons, ← hentry, ← ih hitems.2]
      simp only [exists_bind_iff, pure, Except.pure, Except.ok.injEq, exists_eq', and_true]
      exact exists_and_right
  | case3 index item items hitem =>
      constructor
      · rintro ⟨result, h⟩
        cases h
      · intro h
        obtain ⟨⟩ := h item List.mem_cons_self
        exact absurd rfl (hitem _)

theorem exists_read_iff
    {v : Value}
    (hv : v.isWritable = true) :
    (∃ result, read source v = .ok result) ↔ IsDocument v := by
  constructor
  · rintro ⟨result, h⟩
    obtain ⟨items, hitems⟩ := listsEntries_of_read h
    rw [read_eq_readEntries source hitems] at h
    have hall := (exists_readEntries_iff source 0 (areWritable_of_listsEntries hv hitems)).mp ⟨result, h⟩
    exact ⟨items, hitems, hall⟩
  · rintro ⟨items, hitems, hall⟩
    rw [read_eq_readEntries source hitems]
    exact (exists_readEntries_iff source 0 (areWritable_of_listsEntries hv hitems)).mpr hall

/-- Block documents are read, and all other values are refused with an error that says what they miss.

Integers with too many digits have no text, so the values are those that can be written.  Every value that a
JSON text denotes is one of them. -/
theorem read_accepts_iff
    {v : Value}
    (hv : v.isWritable = true) :
    ((∃ blocks issues, read source v = .ok (blocks, issues)) ↔ IsDocument v) ∧
      ∀ e, read source v = .error e → ∃ d, e = .document d := by
  constructor
  · rw [← exists_read_iff source hv, Prod.exists]
  · intro e he
    cases fault_of_read he with
    | document d =>
        exact ⟨d, rfl⟩
    | unwritable h =>
        rw [hv] at h
        cases h

end Documents

/-- A document with one plain object, whose name stands under a tag. -/
def taggedDocument (name : String) : Value :=
  .list [.map [(.text "tags", .list [.map [(.text "name", .text name)]]),
    (.text "object", .map [(.text "alias", .text "g")])]]

/-- A name under a tag is as good as one of the entry, and a blank one is none. -/
theorem read_accepts_taggedDocument :
    IsDocument (taggedDocument " f ") ∧ ¬ IsDocument (taggedDocument " ") := by
  constructor
  · exact (read_accepts_iff none rfl).1.mp ⟨_, _, rfl⟩
  · intro h
    obtain ⟨blocks, issues, hread⟩ := (read_accepts_iff none rfl).1.mpr h
    have hrefused : read none (taggedDocument " ") =
        .error (.document (.fieldMissing 0 "None" "name")) := rfl
    rw [hrefused] at hread
    cases hread

/-- A document with one entry that has a name and an object. -/
def namedDocument (object : Value) : Value :=
  .list [.map [(.text "name", .text "f"), (.text "object", object)]]

/-- A kind that is not a text counts as plain, and a kind alone misses the fields that it requires. -/
theorem read_of_integerKind_of_kindAlone :
    (∃ result, read none (namedDocument (.map [(.text "kind", .int 5)])) = .ok result) ∧
      (∀ kind ∈ objectKindNames, field [(.text "kind", .int 5)] "kind" ≠ .text kind) ∧
      field [(.text "kind", .int 5)] "kind" ≠ .null ∧
      "formal_class" ∈ objectKindNames ∧
      read none (namedDocument (.text "formal_class")) =
        .error (.document (.fieldMissing 0 "formal_class" "class")) := by
  refine ⟨⟨_, rfl⟩, ?_, ?_, ?_, rfl⟩
  · intro kind _ h
    cases h
  · intro h
    cases h
  · decide

end BlockDocument
end NamespaceManifest
