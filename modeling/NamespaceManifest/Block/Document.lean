import NamespaceManifest.Block.Issue
import NamespaceManifest.Error

/-!
# Block documents

A block document is a value: a list of entries, or a mapping with such a list under `blocks`; nothing
at all is the empty list.  An entry is a mapping with the optional fields `file`, `line`, `name`,
`tags` and `object`.

* Tags are a mapping, or a list of mappings with one entry each.  A list as the value of a tag repeats
  the tag.
* A tag whose raw text does not fit its shape is left out of the block and reported as an issue.
* Everything else that misses the structure is an error, and the first one ends the reading.  Within
  an entry the tags are looked at before the object.
* An integer with too many digits cannot be written, which ends the reading where its text is needed:
  in the name and the value of a tag, in a location, and in a message about the kind of an object.
-/

namespace NamespaceManifest
namespace BlockDocument

/-- A field of an entry; a missing one is nothing. -/
def field (entries : List (Value × Value)) (key : String) : Value :=
  (Value.lookup key entries).getD .null

/-- A field of an entry that is a text and not empty. -/
def textField (entries : List (Value × Value)) (key : String) : Option String :=
  (field entries key).nonemptyText?

/-- A value that can be written. -/
def writable (v : Value) : Except Error Unit :=
  if v.isWritable then .ok () else .error (.scalar .unwritable)

/-- The raw text of a tag value. -/
def rawText : Value → String
  | .null => ""
  | .bool b => if b then "TRUE" else "FALSE"
  | v => v.display

/-- The values that a tag value stands for: a list stands for its items. -/
def rawValues : Value → List Value
  | .list items => items
  | v => [v]

/-- The tag and value of every item of a list of mappings with one entry each. -/
def singleEntries (index : Nat) : List Value → Except DocumentError (List (Value × Value))
  | [] => .ok []
  | .map [entry] :: items => (singleEntries index items).map (entry :: ·)
  | _ :: _ => .error (.tagNotSingle index)

/-- The tags of an entry with their values, before any text is looked at. -/
def tagEntries (index : Nat) : Value → Except DocumentError (List (Value × Value))
  | .null => .ok []
  | .map entries => .ok entries
  | .list items => singleEntries index items
  | _ => .error (.tagsNotListing index)

/-- The names of the tags of some entries with their raw texts, in order. -/
def rawTagsOf (entries : List (Value × Value)) : List (String × String) :=
  entries.flatMap fun entry => (rawValues entry.2).map fun v => (entry.1.display, rawText v)

/-- Whether all names and values of the tags of some entries can be written. -/
def areWritable (entries : List (Value × Value)) : Bool :=
  entries.all fun entry => (rawValues entry.2).all fun v => entry.1.isWritable && v.isWritable

/-- The tag names of an entry with their raw texts, in order. -/
def rawTags (index : Nat) (tags : Value) : Except Error (List (String × String)) :=
  match tagEntries index tags with
  | .error e => .error (.document e)
  | .ok entries =>
      if areWritable entries then .ok (rawTagsOf entries) else .error (.scalar .unwritable)

/-- The name that the tags of an entry give to its block. -/
def nameFromTags (raw : List (String × String)) : Option String :=
  (raw.find? fun tag => tag.1 == "name" && !Text.isBlankText tag.2).map fun tag => Text.trim tag.2

/-- The line of an entry, if it is an integer or a truth value. -/
def lineMark? : Value → Option LineMark
  | .int n => some (.number n)
  | .bool b => some (.flag b)
  | _ => none

/-- Whether a line mark can be written. -/
def isWritableLine : LineMark → Bool
  | .number n => Number.isWritable n
  | .flag _ => true

/-- The location of an entry, for issues found while it is read. -/
def entryLocation (file : Option String) (line : Option LineMark) (name : Option String)
    (index : Nat) : Except Error String :=
  match file, line with
  | some f, some l =>
      if isWritableLine l then .ok (f ++ ":" ++ l.display) else .error (.scalar .unwritable)
  | some f, none => .ok f
  | none, _ => .ok (name.getD (DocumentError.entry index))

/-- A field that an object of its kind must have as a text that is not empty, under the first of the
given keys that has one. -/
def require (index : Nat) (entries : List (Value × Value)) (keys : List String) :
    Except Error String :=
  match keys.findSome? (textField entries) with
  | some s => .ok s
  | none => do
      writable (field entries "kind")
      throw (.document (.fieldMissing index (field entries "kind").display (keys.headD "")))

/-- The keys under which a class stands. -/
def classKeys : List String := ["class", "class_name"]

/-- The object that the fields of a mapping describe, with the name of its block. -/
def readFields (index : Nat) (name : Option String) (entries : List (Value × Value)) :
    Except Error DocObject :=
  match (textField entries "kind").getD "plain" with
  | "plain" =>
      match textField entries "name" <|> name with
      | some n => .ok (.plain n (textField entries "alias"))
      | none => (require index entries ["name"]).map fun n => .plain n (textField entries "alias")
  | "formal_class" => (require index entries classKeys).map .formalClass
  | "formal_generic" => (require index entries ["generic"]).map .formalGeneric
  | "formal_method" => (require index entries ["generic"]).map .formalMethod
  | "convention_method" => do
      let generic ← require index entries ["generic"]
      let className ← require index entries classKeys
      return .conventionMethod generic className
  | "record_class" => (require index entries classKeys).map .recordClass
  | kind => .error (.document (.unknownKind index kind))

/-- The object of an entry: a text is the kind of an object without further fields. -/
def readObject (index : Nat) (name : Option String) : Value → Except Error (Option DocObject)
  | .null => .ok none
  | .text kind => (readFields index name [(.text "kind", .text kind)]).map some
  | .map entries => (readFields index name entries).map some
  | _ => .error (.document (.objectNotMapping index))

/-- The tags that fit their shapes. -/
def keptTags (line : Option LineMark) (raw : List (String × String)) : List Tag :=
  raw.filterMap fun tag =>
    match shapeTag tag.1 tag.2 with
    | .ok value => some { name := tag.1, value := value, line := line }
    | .error _ => none

/-- The issues of the tags that do not fit their shapes. -/
def shapeIssues (location : String) (raw : List (String × String)) : List Issue :=
  raw.filterMap fun tag =>
    match shapeTag tag.1 tag.2 with
    | .ok _ => none
    | .error e => some { location := location, tag := tag.1, complaint := .shape e }

/-- The block of an entry, with its issues. -/
def readEntry (source : Option String) (index : Nat) (entries : List (Value × Value)) :
    Except Error (Block × List Issue) := do
  let file := textField entries "file" <|> source
  let line := lineMark? (field entries "line")
  let raw ← rawTags index (field entries "tags")
  let name := textField entries "name" <|> nameFromTags raw
  let location ← entryLocation (presentText? file) line (presentText? name) index
  let object ← readObject index name (field entries "object")
  return ({ tags := keptTags line raw, object := object, file := file, line := line, name := name },
    shapeIssues location raw)

/-- The blocks of a list of entries from an index on, with their issues. -/
def readEntries (source : Option String) : Nat → List Value →
    Except Error (List Block × List Issue)
  | _, [] => .ok ([], [])
  | index, .map entries :: items => do
      let (block, issues) ← readEntry source index entries
      let (blocks, more) ← readEntries source (index + 1) items
      return (block :: blocks, issues ++ more)
  | index, _ :: _ => .error (.document (.entryNotMapping index))

/-- The blocks of a document from a named source, with their issues. -/
def read (source : Option String) : Value → Except Error (List Block × List Issue)
  | .null => .ok ([], [])
  | .list items => readEntries source 0 items
  | .map entries =>
      match (Value.lookup "blocks" entries).getD (.list []) with
      | .list items => readEntries source 0 items
      | _ => .error (.document .notAList)
  | _ => .error (.document .notAList)

end BlockDocument
end NamespaceManifest
