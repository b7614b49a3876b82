import NamespaceManifest.Tag.Shape
import NamespaceManifest.Value.Display

/-!
# Documentation blocks

A block holds tags in the order of the source and, if known, the object that it documents.  The
documented object is one of six kinds:

* a plain declaration, with its name and perhaps another name under which it is exported;
* a formal class, a formal generic, or a formal method of a generic;
* a convention method, found by its generic and its class;
* a record class.

A block has a location for messages: its file and line, its file, its name, or none of them.
-/

namespace NamespaceManifest

/-- The object that a block documents. -/
inductive DocObject where
  | plain (name : String) (exportName : Option String)
  | formalClass (className : String)
  | formalGeneric (generic : String)
  | formalMethod (generic : String)
  | conventionMethod (generic className : String)
  | recordClass (className : String)
  deriving Repr, BEq, DecidableEq

/-- The line of a block: a number, or a truth value that a document gave in its place. -/
inductive LineMark where
  | number (n : Int)
  | flag (b : Bool)
  deriving Repr, BEq, DecidableEq

/-- A line mark as it is written in locations. -/
def LineMark.display : LineMark → String
  | number n => toString n
  | flag b => Value.boolText b

/-- A tag of a block. -/
structure Tag where
  name : String
  value : TagValue
  line : Option LineMark := none
  deriving Repr, BEq, DecidableEq

/-- A documentation block. -/
structure Block where
  tags : List Tag := []
  object : Option DocObject := none
  file : Option String := none
  line : Option LineMark := none
  name : Option String := none
  deriving Repr, BEq, DecidableEq

/-- The text if there is one and it is not empty. -/
def presentText? : Option String → Option String
  | some s => if s.isEmpty then none else some s
  | none => none

namespace Block

/-- Whether a block has a tag of a name. -/
def has (b : Block) (tag : String) : Bool :=
  b.tags.any fun t => t.name == tag

/-- The tags of a name, in source order. -/
def occurrences (b : Block) (tag : String) : List Tag :=
  b.tags.filter fun t => t.name == tag

/-- The distinct tag names in the order in which they first appear. -/
def tagNames (b : Block) : List String :=
  (b.tags.map (·.name)).eraseDups

/-- Where a block stands, for messages. -/
def location (b : Block) : String :=
  match presentText? b.file, b.line with
  | some file, some line => file ++ ":" ++ line.display
  | some file, none => file
  | none, _ => (presentText? b.name).getD "<block>"

end Block
end NamespaceManifest
