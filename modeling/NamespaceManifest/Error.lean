import NamespaceManifest.Directive.Kind
import NamespaceManifest.Evaluation.Basic
import NamespaceManifest.File.Tree
import NamespaceManifest.Number.Integer
import NamespaceManifest.Text.Literal

/-!
# Errors

Everything that can end a piece of work, by cause, with one wording for each cause.  Problems with a
single tag are issues and not errors.
-/

namespace NamespaceManifest

/-- How a block document misses its structure; entries are counted from zero. -/
inductive DocumentError where
  | unreadable (file : String)
  | notAList
  | entryNotMapping (index : Nat)
  | tagNotSingle (index : Nat)
  | tagsNotListing (index : Nat)
  | objectNotMapping (index : Nat)
  | unknownKind (index : Nat) (kind : String)
  | fieldMissing (index : Nat) (kind field : String)
  deriving Repr, BEq, DecidableEq

/-- The kinds of documented objects as block documents name them. -/
def objectKindNames : List String :=
  ["plain", "formal_class", "formal_generic", "formal_method", "convention_method", "record_class"]

/-- What is said of a text that is no well-formed document. -/
def malformedText (file : String) : String :=
  "Failed to parse " ++ file ++ ": <yaml>"

namespace DocumentError

/-- The start of a message about an entry. -/
def entry (index : Nat) : String :=
  "block #" ++ toString index

/-- A document error in words. -/
def message : DocumentError → String
  | unreadable file => malformedText file
  | notAList => "block document must be a list or contain a 'blocks' list"
  | entryNotMapping index => entry index ++ " must be a mapping"
  | tagNotSingle index => entry index ++ ": each tag must be a single-key mapping"
  | tagsNotListing index => entry index ++ ": 'tags' must be a list or mapping"
  | objectNotMapping index => entry index ++ ": 'object' must be a mapping"
  | unknownKind index kind =>
      entry index ++ ": unknown object kind '" ++ kind ++ "' (expected one of "
        ++ ", ".intercalate objectKindNames ++ ")"
  | fieldMissing index kind field =>
      entry index ++ ": object of kind '" ++ kind ++ "' requires '" ++ field ++ "'"

end DocumentError

/-- What is wrong with a configuration. -/
inductive ConfigError where
  | unreadable (file : String)
  | notAMapping
  | manifestNotAName
  | markerNotAComment
  deriving Repr, BEq, DecidableEq

/-- A configuration error in words. -/
def ConfigError.message : ConfigError → String
  | unreadable file => malformedText file
  | notAMapping => ".nsgen.yml must contain a mapping at the root"
  | manifestNotAName => "manifest must be a file name relative to the module root"
  | markerNotAComment => "marker must be a comment line starting with '#'"

/-- What keeps a well-formed scalar from having a value, or a value from having a text. -/
inductive ScalarError where
  | calendar (e : CalendarError)
  | noDigits (base : Nat)
  | tooManyDigits (count : Nat)
  | unwritable
  | tooLarge
  | notACharacter (code : Nat)
  deriving Repr, BEq, DecidableEq

namespace ScalarError

/-- What is said of an integer with too many digits, with a remark on how many it has. -/
def digitsText (remark : String) : String :=
  "Exceeds the limit (" ++ toString Number.digitLimit ++ " digits) for integer string conversion"
    ++ remark ++ "; use sys.set_int_max_str_digits() to increase the limit"

/-- Whether a number is too large for the unit in which characters are counted. -/
def exceedsWord (code : Nat) : Bool :=
  Nat.pow 2 31 ≤ code

/-- A scalar error in words. -/
def message : ScalarError → String
  | calendar e => e.message
  | noDigits base =>
      "invalid literal for int() with base " ++ toString base ++ ": " ++ Text.Literal.quote ""
  | tooManyDigits count => digitsText (": value has " ++ toString count ++ " digits")
  | unwritable => digitsText ""
  | tooLarge => "int too large to convert to float"
  | notACharacter code =>
      if exceedsWord code then "Python int too large to convert to C int"
      else "chr() arg not in range(0x110000)"

end ScalarError

/-- What ends a piece of work. -/
inductive Error where
  | document (e : DocumentError)
  | evaluation (e : EvaluationError)
  | conflict (path : Path)
  | invalidName (name : String)
  | config (e : ConfigError)
  | rootMissing (path : Path)
  | documentMissing (path : Path)
  | undecodable (path : Path)
  | fileSystem (path : Path) (fault : FileFault)
  | logFileBlank
  | scalar (e : ScalarError)
  | moduleUnnamed
  | moduleRelative (name : String)
  | unregistered (key : String)
  | fullPassMissing
  | homeUnknown
  deriving Repr, BEq, DecidableEq

namespace Error

/-- An error in words. -/
def message : Error → String
  | document e => e.message
  | evaluation e => e.message
  | conflict path =>
      "Refusing to overwrite " ++ path.display ++ ": it was not generated by nsgen. "
        ++ "Delete it to let nsgen manage it."
  | invalidName name =>
      "Invalid manifest file name '" ++ name ++ "': use letters, digits, '.', '_' or '-'"
  | config e => e.message
  | rootMissing path => "Module root not found: " ++ path.display
  | documentMissing path => "Block document not found: " ++ path.display
  | undecodable path => path.display ++ " is not UTF-8 text"
  | fileSystem path fault => fault.message ++ ": " ++ Text.Literal.quote path.display
  | logFileBlank => "'list' object has no attribute 'parent'"
  | scalar e => e.message
  | moduleUnnamed => "Empty module name"
  | moduleRelative name =>
      "the 'package' argument is required to perform a relative import for "
        ++ Text.Literal.quote name
  | unregistered key => "nothing is registered for '" ++ key ++ "'"
  | fullPassMissing => "output() requires a completed full pass"
  | homeUnknown => "Could not determine home directory."

/-- A result of the file system at a path. -/
def atPath {α : Type} (p : Path) : Except FileFault α → Except Error α
  | .ok a => .ok a
  | .error fault => .error (.fileSystem p fault)

end Error
end NamespaceManifest
