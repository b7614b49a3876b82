import NamespaceManifest.Text.Blank

/-!
# Tag values

The value of a tag in a documentation block: a list of words, a fragment of code kept as it was
written, or plain text.
-/

namespace NamespaceManifest

/-- The value of a tag. -/
inductive TagValue where
  | words (items : List String)
  | code (source : String)
  | text (s : String)
  deriving Repr, BEq, DecidableEq

namespace TagValue

/-- The words of a value: plain text is cut at blanks, and a code fragment is one word. -/
def toWords : TagValue → List String
  | words items => items
  | code source => [source]
  | text s => Text.words s

/-- The value as one text, the words joined by single spaces. -/
def toText : TagValue → String
  | words items => " ".intercalate items
  | code source => source
  | text s => s

end TagValue
end NamespaceManifest
