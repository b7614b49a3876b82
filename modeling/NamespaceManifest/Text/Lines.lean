import NamespaceManifest.Text.Blank

/-!
# Lines of a text

A line break is one of eleven characters, or a carriage return followed by a line feed.  Cutting a
text into lines drops the breaks; a break at the very end opens no further line.

Text files are read with their newlines folded: a carriage return, alone or before a line feed,
becomes a line feed.
-/

namespace NamespaceManifest
namespace Text

/-- A character that ends a line. -/
def isLineBreak (c : Char) : Bool :=
  let n := c.toNat
  (0x0A ≤ n && n ≤ 0x0D) || (0x1C ≤ n && n ≤ 0x1E) || n == 0x85 || n == 0x2028 || n == 0x2029

/-- The lines of a text, without their breaks. -/
def linesOf : List Char → List (List Char)
  | [] => []
  | '\r' :: '\n' :: s => [] :: linesOf s
  | c :: s => if isLineBreak c then [] :: linesOf s else consHead c (linesOf s)

/-- A text with every carriage return, alone or before a line feed, read as a line feed. -/
def foldNewlines : List Char → List Char
  | [] => []
  | '\r' :: '\n' :: s => '\n' :: foldNewlines s
  | '\r' :: s => '\n' :: foldNewlines s
  | c :: s => c :: foldNewlines s

/-- The lines of a string, without their breaks. -/
def lines (s : String) : List String :=
  (linesOf s.toList).map String.ofList

/-- A text that has no line break. -/
def isSingleLine (s : String) : Bool :=
  !s.toList.any isLineBreak

/-- The lines that a list of entries occupies once it is written, one entry after the other. -/
def physicalLines (entries : List String) : List String :=
  lines ("\n".intercalate entries)

/-- A property of a whole text, or of a text up to one line feed at its very end. -/
def holdsUpToNewline (p : List Char → Bool) (s : List Char) : Bool :=
  p s || (s.getLast? == some '\n' && p s.dropLast)

end Text
end NamespaceManifest
