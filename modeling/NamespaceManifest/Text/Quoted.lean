import NamespaceManifest.Text.Blank

/-!
# Quoted literals

Writing a text as a quoted literal takes two steps.  First a backslash, a line feed, a tab and a
carriage return are each replaced by a backslash and a letter.  Then every occurrence of the quote
gets a backslash in front, and the quote is put at both ends.

The quote may be any text; the directive lines use a backtick or a double quote.
-/

namespace NamespaceManifest
namespace Text
namespace Quoted

/-- A character as it stands in a literal, whatever its quote is. -/
def escapeChar (c : Char) : List Char :=
  if c = '\\' then ['\\', '\\']
  else if c = '\n' then ['\\', 'n']
  else if c = '\t' then ['\\', 't']
  else if c = '\r' then ['\\', 'r']
  else [c]

/-- A text whose every character is written as in a literal. -/
def escape (s : List Char) : List Char :=
  s.flatMap escapeChar

/-- The occurrences of a pattern that is not empty, read from the left without overlap and marked
by a backslash, after a number of characters that were copied already. -/
def markAfter (pattern : List Char) : Nat → List Char → List Char
  | _, [] => []
  | n + 1, c :: s => c :: markAfter pattern n s
  | 0, c :: s =>
      if pattern.isPrefixOf (c :: s) then '\\' :: c :: markAfter pattern (pattern.length - 1) s
      else c :: markAfter pattern 0 s

/-- Every occurrence of a pattern marked by a backslash.  The empty pattern occurs before every
character and at the end. -/
def mark (pattern s : List Char) : List Char :=
  if pattern.isEmpty then s.flatMap (fun c => ['\\', c]) ++ ['\\']
  else markAfter pattern 0 s

/-- A text written as a literal in a quote. -/
def encodeChars (quote s : List Char) : List Char :=
  quote ++ mark quote (escape s) ++ quote

/-- A string written as a literal in a quote. -/
def encode (s quote : String) : String :=
  String.ofList (encodeChars quote.toList s.toList)

end Quoted
end Text
end NamespaceManifest
