import NamespaceManifest.Text.Alphanumeric
import NamespaceManifest.Text.Lines
import NamespaceManifest.Text.Quoted

/-!
# Names inside directives

A name stands bare in a directive when it is a syntactic name of the module language, or when it
comes with quotes already.  Every other name is written as a quoted literal.

A syntactic name starts with a letter, or with a dot that no digit follows, and goes on with word
characters and dots.  Reserved words, the dots `...` and the numbered dots `..1` are no syntactic
names.  All these rules leave one line feed at the very end of a name out of account.
-/

namespace NamespaceManifest
namespace Directive
namespace Name

/-- Words with a meaning of their own in the module language. -/
def reservedWords : List String :=
  ["if", "else", "repeat", "while", "function", "for", "next", "break", "in", "TRUE", "FALSE",
   "NULL", "Inf", "NaN", "NA", "NA_integer_", "NA_real_", "NA_character_", "NA_complex_"]

/-- The backtick. -/
def backtick : Char := '\x60'

/-- A character that opens and closes a literal. -/
def isQuote (c : Char) : Bool :=
  c == backtick || c == '\x22' || c == '\x27'

/-- Two dots followed by a third one or by digits. -/
def isDots : List Char → Bool
  | '.' :: '.' :: ['.'] => true
  | '.' :: '.' :: c :: s => (c :: s).all Text.isAsciiDigit
  | _ => false

/-- A character that can continue a syntactic name. -/
def isNameChar (c : Char) : Bool :=
  c == '.' || Text.isWordChar c

/-- Whether a text begins with a digit. -/
def startsWithDigit : List Char → Bool
  | [] => false
  | c :: _ => Text.isAsciiDigit c

/-- A letter, or a dot that no digit follows, and then word characters and dots. -/
def isIdentifier : List Char → Bool
  | [] => false
  | c :: s => (Text.isWordStart c || (c == '.' && !startsWithDigit s)) && s.all isNameChar

/-- A text of at least two characters that begins and ends with the same quote. -/
def isEnclosed : List Char → Bool
  | c :: s => isQuote c && s.getLast? == some c
  | [] => false

/-- Whether a name can stand bare in a directive. -/
def isSyntactic (name : String) : Bool :=
  !reservedWords.contains name && !Text.holdsUpToNewline isDots name.toList
    && Text.holdsUpToNewline isIdentifier name.toList

/-- Whether a name comes with quotes already. -/
def hasQuotes (name : String) : Bool :=
  Text.holdsUpToNewline isEnclosed name.toList

/-- A name as it stands in a directive, in a given quote if it needs one. -/
def quoteWith (quote name : String) : String :=
  if hasQuotes name || isSyntactic name then name else Text.Quoted.encode name quote

/-- A name as it stands in a directive, between backticks if it needs quotes. -/
def autoBacktick (name : String) : String :=
  quoteWith "`" name

/-- A name as it stands in a directive, between double quotes if it needs quotes. -/
def autoQuote (name : String) : String :=
  quoteWith "\"" name

end Name
end Directive
end NamespaceManifest
