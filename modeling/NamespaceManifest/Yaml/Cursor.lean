/-!
# Places in a YAML text

A cursor is a place in a text together with the number of characters, lines and columns before it.  It
also knows the number of characters of the whole text, which bounds every search from there on.
Four classes of characters matter for the layout: breaks end a line, breaks and spaces and tabs
separate, and the end of the text counts as a separator too.
-/

namespace NamespaceManifest
namespace Yaml

/-- A character that ends a line. -/
def isBreak (c : Char) : Bool :=
  c == '\n' || c == '\r' || c == '\x85' || c == '\u2028' || c == '\u2029'

/-- A space, a tab or a break. -/
def isSeparator (c : Char) : Bool :=
  c == ' ' || c == '\t' || isBreak c

/-- The end of the text, or a separator. -/
def endsWord : Option Char → Bool
  | none => true
  | some c => isSeparator c

/-- A character with a meaning in flow collections. -/
def isFlowMark (c : Char) : Bool :=
  c == ',' || c == '[' || c == ']' || c == '\x7b' || c == '\x7d'

/-- A place in a text of a number of characters. -/
structure Cursor where
  rest : List Char
  size : Nat
  index : Nat := 0
  line : Nat := 0
  column : Nat := 0

namespace Cursor

/-- More steps than there are characters in the text. -/
def bound (k : Cursor) : Nat :=
  k.size + 1

/-- The next character. -/
def peek (k : Cursor) : Option Char :=
  k.rest.head?

/-- The character a number of places further on. -/
def peekAt (k : Cursor) (n : Nat) : Option Char :=
  (k.rest.drop n).head?

/-- Whether the next character belongs to a class. -/
def sees (k : Cursor) (p : Char → Bool) : Bool :=
  k.peek.any p

/-- One character further on. -/
def step (k : Cursor) : Cursor :=
  match k.rest with
  | [] => k
  | c :: s =>
      if isBreak c && !(c == '\r' && s.head? == some '\n') then
        { k with rest := s, index := k.index + 1, line := k.line + 1, column := 0 }
      else if c == '\uFEFF' then { k with rest := s, index := k.index + 1 }
      else { k with rest := s, index := k.index + 1, column := k.column + 1 }

/-- A number of characters further on. -/
def skip : Nat → Cursor → Cursor
  | 0, k => k
  | n + 1, k => skip n k.step

/-- The characters of a class that come next, and the place after them. -/
def takeWhile (k : Cursor) (p : Char → Bool) : List Char × Cursor :=
  let found := k.rest.takeWhile p
  (found, skip found.length k)

/-- The place after the characters of a class that come next. -/
def skipWhile (k : Cursor) (p : Char → Bool) : Cursor :=
  (k.takeWhile p).2

/-- The break that comes next, as it counts in a text, and the place after it.  All breaks count as a
line feed, except for the line and paragraph separators. -/
def takeBreak (k : Cursor) : List Char × Cursor :=
  match k.rest with
  | '\r' :: '\n' :: _ => (['\n'], skip 2 k)
  | c :: _ =>
      if c == '\u2028' || c == '\u2029' then ([c], k.step)
      else if isBreak c then (['\n'], k.step)
      else ([], k)
  | [] => ([], k)

/-- Whether a mark of three characters stands here, with a separator after it. -/
def seesMark (k : Cursor) (mark : List Char) : Bool :=
  mark.isPrefixOf k.rest && endsWord (k.peekAt 3)

/-- Whether a line that starts or ends a document begins here. -/
def seesDocumentMark (k : Cursor) : Bool :=
  k.seesMark ['-', '-', '-'] || k.seesMark ['.', '.', '.']

end Cursor
end Yaml
end NamespaceManifest
