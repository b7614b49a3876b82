import NamespaceManifest.Number.Reading
import NamespaceManifest.Text.Blank

/-!
# Tables of code points

A large table of code points is written as lines of words, all numbers in hexadecimal.  A word names a
code point, or the first and the last of a run with a hyphen between them.  After an equals sign it can
give the numbers that the table holds for them, with plus signs between these.
-/

namespace NamespaceManifest
namespace Text

/-- A row of a table: a run of code points and what the table holds for them. -/
structure TableRow where
  first : Nat
  last : Nat
  image : List Nat
  deriving Repr, BEq, DecidableEq

/-- A table, by increasing code points. -/
abbrev Table := List TableRow

namespace Table

/-- A word cut at every occurrence of a character. -/
def cutAt (mark : Char) : List Char → List (List Char)
  | [] => [[]]
  | c :: s => if c = mark then [] :: cutAt mark s else consHead c (cutAt mark s)

/-- A number in hexadecimal. -/
def number (s : List Char) : Nat :=
  Number.ofDigits 16 Number.hexValue s

/-- The row of a run and the numbers that are held for it. -/
def row (run : List Char) (image : List Nat) : TableRow :=
  match (cutAt '-' run).map number with
  | [first, last] => ⟨first, last, image⟩
  | bounds => ⟨bounds.headD 0, bounds.headD 0, image⟩

/-- The row that a word denotes. -/
def readWord (s : List Char) : TableRow :=
  match cutAt '=' s with
  | [run, image] => row run ((cutAt '+' image).map number)
  | _ => row s []

/-- The table that lines of words denote. -/
def read (lines : List String) : Table :=
  lines.flatMap fun line => (wordsOf line.toList).map readWord

/-- The row of a code point. -/
def find? (n : Nat) : Table → Option TableRow
  | [] => none
  | r :: rows => if n < r.first then none else if n ≤ r.last then some r else find? n rows

end Table
end Text
end NamespaceManifest
