/-!
# Blank characters, trimming and words

A blank character separates words.  Trimming removes blanks at both ends of a text, and the words
of a text are its longest runs of characters that are not blank.

The definitions work on lists of characters; the versions on strings stand at the end.
-/

namespace NamespaceManifest
namespace Text

/-- A character that separates words. -/
def isBlank (c : Char) : Bool :=
  let n := c.toNat
  (0x09 ≤ n && n ≤ 0x0D) || (0x1C ≤ n && n ≤ 0x20) || n == 0x85 || n == 0xA0 || n == 0x1680
    || (0x2000 ≤ n && n ≤ 0x200A) || n == 0x2028 || n == 0x2029 || n == 0x202F || n == 0x205F
    || n == 0x3000

/-- A text without the characters of a class at its end. -/
def dropEndWhile (p : Char → Bool) (s : List Char) : List Char :=
  (s.reverse.dropWhile p).reverse

/-- A text without the blanks at its two ends. -/
def trimChars (s : List Char) : List Char :=
  dropEndWhile isBlank (s.dropWhile isBlank)

/-- A character put in front of the first piece of a text cut into pieces. -/
def consHead (c : Char) : List (List Char) → List (List Char)
  | [] => [[c]]
  | piece :: pieces => (c :: piece) :: pieces

/-- The words of a text, in order. -/
def wordsOf : List Char → List (List Char)
  | [] => []
  | [c] => if isBlank c then [] else [[c]]
  | c :: d :: s =>
      if isBlank c then wordsOf (d :: s)
      else if isBlank d then [c] :: wordsOf (d :: s)
      else consHead c (wordsOf (d :: s))

/-- A string without the blanks at its two ends. -/
def trim (s : String) : String :=
  String.ofList (trimChars s.toList)

/-- A string without the blanks at its end. -/
def trimEnd (s : String) : String :=
  String.ofList (dropEndWhile isBlank s.toList)

/-- A string of blanks only, or the empty one. -/
def isBlankText (s : String) : Bool :=
  s.toList.all isBlank

/-- The words of a string, in order. -/
def words (s : String) : List String :=
  (wordsOf s.toList).map String.ofList

end Text
end NamespaceManifest
