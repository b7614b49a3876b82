import NamespaceManifest.Text.Composition
import NamespaceManifest.Text.Identifier
import NamespaceManifest.Text.Lines
import NamespaceManifest.Text.Printable

/-!
# Tokens of code fragments

A fragment of code is a sequence of tokens: names, texts between quotes, brackets, commas and line
ends.  Blanks and comments between them are left out.  Inside brackets line ends do not count; outside
of them a line must not be indented.

Whatever else the language of fragments has is one kind of token here, since no expression of this
library holds it.  The tokens end with the text, with a bracket that is still open, or with a fault.
-/

namespace NamespaceManifest
namespace Fragment

/-- Why a text is no fragment. -/
inductive Fault where
  | invalid
  | commaMissing
  | indented
  | neverClosed (bracket : Char)
  | unmatched (bracket : Char)
  | mismatched (closing opening : Char) (line : Option Nat)
  | unterminated (line : Nat)
  | badCharacter (c : Char)
  | badContinuation
  | tooDeep
  deriving Repr, BEq, DecidableEq

namespace Fault

/-- The number of a character as messages show it. -/
def codeText (c : Char) : String :=
  let digits := (Nat.toDigits 16 c.toNat).map Char.toUpper
  "U+" ++ String.ofList (List.replicate (4 - digits.length) '0' ++ digits)

/-- A fault in words, without its place. -/
def message : Fault → String
  | invalid => "invalid syntax"
  | commaMissing => "invalid syntax. Perhaps you forgot a comma?"
  | indented => "unexpected indent"
  | neverClosed bracket => "'" ++ bracket.toString ++ "' was never closed"
  | unmatched bracket => "unmatched '" ++ bracket.toString ++ "'"
  | mismatched closing opening line =>
      "closing parenthesis '" ++ closing.toString ++ "' does not match opening parenthesis '"
        ++ opening.toString ++ "'"
        ++ match line with
          | some n => " on line " ++ toString n
          | none => ""
  | unterminated line =>
      "unterminated string literal (detected at line " ++ toString line ++ ")"
  | badCharacter c =>
      if Text.isPrintable c then "invalid character '" ++ c.toString ++ "' (" ++ codeText c ++ ")"
      else "invalid non-printable character " ++ codeText c
  | badContinuation => "unexpected character after line continuation character"
  | tooDeep => "too many nested parentheses"

end Fault

/-- A token. -/
inductive Token where
  | name (s : String)
  | text (s : String)
  | opening
  | closing
  | comma
  | newline
  | indent
  | other
  deriving Repr, BEq, DecidableEq

/-- A token and the line on which it starts. -/
abbrev PlacedToken := Token × Nat

/-- How the tokens of a text end. -/
inductive Ending where
  | finished
  | unclosed (bracket : Char) (line : Nat)
  | fault (f : Fault) (line : Nat)
  deriving Repr, BEq, DecidableEq

namespace Token

/-- A space, a tab or a form feed. -/
def isSpace (c : Char) : Bool :=
  c == ' ' || c == '\t' || c == '\x0C'

/-- A letter or digit without accents, an underscore, or any character beyond these alphabets. -/
def isNameChar (c : Char) : Bool :=
  c == '_' || c.isAlphanum || 128 ≤ c.toNat

/-- The bracket that closes an opening one. -/
def closingOf (c : Char) : Char :=
  if c == '[' then ']' else if c == '(' then ')' else '\x7d'

/-- An opening bracket. -/
def isOpening (c : Char) : Bool :=
  c == '[' || c == '(' || c == '\x7b'

/-- A closing bracket. -/
def isClosing (c : Char) : Bool :=
  c == ']' || c == ')' || c == '\x7d'

/-- The greatest number of brackets inside each other. -/
def depthLimit : Nat := 200

/-- The letters that may stand before a text without changing what it denotes. -/
def plainMarks : List String := ["r", "R", "u", "U"]

/-- The rest of a text after the column to which its first line is indented. -/
def indentation : Nat → List Char → Nat × List Char
  | column, c :: s =>
      if c == ' ' then indentation (column + 1) s
      else if c == '\t' then indentation ((column / 8 + 1) * 8) s
      else if c == '\x0C' then indentation 0 s
      else (column, c :: s)
  | column, [] => (column, [])

/-- The open brackets with the lines on which they stand, innermost first. -/
abbrev Brackets := List (Char × Nat)

/-- How the tokens end at the end of the text. -/
def endingOf : Brackets → Ending
  | [] => .finished
  | (c, line) :: _ => .unclosed c line

/-- The tokens of a text.  `fresh` says whether a line starts here; lines are counted from one. -/
def scan : Nat → Bool → Nat → Brackets → List Char → List PlacedToken × Ending
  | 0, _, _, brackets, _ => ([], endingOf brackets)
  | fuel + 1, fresh, line, brackets, input =>
      let continued (rest : List Char) := scan fuel false line brackets rest
      let emit (t : Token) (next : List PlacedToken × Ending) : List PlacedToken × Ending :=
        ((t, line) :: next.1, next.2)
      let stop (f : Fault) : List PlacedToken × Ending := ([], .fault f line)
      if fresh && brackets.isEmpty then
        let (column, rest) := indentation 0 input
        let blank := rest.head?.any fun c => c == '\n' || c == '#'
        if 0 < column && !blank then emit .indent (continued rest)
        else if rest.head? == some '\n' then scan fuel true (line + 1) [] (rest.drop 1)
        else if rest.head? == some '#' then
          scan fuel true line [] (rest.dropWhile (· != '\n'))
        else continued rest
      else
        match input with
        | [] => ([], endingOf brackets)
        | c :: s =>
            if isSpace c then continued s
            else if c == '#' then continued (s.dropWhile (· != '\n'))
            else if c == '\n' then
              let next := scan fuel true (line + 1) brackets s
              if brackets.isEmpty then emit .newline next else next
            else if c == '\\' then
              match s with
              | '\n' :: rest => scan fuel false (line + 1) brackets rest
              | _ => stop .badContinuation
            else if isNameChar c && !c.isDigit then
              let raw := (c :: s).takeWhile isNameChar
              let rest := (c :: s).drop raw.length
              let word := String.ofList raw
              if plainMarks.contains word && (rest.head? == some '\x27' || rest.head? == some '\x22') then
                continued rest
              else
                match Text.identifierFault? raw with
                | some bad => stop (.badCharacter bad)
                | none => emit (.name word) (continued rest)
            else if c == '\x27' || c == '\x22' then
              let body := s.takeWhile fun d => d != c && d != '\n'
              match s.drop body.length with
              | d :: rest =>
                  if d != c then stop (.unterminated line)
                  else if body.contains '\\' then emit .other (continued rest)
                  else emit (.text (String.ofList body)) (continued rest)
              | [] => stop (.unterminated line)
            else if isOpening c then
              if depthLimit ≤ brackets.length then stop .tooDeep
              else
                emit (if c == '[' then .opening else .other)
                  (scan fuel false line ((c, line) :: brackets) s)
            else if isClosing c then
              match brackets with
              | [] => stop (.unmatched c)
              | (d, start) :: outer =>
                  if closingOf d == c then
                    emit (if c == ']' then .closing else .other) (scan fuel false line outer s)
                  else stop (.mismatched c d (if start == line then none else some start))
            else if c == ',' then emit .comma (continued s)
            else if Text.isPrintable c then emit .other (continued s)
            else stop (.badCharacter c)

/-- The tokens of a text. -/
def ofText (s : List Char) : List PlacedToken × Ending :=
  scan (2 * s.length + 2) true 1 [] s

end Token
end Fragment
end NamespaceManifest
