import NamespaceManifest.Number.Reading
import NamespaceManifest.Yaml.Cursor
import NamespaceManifest.Yaml.Failure

/-!
# The text of scalars

A scalar is written in one of three ways.

* Plain, without quotes: it ends before a colon or a comment, and its lines are folded into one.
* Between quotes: apostrophes allow a doubled apostrophe, double quotes allow escapes; lines are folded
  as well.
* As a block of indented lines after a bar, which keeps the lines, or after a greater-than sign, which
  folds them.

Every function returns the text and the place after it, or fails when the text is not well formed.
-/

namespace NamespaceManifest
namespace Yaml

/-- What a fold puts between two lines: a space, or the breaks after the first one. -/
def foldBreaks (first breaks : List Char) : List Char :=
  if first != ['\n'] then first ++ breaks
  else if breaks.isEmpty then [' ']
  else breaks

namespace Plain

/-- The number of characters up to the next separator, or to what ends a plain scalar. -/
def wordLength (inFlow : Bool) : List Char → Nat
  | [] => 0
  | c :: s =>
      let colon := c == ':' && (endsWord s.head? || (inFlow && s.head?.any isFlowMark))
      if isSeparator c || colon || (inFlow && (c == '?' || isFlowMark c)) then 0
      else wordLength inFlow s + 1

/-- Further breaks and spaces after a break, up to a line that starts or ends a document. -/
def moreBreaks : Nat → List Char → Cursor → Option (List Char) × Cursor
  | 0, breaks, k => (some breaks, k)
  | fuel + 1, breaks, k =>
      if k.sees (· == ' ') then moreBreaks fuel breaks k.step
      else if k.sees isBreak then
        let (b, next) := k.takeBreak
        if next.seesDocumentMark then (none, next) else moreBreaks fuel (breaks ++ b) next
      else (some breaks, k)

/-- The space between two words of a plain scalar, the place after it, and whether a line ended. -/
def space (k : Cursor) : List Char × Cursor × Bool :=
  let (spaces, afterSpaces) := k.takeWhile (· == ' ')
  if afterSpaces.sees isBreak then
    let (first, next) := afterSpaces.takeBreak
    if next.seesDocumentMark then ([], next, true)
    else
      match moreBreaks next.bound [] next with
      | (some breaks, last) => (foldBreaks first breaks, last, true)
      | (none, last) => ([], last, true)
  else (spaces, afterSpaces, false)

/-- A plain scalar from here on, after text that was read already and the space that follows it, both
given last first; with it, the place after the scalar and whether the last thing read was a line
end. -/
def readFrom (inFlow : Bool) (indent : Int) :
    Nat → List Char → List Char → Bool → Cursor → List Char × Cursor × Bool
  | 0, done, _, ended, k => (done, k, ended)
  | fuel + 1, done, gap, ended, k =>
      let length := wordLength inFlow k.rest
      if k.sees (· == '#') || length == 0 then (done, k, ended)
      else
        let word := k.rest.take length
        let (next, last, ended) := space (Cursor.skip length k)
        let text := word.reverse ++ (gap ++ done)
        if next.isEmpty || last.sees (· == '#') || (!inFlow && (last.column : Int) < indent) then
          (text, last, ended)
        else readFrom inFlow indent fuel text next.reverse ended last

/-- The plain scalar that starts here. -/
def read (inFlow : Bool) (indent : Int) (k : Cursor) : List Char × Cursor × Bool :=
  let (text, last, ended) := readFrom inFlow indent k.bound [] [] false k
  (text.reverse, last, ended)

end Plain

namespace Quoted

/-- The escapes of one letter inside double quotes. -/
def letterEscapes : List (Char × Char) :=
  [('0', '\x00'), ('a', '\x07'), ('b', '\x08'), ('t', '\t'), ('\t', '\t'), ('n', '\n'),
   ('v', '\x0B'), ('f', '\x0C'), ('r', '\r'), ('e', '\x1B'), (' ', ' '), ('\x22', '\x22'),
   ('\\', '\\'), ('/', '/'), ('N', '\x85'), ('_', '\xA0'), ('L', '\u2028'), ('P', '\u2029')]

/-- The escapes by a code point, with the number of their digits. -/
def codeEscapes : List (Char × Nat) :=
  [('x', 2), ('u', 4), ('U', 8)]

/-- Breaks after a break inside quotes, with the blanks around them left out. -/
def moreBreaks : Nat → List Char → Cursor → Option (List Char × Cursor)
  | 0, _, _ => none
  | fuel + 1, breaks, k =>
      if k.seesDocumentMark then none
      else
        let next := k.skipWhile fun c => c == ' ' || c == '\t'
        if next.sees isBreak then
          let (b, last) := next.takeBreak
          moreBreaks fuel (breaks ++ b) last
        else some (breaks, next)

/-- The number of an escape by a code point, if all of its digits are there. -/
def codeOf? (length : Nat) (s : List Char) : Option Nat :=
  let digits := s.take length
  if digits.length == length && digits.all Number.isHexDigit then
    some (Number.ofDigits 16 Number.hexValue digits)
  else none

/-- The number of an escape of four digits that follows, with its backslash, if it is the second half of
a surrogate pair. -/
def lowHalf? : List Char → Option Nat
  | '\\' :: 'u' :: s =>
      (codeOf? 4 s).bind fun n => if 0xDC00 ≤ n && n ≤ 0xDFFF then some n else none
  | _ => none

/-- The character of an escape by a code point, after its letter.  Two halves of a surrogate pair that
follow each other are one character. -/
def readCode (length : Nat) (k : Cursor) : Except Failure (List Char × Cursor) :=
  match codeOf? length k.rest with
  | none => .error .malformed
  | some code =>
      let next := Cursor.skip length k
      if 0x110000 ≤ code then .error (.scalar (.notACharacter code))
      else if code.isValidChar then .ok ([Char.ofNat code], next)
      else
        match lowHalf? next.rest with
        | some low =>
            if code < 0xDC00 then
              .ok ([Char.ofNat (0x10000 + (code - 0xD800) * 0x400 + (low - 0xDC00))],
                Cursor.skip 6 next)
            else .error .malformed
        | none => .error .malformed

/-- What an escape stands for, after its backslash. -/
def readEscape (k : Cursor) : Except Failure (List Char × Cursor) :=
  match k.peek with
  | none => .error .malformed
  | some c =>
      match letterEscapes.lookup c, codeEscapes.lookup c with
      | some d, _ => .ok ([d], k.step)
      | none, some length => readCode length k.step
      | none, none =>
          if isBreak c then wellFormed (moreBreaks k.bound [] k.takeBreak.2)
          else .error .malformed

/-- Text without separators inside quotes, after text that was read already and is given last first. -/
def readWord (double : Bool) : Nat → List Char → Cursor → Except Failure (List Char × Cursor)
  | 0, _, _ => .error .malformed
  | fuel + 1, done, k =>
      match k.rest with
      | [] => .ok (done, k)
      | c :: s =>
          if isSeparator c then .ok (done, k)
          else if c == '\x27' && !double then
            if s.head? == some '\x27' then readWord double fuel (c :: done) (Cursor.skip 2 k)
            else .ok (done, k)
          else if c == '\x22' && double then .ok (done, k)
          else if c == '\\' && double then
            match readEscape k.step with
            | .ok (text, next) => readWord double fuel (text.reverse ++ done) next
            | .error f => .error f
          else readWord double fuel (c :: done) k.step

/-- Separators inside quotes. -/
def readSpace (k : Cursor) : Option (List Char × Cursor) :=
  let (spaces, next) := k.takeWhile fun c => c == ' ' || c == '\t'
  match next.peek with
  | none => none
  | some c =>
      if isBreak c then
        let (first, afterBreak) := next.takeBreak
        (moreBreaks afterBreak.bound [] afterBreak).map fun (breaks, last) =>
          (foldBreaks first breaks, last)
      else some (spaces, next)

/-- Words and separators up to the closing quote, after text that was read already; all is given last
first. -/
def readFrom (double : Bool) : Nat → List Char → Cursor → Except Failure (List Char × Cursor)
  | 0, _, _ => .error .malformed
  | fuel + 1, done, k =>
      match readWord double k.bound done k with
      | .error f => .error f
      | .ok (text, next) =>
          if next.sees (· == if double then '\x22' else '\x27') then .ok (text, next.step)
          else
            match readSpace next with
            | none => .error .malformed
            | some (gap, last) => readFrom double fuel (gap.reverse ++ text) last

/-- The quoted scalar that starts here with its opening quote. -/
def read (double : Bool) (k : Cursor) : Except Failure (List Char × Cursor) :=
  (readFrom double k.bound [] k.step).map fun (text, last) => (text.reverse, last)

end Quoted

namespace BlockText

/-- What happens to the breaks at the end of a block scalar. -/
inductive Chomping where
  | clip
  | strip
  | keep

/-- The marks after the bar or the greater-than sign: chomping and indentation, in either order. -/
def readMarks (k : Cursor) : Option (Chomping × Option Nat × Cursor) :=
  let chomping? (c : Option Char) : Option Chomping :=
    match c with
    | some '+' => some .keep
    | some '-' => some .strip
    | _ => none
  let indent? (c : Option Char) : Option Nat :=
    match c with
    | some d => if '0' ≤ d && d ≤ '9' then some (Number.hexValue d) else none
    | none => none
  let (chomping, indent, next) : Chomping × Option Nat × Cursor :=
    match chomping? k.peek, indent? k.peek with
    | some m, _ =>
        match indent? k.step.peek with
        | some n => (m, some n, Cursor.skip 2 k)
        | none => (m, none, k.step)
    | none, some n =>
        match chomping? k.step.peek with
        | some m => (m, some n, Cursor.skip 2 k)
        | none => (.clip, some n, k.step)
    | none, none => (.clip, none, k)
  if indent == some 0 then none
  else if next.peek.all fun c => c == ' ' || isBreak c then some (chomping, indent, next)
  else none

/-- The rest of the line with the marks: spaces, a comment, a break. -/
def skipHeader (k : Cursor) : Option Cursor :=
  let afterSpaces := k.skipWhile (· == ' ')
  let next := if afterSpaces.sees (· == '#') then afterSpaces.skipWhile (!isBreak ·) else afterSpaces
  if next.peek.all isBreak then some next.takeBreak.2 else none

/-- The breaks before the first line, and the greatest indentation among the blank lines. -/
def leadingBreaks : Nat → List Char → Nat → Cursor → List Char × Nat × Cursor
  | 0, breaks, most, k => (breaks, most, k)
  | fuel + 1, breaks, most, k =>
      if k.sees (· == ' ') then leadingBreaks fuel breaks (max most k.step.column) k.step
      else if k.sees isBreak then
        let (b, next) := k.takeBreak
        leadingBreaks fuel (breaks ++ b) most next
      else (breaks, most, k)

/-- Spaces up to an indentation. -/
def skipIndent (indent : Nat) : Nat → Cursor → Cursor
  | 0, k => k
  | fuel + 1, k =>
      if k.column < indent && k.sees (· == ' ') then skipIndent indent fuel k.step else k

/-- The breaks between two lines, up to the indentation of the next one. -/
def breaksBetween (indent : Nat) : Nat → List Char → Cursor → List Char × Cursor
  | 0, breaks, k => (breaks, k)
  | fuel + 1, breaks, k =>
      let here := skipIndent indent k.bound k
      if here.sees isBreak then
        let (b, next) := here.takeBreak
        breaksBetween indent fuel (breaks ++ b) next
      else (breaks, here)

/-- A space or a tab. -/
def isIndentChar (c : Char) : Bool := c == ' ' || c == '\t'

/-- The lines of the scalar, last character first, after text that was read already and the breaks that
follow it; with them, the last break of a line and the breaks after it. -/
def readLines (folded : Bool) (indent : Nat) :
    Nat → List Char → List Char → List Char → Cursor →
    List Char × List Char × List Char × Cursor
  | 0, done, last, breaks, k => (done, last, breaks, k)
  | fuel + 1, done, last, breaks, k =>
      if k.column == indent && k.peek.isSome then
        let flush := !k.sees isIndentChar
        let (line, afterLine) := k.takeWhile (!isBreak ·)
        let (lineBreak, afterBreak) := afterLine.takeBreak
        let (more, next) := breaksBetween indent afterBreak.bound [] afterBreak
        let text := line.reverse ++ (breaks.reverse ++ done)
        if next.column == indent && next.peek.isSome then
          if folded && lineBreak == ['\n'] && flush && !next.sees isIndentChar then
            readLines folded indent fuel (if more.isEmpty then ' ' :: text else text) lineBreak more
              next
          else readLines folded indent fuel (lineBreak.reverse ++ text) lineBreak more next
        else (text, lineBreak, more, next)
      else (done, last, breaks, k)

/-- The block scalar that starts here with its bar or greater-than sign, inside a collection of a
given indentation. -/
def read (folded : Bool) (outer : Int) (k : Cursor) : Option (List Char × Cursor) :=
  match readMarks k.step with
  | none => none
  | some (chomping, increment, afterMarks) =>
      match skipHeader afterMarks with
      | none => none
      | some start =>
          let least : Nat := (max 1 (outer + 1)).toNat
          let (breaks, indent, first) : List Char × Nat × Cursor :=
            match increment with
            | some n =>
                let indent := least + n - 1
                let (breaks, next) := breaksBetween indent start.bound [] start
                (breaks, indent, next)
            | none =>
                let (breaks, most, next) := leadingBreaks start.bound [] 0 start
                (breaks, max least most, next)
          let (text, last, trailing, finish) :=
            readLines folded indent first.bound [] [] breaks first
          some
            (match chomping with
              | .strip => text.reverse
              | .clip => text.reverse ++ last
              | .keep => text.reverse ++ last ++ trailing,
             finish)

end BlockText
end Yaml
end NamespaceManifest
