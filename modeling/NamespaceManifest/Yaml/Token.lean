import NamespaceManifest.Yaml.ScalarText

/-!
# Tokens of a YAML text

The layout of a text is made explicit in a sequence of tokens: indentation opens and closes block
collections, and the key of an entry is marked although only the colon after it shows that it is one.

For the latter, every token that could be a key is remembered, one for each level of flow collections.
When a colon follows on the same line, and not too far away, the mark is put in front of that token.
-/

namespace NamespaceManifest
namespace Yaml

/-- A token. -/
inductive Token where
  | directive
  | documentStart
  | documentEnd
  | blockSequenceStart
  | blockMappingStart
  | blockEnd
  | flowSequenceStart
  | flowSequenceEnd
  | flowMappingStart
  | flowMappingEnd
  | blockEntry
  | flowEntry
  | key
  | value
  | scalar (text : String) (plain : Bool)
  deriving Repr, BEq, DecidableEq

/-- A token that could be the key of an entry: its number and its place.  It is required when nothing
else can stand at its indentation. -/
structure KeyCandidate where
  number : Nat
  required : Bool
  index : Nat
  line : Nat
  column : Nat

/-- How far a text has been read: the tokens so far, last first, with their number, the indentation of
the open block collections, the number of open flow collections, and the candidates for keys by that
number. -/
structure Scan where
  cursor : Cursor
  tokens : List Token := []
  count : Nat := 0
  indent : Int := -1
  outer : List Int := []
  flow : Nat := 0
  keyAllowed : Bool := true
  candidates : List (Nat × KeyCandidate) := []

namespace Scan

/-- Whether a flow collection is open. -/
def inFlow (s : Scan) : Bool := s.flow != 0

/-- One more token. -/
def emit (s : Scan) (t : Token) : Scan :=
  { s with tokens := t :: s.tokens, count := s.count + 1 }

/-- The same with the cursor some characters further on. -/
def forward (s : Scan) (n : Nat) : Scan :=
  { s with cursor := Cursor.skip n s.cursor }

/-- Spaces, comments and line ends left behind. -/
def skipToToken : Nat → Scan → Scan
  | 0, s => s
  | fuel + 1, s =>
      let afterSpaces := s.cursor.skipWhile (· == ' ')
      let next :=
        if afterSpaces.sees (· == '#') then afterSpaces.skipWhile (!isBreak ·) else afterSpaces
      if next.sees isBreak then
        skipToToken fuel
          { s with cursor := next.takeBreak.2, keyAllowed := s.keyAllowed || !s.inFlow }
      else { s with cursor := next }

/-- Whether a candidate can no longer be a key here. -/
def isStale (s : Scan) (c : KeyCandidate) : Bool :=
  c.line != s.cursor.line || 1024 < s.cursor.index - c.index

/-- The candidates that can still be keys; a required one must not be lost. -/
def dropStale (s : Scan) : Option Scan :=
  if s.candidates.any fun entry => s.isStale entry.2 && entry.2.required then none
  else some { s with candidates := s.candidates.filter fun entry => !s.isStale entry.2 }

/-- The candidate of the current level given up; a required one must not be lost. -/
def dropCandidate (s : Scan) : Option Scan :=
  match s.candidates.lookup s.flow with
  | some c =>
      if c.required then none
      else some { s with candidates := s.candidates.filter fun entry => entry.1 != s.flow }
  | none => some s

/-- The next token remembered as a candidate, where keys are allowed. -/
def remember (s : Scan) : Option Scan :=
  if s.keyAllowed then
    match s.dropCandidate with
    | none => none
    | some s =>
        let c : KeyCandidate :=
          { number := s.count
            required := !s.inFlow && s.indent == (s.cursor.column : Int)
            index := s.cursor.index
            line := s.cursor.line
            column := s.cursor.column }
        some { s with candidates := (s.flow, c) :: s.candidates }
  else some s

/-- The block collections that a column lies outside of closed. -/
def closeTo (column : Int) : Nat → Scan → Scan
  | 0, s => s
  | fuel + 1, s =>
      if !s.inFlow && column < s.indent then
        closeTo column fuel
          { s.emit .blockEnd with indent := s.outer.headD (-1), outer := s.outer.drop 1 }
      else s

/-- The block collections that a column lies outside of closed. -/
def unwind (s : Scan) (column : Int) : Scan :=
  closeTo column (s.outer.length + 1) s

/-- A deeper indentation, if a column has one. -/
def indentTo? (s : Scan) (column : Nat) : Option Scan :=
  if s.indent < (column : Int) then
    some { s with indent := column, outer := s.indent :: s.outer }
  else none

/-- A token that opens a block collection at the current column, if it is a deeper one. -/
def openBlock (s : Scan) (t : Token) : Scan :=
  match s.indentTo? s.cursor.column with
  | some deeper => deeper.emit t
  | none => s

/-- A token put in front of the token of a number. -/
def insertAt (s : Scan) (number : Nat) (t : Token) : Scan :=
  let later := s.count - number
  { s with
    tokens := s.tokens.take later ++ t :: s.tokens.drop later
    count := s.count + 1 }

/-- The letters of the name of a directive. -/
def isDirectiveChar (c : Char) : Bool :=
  ('0' ≤ c && c ≤ '9') || ('A' ≤ c && c ≤ 'Z') || ('a' ≤ c && c ≤ 'z') || c == '-' || c == '_'

/-- Whether the version that a version directive names can be read: its first number is one. -/
def isVersion (s : List Char) : Bool :=
  let text := s.dropWhile (· == ' ')
  let major := text.takeWhile fun c => '0' ≤ c && c ≤ '9'
  match text.drop major.length with
  | '.' :: more =>
      let minor := more.takeWhile fun c => '0' ≤ c && c ≤ '9'
      let rest := (more.drop minor.length).dropWhile (· == ' ')
      Number.ofDecimal major == 1 && !minor.isEmpty && (rest.isEmpty || rest.head? == some '#')
  | _ => false

/-- A directive: a line that starts with a percent sign. -/
def fetchDirective (s : Scan) : Option Scan :=
  match (s.unwind (-1)).dropCandidate with
  | none => none
  | some s =>
      let (line, next) := s.cursor.takeWhile (!isBreak ·)
      let name := (line.drop 1).takeWhile isDirectiveChar
      let arguments := line.drop (name.length + 1)
      if name.isEmpty || !(arguments.head?.all (· == ' ')) then none
      else if name == "YAML".toList && !isVersion arguments then none
      else some { s.emit .directive with cursor := next, keyAllowed := false }

/-- A line that starts or ends a document. -/
def fetchDocumentMark (s : Scan) (t : Token) : Option Scan :=
  (s.unwind (-1)).dropCandidate.map fun s =>
    { (s.emit t).forward 3 with keyAllowed := false }

/-- The start of a flow collection. -/
def fetchFlowStart (s : Scan) (t : Token) : Option Scan :=
  s.remember.map fun s =>
    { (s.emit t).forward 1 with flow := s.flow + 1, keyAllowed := true }

/-- The end of a flow collection. -/
def fetchFlowEnd (s : Scan) (t : Token) : Option Scan :=
  if s.inFlow then
    s.dropCandidate.map fun s =>
      { (s.emit t).forward 1 with flow := s.flow - 1, keyAllowed := false }
  else none

/-- The comma of a flow collection. -/
def fetchFlowEntry (s : Scan) : Option Scan :=
  s.dropCandidate.map fun s => { (s.emit .flowEntry).forward 1 with keyAllowed := true }

/-- The hyphen of a sequence entry. -/
def fetchBlockEntry (s : Scan) : Option Scan :=
  if !s.inFlow && !s.keyAllowed then none
  else
    let opened := if s.inFlow then s else s.openBlock .blockSequenceStart
    opened.dropCandidate.map fun s => { (s.emit .blockEntry).forward 1 with keyAllowed := true }

/-- The question mark of a key. -/
def fetchKey (s : Scan) : Option Scan :=
  if !s.inFlow && !s.keyAllowed then none
  else
    let opened := if s.inFlow then s else s.openBlock .blockMappingStart
    opened.dropCandidate.map fun s =>
      { (s.emit .key).forward 1 with keyAllowed := !s.inFlow }

/-- The colon of an entry; a candidate before it becomes the key. -/
def fetchValue (s : Scan) : Option Scan :=
  match s.candidates.lookup s.flow with
  | some c =>
      let marked := s.insertAt c.number .key
      let opened :=
        if s.inFlow then marked
        else
          match marked.indentTo? c.column with
          | some deeper => deeper.insertAt c.number .blockMappingStart
          | none => marked
      some
        { (opened.emit .value).forward 1 with
          keyAllowed := false
          candidates := s.candidates.filter fun entry => entry.1 != s.flow }
  | none =>
      if !s.inFlow && !s.keyAllowed then none
      else
        let opened := if s.inFlow then s else s.openBlock .blockMappingStart
        opened.dropCandidate.map fun s =>
          { (s.emit .value).forward 1 with keyAllowed := !s.inFlow }

/-- A scalar written as a block of lines. -/
def fetchBlockText (s : Scan) (folded : Bool) : Option Scan :=
  match s.dropCandidate with
  | none => none
  | some s =>
      (BlockText.read folded s.indent s.cursor).map fun (text, next) =>
        { s.emit (.scalar (String.ofList text) false) with cursor := next, keyAllowed := true }

/-- A scalar between quotes. -/
def fetchQuoted (s : Scan) (double : Bool) : Except Failure Scan :=
  match s.remember with
  | none => .error .malformed
  | some s =>
      (Quoted.read double s.cursor).map fun (text, next) =>
        { s.emit (.scalar (String.ofList text) false) with cursor := next, keyAllowed := false }

/-- A scalar without quotes. -/
def fetchPlain (s : Scan) : Option Scan :=
  s.remember.map fun s =>
    let (text, next, ended) := Plain.read s.inFlow (s.indent + 1) s.cursor
    { s.emit (.scalar (String.ofList text) true) with cursor := next, keyAllowed := ended }

/-- Whether a plain scalar can start with a character, given the one after it. -/
def startsPlain (inFlow : Bool) (c : Char) (next : Option Char) : Bool :=
  let marks := ['-', '?', ':', ',', '[', ']', '\x7b', '\x7d', '#', '&', '*', '!', '|', '>', '\x27',
    '\x22', '%', '@', '\x60']
  (!isSeparator c && !marks.contains c)
    || (!endsWord next && (c == '-' || (!inFlow && (c == '?' || c == ':'))))

/-- The token that starts with a character at the cursor and is not quoted. -/
def fetchOther (s : Scan) (c : Char) : Option Scan :=
  let next := s.cursor.peekAt 1
  let atStart := s.cursor.column == 0
  if c == '%' && atStart then s.fetchDirective
  else if c == '-' && atStart && s.cursor.seesMark ['-', '-', '-'] then
    s.fetchDocumentMark .documentStart
  else if c == '.' && atStart && s.cursor.seesMark ['.', '.', '.'] then
    s.fetchDocumentMark .documentEnd
  else if c == '[' then s.fetchFlowStart .flowSequenceStart
  else if c == '\x7b' then s.fetchFlowStart .flowMappingStart
  else if c == ']' then s.fetchFlowEnd .flowSequenceEnd
  else if c == '\x7d' then s.fetchFlowEnd .flowMappingEnd
  else if c == ',' then s.fetchFlowEntry
  else if c == '-' && endsWord next then s.fetchBlockEntry
  else if c == '?' && (s.inFlow || endsWord next) then s.fetchKey
  else if c == ':' && (s.inFlow || endsWord next) then s.fetchValue
  else if c == '|' && !s.inFlow then s.fetchBlockText false
  else if c == '>' && !s.inFlow then s.fetchBlockText true
  else if startsPlain s.inFlow c next then s.fetchPlain
  else none

/-- The token that starts with a character at the cursor. -/
def fetch (s : Scan) (c : Char) : Except Failure Scan :=
  if c == '\x27' then s.fetchQuoted false
  else if c == '\x22' then s.fetchQuoted true
  else wellFormed (s.fetchOther c)

/-- The tokens of the whole text. -/
def run : Nat → Scan → Except Failure (List Token)
  | 0, _ => .error .malformed
  | fuel + 1, s =>
      match (s.skipToToken s.cursor.bound).dropStale with
      | none => .error .malformed
      | some s =>
          let here := s.unwind s.cursor.column
          match here.cursor.peek with
          | none => wellFormed ((here.unwind (-1)).dropCandidate.map (·.tokens.reverse))
          | some c =>
              match here.fetch c with
              | .error f => .error f
              | .ok next => run fuel next

end Scan

/-- A character that may stand in a YAML text. -/
def isAllowed (c : Char) : Bool :=
  let n := c.toNat
  n == 0x09 || n == 0x0A || n == 0x0D || (0x20 ≤ n && n ≤ 0x7E) || n == 0x85
    || (0xA0 ≤ n && n ≤ 0xD7FF) || (0xE000 ≤ n && n ≤ 0xFFFD) || 0x10000 ≤ n

/-- The tokens of a text, unless it is not well formed. -/
def Token.scan (text : List Char) : Except Failure (List Token) :=
  if text.all isAllowed then
    let start : Cursor := { rest := text, size := text.length }
    let first := if start.sees (· == '\uFEFF') then start.step else start
    Scan.run (2 * text.length + 2) { cursor := first }
  else .error .malformed

end Yaml
end NamespaceManifest
