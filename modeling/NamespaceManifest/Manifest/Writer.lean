import NamespaceManifest.Text.Lines
import NamespaceManifest.Text.Utf8
import NamespaceManifest.Work

/-!
# The manifest writer

A writer keeps manifest files behind a marker line.  A file belongs to the writer when its first line
starts with the writer's signature, which is the marker up to its first colon unless another one is
given.

* Reading gives the lines of a file without the marker line.
* Writing changes a file only if its lines differ, and on request refuses to replace a file that does
  not belong to the writer.  A rewritten file keeps its permission bits and its style of newlines.
* Cleaning removes a file only if it belongs to the writer.
-/

namespace NamespaceManifest

/-- A writer: its marker line, and how the first line of its files starts. -/
structure Writer where
  marker : String
  signature : String
  deriving Repr, BEq, DecidableEq

namespace Writer

/-- The marker line of a writer to which none is given. -/
def defaultMarker : String :=
  "# Generated by nsgen: do not edit by hand"

/-- The signature of a marker line: what stands before its first colon, without blanks at the end. -/
def signatureOf (marker : String) : String :=
  Text.trimEnd (String.ofList (marker.toList.takeWhile (· != ':')))

/-- The writer of a marker line. -/
def ofMarker (marker : String) : Writer :=
  { marker := marker, signature := signatureOf marker }

/-- The writer of a marker line with a signature of its own, if that is not empty. -/
def withSignature (marker : String) (signature : Option String) : Writer :=
  { marker := marker, signature := (presentText? signature).getD (signatureOf marker) }

/-- Whether a line starts with the signature. -/
def claims (w : Writer) (line : String) : Bool :=
  w.signature.toList.isPrefixOf line.toList

/-- The lines of a file with the given entries. -/
def render (w : Writer) (entries : List String) : List String :=
  w.marker :: entries

/-- The text of a manifest file; bytes that are no characters are replaced. -/
def textOf (f : File) : List Char :=
  Text.foldNewlines (Text.Utf8.readLossy f.bytes)

/-- The first line of a manifest file, which only a newline ends. -/
def firstLine (f : File) : String :=
  String.ofList ((textOf f).takeWhile (· != '\n'))

/-- Whether a file belongs to the writer. -/
def owns (w : Writer) (f : File) : Bool :=
  w.claims (firstLine f)

/-- The lines of a file without the marker line. -/
def bodyOf (w : Writer) (f : File) : List String :=
  match Text.lines (String.ofList (textOf f)) with
  | first :: body => if w.claims first then body else first :: body
  | [] => []

/-- Whether there is a file at a path that belongs to the writer. -/
def isGenerated (w : Writer) (p : Path) : Work Bool := do
  return (← Work.open? p).any w.owns

/-- The lines of the file at a path, without the marker line. -/
def body? (w : Writer) (p : Path) : Work (Option (List String)) := do
  return (← Work.open? p).map w.bodyOf

/-- Whether a carriage return and a line feed follow each other. -/
def hasCrLf : List UInt8 → Bool
  | a :: b :: bytes => (a == 13 && b == 10) || hasCrLf (b :: bytes)
  | _ => false

/-- How many bytes of a file its style of newlines is judged by. -/
def headSize : Nat := 4096

/-- The newline of an existing file. -/
def newlineOf (f : File) : String :=
  if hasCrLf (f.bytes.data.toList.take headSize) then "\r\n" else "\n"

/-- A letter from `a` to `z` or from `A` to `Z`. -/
def isLetter (c : Char) : Bool :=
  ('a' ≤ c && c ≤ 'z') || ('A' ≤ c && c ≤ 'Z')

/-- A character that a file name can go on with. -/
def isNameChar (c : Char) : Bool :=
  isLetter c || ('0' ≤ c && c ≤ '9') || c == '_' || c == '.' || c == '-'

/-- A letter, and then letters, digits, underscores, dots and hyphens. -/
def isPlainName : List Char → Bool
  | [] => false
  | c :: s => isLetter c && s.all isNameChar

/-- Whether a file of a name can be written. -/
def isValidName (name : String) : Bool :=
  Text.holdsUpToNewline isPlainName name.toList

/-- The text of a file with the given entries and newline. -/
def fileText (w : Writer) (newline : String) (entries : List String) : String :=
  newline.intercalate (w.render (Text.physicalLines entries)) ++ newline

/-- The bytes of a file that takes the place of an old one, or that is written anew. -/
def bytesFor (w : Writer) (old : Option File) (entries : List String) : ByteArray :=
  (w.fileText ((old.map newlineOf).getD "\n") entries).toUTF8

/-- The permission bits of a file that takes the place of another one, or that is written anew. -/
def modeFor (present : Option File) : Nat :=
  (present.map fun f => f.mode % 0o1000).getD File.newMode

/-- Puts bytes at a path, in folders that are made if they are missing.  The file that is there once the
folders are gives the permission bits. -/
def replace (p : Path) (bytes : ByteArray) : Work Unit := do
  Work.makeFolders p.parent
  let present ← Work.open? p
  Work.replaceFile p { bytes := bytes, mode := modeFor present }

/-- Writes entries to a path; with `check`, a file that does not belong to the writer is left as it is.
The result says whether the file was written. -/
def write (w : Writer) (p : Path) (entries : List String) (check : Bool) : Work Bool := do
  if !isValidName p.name then Work.fail (.invalidName p.name)
  else
    let old ← Work.open? p
    if old.map w.bodyOf = some (Text.physicalLines entries) then
      Work.note .debug .writer (p.display ++ " already up to date")
      return false
    else if check && old.any (!w.owns ·) then
      Work.note .warning .writer ("Skipping " ++ p.display ++ ": not generated by nsgen")
      Work.fail (.conflict p)
    else
      replace p (w.bytesFor old entries)
      Work.note .info .writer ("Writing " ++ p.name)
      return true

/-- Removes the file at a path if it belongs to the writer.  The result says whether it did. -/
def clean (w : Writer) (p : Path) : Work Bool := do
  if ← w.isGenerated p then
    Work.eraseFile p
    Work.note .info .writer ("Removed " ++ p.name)
    return true
  else
    Work.note .debug .writer ("Not removing " ++ p.display ++ ": not generated by nsgen")
    return false

end Writer
end NamespaceManifest
