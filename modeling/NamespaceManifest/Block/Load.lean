import NamespaceManifest.Block.Document
import NamespaceManifest.Environment
import NamespaceManifest.Yaml.Document

/-!
# Loading block documents

A block document is read from a file.  The name of the file is the source of the blocks that do not
name a file of their own.
-/

namespace NamespaceManifest
namespace BlockDocument

/-- The blocks of the document at a path, with their issues. -/
def readFile (p : Path) (t : Tree) : Except Error (List Block × List Issue) := do
  match ← t.readText p with
  | none => throw (.documentMissing p)
  | some text =>
      match Yaml.parse text with
      | .error .malformed => throw (.document (.unreadable p.name))
      | .error (.scalar e) => throw (.scalar e)
      | .ok v => read (some p.name) v

/-- Loads the document at a path. -/
def load (p : Path) : Work (List Block × List Issue) := do
  let (blocks, issues) ← Work.inspect (readFile p)
  Work.note .debug .blocks
    ("Loaded " ++ toString blocks.length ++ " block(s) from " ++ p.display)
  return (blocks, issues)

end BlockDocument
end NamespaceManifest
