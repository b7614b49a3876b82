import NamespaceManifest.Environment
import NamespaceManifest.Manifest.Writer
import NamespaceManifest.Yaml.Document

/-!
# Configuration

The settings of a module stand in the file `.nsgen.yml` of its root folder.  All of them have defaults,
and a missing or blank file is the same as an empty one.  A setting counts when it is a text or a
number; a number stands for its text.

The manifest must be a plain file name and the marker a comment line.
-/

namespace NamespaceManifest

/-- The settings of a module. -/
structure Config where
  root : Path
  manifest : String := "NAMESPACE"
  blocks : String := "blocks.yml"
  module : Option String := none
  marker : String := Writer.defaultMarker
  logFile : Option Path := none

namespace Config

/-- The name of the configuration file. -/
def fileName : String := ".nsgen.yml"

/-- The path of the manifest. -/
def manifestPath (c : Config) : Path :=
  c.root.joinText c.manifest

/-- The path of the block document. -/
def blocksPath (c : Config) : Path :=
  c.root.joinText c.blocks

/-- The text of a setting that is a text or a number, unless that is empty. -/
def settingText? : Value → Except Error (Option String)
  | .text s => .ok (presentText? (some s))
  | .int n => if Number.isWritable n then .ok (some (toString n)) else .error (.scalar .unwritable)
  | .real x => .ok (some (Number.realText Number.documentStyle x))
  | _ => .ok none

/-- The text of a setting of some entries. -/
def setting? (entries : List (Value × Value)) (key : String) : Except Error (Option String) :=
  settingText? ((Value.lookup key entries).getD .null)

/-- Whether a text names a place in another folder. -/
def hasSeparator (s : String) : Bool :=
  s.toList.any fun c => c == '/' || c == '\\'

/-- Whether a text starts like a comment. -/
def isComment (s : String) : Bool :=
  s.toList.head? == some '#'

/-- A manifest that is a plain file name. -/
def checkManifest (manifest : String) : Except Error Unit :=
  if hasSeparator manifest then .error (.config .manifestNotAName) else .ok ()

/-- A marker that is a comment line. -/
def checkMarker (marker : String) : Except Error Unit :=
  if isComment marker then .ok () else .error (.config .markerNotAComment)

/-- The settings that the entries of a mapping give to a module with a root folder. -/
def ofEntries (root : Path) (entries : List (Value × Value)) : Except Error Config := do
  let given : Config := { root := root }
  let manifest := (← setting? entries "manifest").getD given.manifest
  checkManifest manifest
  let blocks := (← setting? entries "blocks").getD given.blocks
  let module ← setting? entries "module"
  let marker := (← setting? entries "marker").getD given.marker
  checkMarker marker
  let logFile ← setting? entries "log_file"
  return { root := root
           manifest := manifest
           blocks := blocks
           module := module
           marker := marker
           logFile := logFile.map root.joinText }

/-- The entries of a configuration text; a blank text and an empty document have none. -/
def entriesOf (file : String) (text : List Char) : Except Error (List (Value × Value)) :=
  if text.all Text.isBlank then .ok []
  else
    match Yaml.parse text with
    | .error .malformed => .error (.config (.unreadable file))
    | .error (.scalar e) => .error (.scalar e)
    | .ok .null => .ok []
    | .ok (.map entries) => .ok entries
    | .ok _ => .error (.config .notAMapping)

/-- The configuration file that a path stands for: the one of a folder, itself, or the one beside
it. -/
def fileFor (env : Environment) (t : Tree) (p : Path) : Except Error Path := do
  if ← Error.atPath p (t.hasFolder (env.folder.join p)) then return env.resolve (p.joinText fileName)
  else if p.name == fileName then return env.resolve p
  else return env.resolve (p.parent.joinText fileName)

/-- The settings at a path, which is a root folder or a configuration file. -/
def load (env : Environment) (p : Path) (t : Tree) : Except Error Config := do
  let expanded ← env.expand p
  let file ← fileFor env t expanded
  match ← t.readText file with
  | none => return { root := file.parent }
  | some text =>
      let entries ← entriesOf file.name text
      ofEntries file.parent entries

end Config
end NamespaceManifest
