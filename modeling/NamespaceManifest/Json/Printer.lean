import NamespaceManifest.Number.Real
import NamespaceManifest.Text.Literal
import NamespaceManifest.Value.Display

/-!
# Writing JSON

A document value as a JSON text on one line.  Control characters, quotes and backslashes inside texts
are escaped; all other characters stand for themselves.  A date or a moment is written as a text, a key
that is no text is written as its display, and what is foreign to documents is written as nothing.
-/

namespace NamespaceManifest
namespace Json

/-- A character as it stands inside a JSON text. -/
def escapeChar (c : Char) : List Char :=
  if c = '\x22' || c = '\\' then ['\\', c]
  else if c = '\n' then ['\\', 'n']
  else if c.toNat < 0x20 || c.toNat = 0x7F then ['\\', 'u'] ++ Text.Literal.hex 4 c.toNat
  else [c]

/-- A text between double quotes. -/
def renderText (s : String) : String :=
  String.ofList (['\x22'] ++ s.toList.flatMap escapeChar ++ ['\x22'])

/-- A floating-point number; those that are not finite are written as words. -/
def renderReal (x : Float) : String :=
  if x.isNaN then "NaN"
  else if x.isInf then (if x < 0 then "-Infinity" else "Infinity")
  else Number.realText Number.documentStyle x

mutual

/-- A value as JSON. -/
def render : Value → String
  | .null => "null"
  | .bool b => if b then "true" else "false"
  | .int n => toString n
  | .real x => renderReal x
  | .text s => renderText s
  | .date d => renderText d.display
  | .moment m => renderText m.display
  | .list items => "[" ++ ",".intercalate (renderItems items) ++ "]"
  | .map entries => "\x7b" ++ ",".intercalate (renderEntries entries) ++ "\x7d"
  | .foreign _ => "null"

/-- The items of a list as JSON. -/
def renderItems : List Value → List String
  | [] => []
  | v :: items => render v :: renderItems items

/-- The entries of a mapping as JSON. -/
def renderEntries : List (Value × Value) → List String
  | [] => []
  | (k, v) :: entries => (renderText k.display ++ ":" ++ render v) :: renderEntries entries

end

end Json
end NamespaceManifest
