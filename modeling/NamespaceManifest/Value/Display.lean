import NamespaceManifest.Number.Integer
import NamespaceManifest.Number.Real
import NamespaceManifest.Text.Literal
import NamespaceManifest.Value.Basic

/-!
# The text of document values

A value has two texts.  Its literal is how it is written inside a list or a mapping, where texts
stand between quotes.  Its display is how it is written by itself: a text stands for itself, and dates
and moments are written with hyphens and colons; every other value is displayed as its literal.

Integers with very many digits are not written.  A value with such an integer in it has no text.
-/

namespace NamespaceManifest

namespace Value

/-- A truth value as it is written in messages. -/
def boolText (b : Bool) : String :=
  if b then "True" else "False"

mutual

/-- A value as it is written inside a list or a mapping. -/
def literal : Value → String
  | null => "None"
  | bool b => boolText b
  | int n => toString n
  | real x => Number.realText Number.documentStyle x
  | text s => Text.Literal.quote s
  | date d => d.literal
  | moment m => m.literal
  | list items => "[" ++ ", ".intercalate (literals items) ++ "]"
  | map entries => "\x7b" ++ ", ".intercalate (entryLiterals entries) ++ "\x7d"
  | foreign kind => "<" ++ kind ++ ">"

/-- The literals of the items of a list. -/
def literals : List Value → List String
  | [] => []
  | v :: items => literal v :: literals items

/-- The literals of the entries of a mapping. -/
def entryLiterals : List (Value × Value) → List String
  | [] => []
  | (k, v) :: entries => (literal k ++ ": " ++ literal v) :: entryLiterals entries

end

/-- A value as it is written by itself. -/
def display : Value → String
  | text s => s
  | date d => d.display
  | moment m => m.display
  | v => literal v

mutual

/-- Whether every integer in a value has few enough digits to be written. -/
def isWritable : Value → Bool
  | int n => Number.isWritable n
  | list items => areWritable items
  | map entries => areWritableEntries entries
  | _ => true

/-- Whether all items of a list can be written. -/
def areWritable : List Value → Bool
  | [] => true
  | v :: items => isWritable v && areWritable items

/-- Whether all keys and values of a mapping can be written. -/
def areWritableEntries : List (Value × Value) → Bool
  | [] => true
  | (k, v) :: entries => isWritable k && isWritable v && areWritableEntries entries

end

end Value
end NamespaceManifest
