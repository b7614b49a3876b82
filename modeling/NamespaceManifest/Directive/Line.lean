import NamespaceManifest.Directive.Name

/-!
# Directive lines

A directive line is a directive word with its arguments in parentheses.  The lines that a list of
words yields either hold one word each, or the first word and one of the others.

A manifest line belongs to the import family when, after leading blanks, it starts with one of five
directive words and an opening parenthesis.
-/

namespace NamespaceManifest
namespace Directive

/-- A directive with its arguments as they stand. -/
def line (directive arguments : String) : String :=
  directive ++ "(" ++ arguments ++ ")"

/-- One directive for every name. -/
def onePerLine (directive : String) (names : List String) : List String :=
  names.map fun name => line directive (Name.autoBacktick name)

/-- One directive for every word after the first, with the first word as its first argument. -/
def repeatFirst (directive : String) : List String → List String
  | [] => []
  | first :: names =>
      names.map fun name => line directive (Name.autoBacktick first ++ "," ++ Name.autoBacktick name)

/-- The registration of a method with its generic and its class. -/
def s3Method (generic className : String) : String :=
  line "S3method" (Name.autoBacktick generic ++ "," ++ Name.autoBacktick className)

/-- The directive words of the import family. -/
def importWords : List String :=
  ["import", "importFrom", "importClassesFrom", "importMethodsFrom", "useDynLib"]

/-- Whether a manifest line is a directive of the import family. -/
def isImportLine (s : String) : Bool :=
  let text := s.toList.dropWhile Text.isBlank
  importWords.any fun word => (word.toList ++ ['(']).isPrefixOf text

end Directive
end NamespaceManifest
