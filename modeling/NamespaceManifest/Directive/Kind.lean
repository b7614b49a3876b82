/-!
# Directive kinds

The closed set of tags that contribute lines to a manifest.  The kinds of the import family need no
module environment and are resolved first.
-/

namespace NamespaceManifest
namespace Directive

/-- A tag that contributes lines to a manifest. -/
inductive Kind where
  | imports
  | importFrom
  | importClassesFrom
  | importMethodsFrom
  | useDynLib
  | rawNamespace
  | evalNamespace
  | exports
  | exportClass
  | exportMethod
  | exportS3Method
  | exportPattern
  deriving Repr, BEq, DecidableEq

namespace Kind

/-- All kinds. -/
def all : List Kind :=
  [imports, importFrom, importClassesFrom, importMethodsFrom, useDynLib, rawNamespace,
   evalNamespace, exports, exportClass, exportMethod, exportS3Method, exportPattern]

/-- The tag of a kind. -/
def tag : Kind → String
  | imports => "import"
  | importFrom => "importFrom"
  | importClassesFrom => "importClassesFrom"
  | importMethodsFrom => "importMethodsFrom"
  | useDynLib => "useDynLib"
  | rawNamespace => "rawNamespace"
  | evalNamespace => "evalNamespace"
  | exports => "export"
  | exportClass => "exportClass"
  | exportMethod => "exportMethod"
  | exportS3Method => "exportS3Method"
  | exportPattern => "exportPattern"

/-- The kind of a tag, if it is a directive tag. -/
def ofTag? (name : String) : Option Kind :=
  all.find? fun k => k.tag == name

/-- A kind of the import family, which needs no module environment. -/
def isImport : Kind → Bool
  | imports | importFrom | importClassesFrom | importMethodsFrom | useDynLib | rawNamespace => true
  | _ => false

end Kind

/-- A set of kinds. -/
abbrev KindSet := Kind → Bool

/-- The set of all kinds. -/
def allKinds : KindSet := fun _ => true

/-- The set of the import family. -/
def importKinds : KindSet := Kind.isImport

end Directive
end NamespaceManifest
