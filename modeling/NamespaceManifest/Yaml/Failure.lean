import NamespaceManifest.Error

/-!
# Why a YAML text denotes no value

A text fails to denote a value because it is not well formed, or because a scalar in it that is well
formed has no value.
-/

namespace NamespaceManifest
namespace Yaml

/-- Why a text denotes no value. -/
inductive Failure where
  | malformed
  | scalar (e : ScalarError)
  deriving Repr, BEq, DecidableEq

/-- A result, or the failure of a text that is not well formed. -/
def wellFormed {α : Type} : Option α → Except Failure α
  | some a => .ok a
  | none => .error .malformed

end Yaml
end NamespaceManifest
