/-!
# Classes of characters as ranges

A class of characters is given as an increasing list of ranges of code points, both ends included.
-/

namespace NamespaceManifest
namespace Text

/-- Membership of a code point in an increasing list of ranges. -/
def inRanges (n : Nat) : List (Nat × Nat) → Bool
  | [] => false
  | (lo, hi) :: ranges => if n < lo then false else n ≤ hi || inRanges n ranges

end Text
end NamespaceManifest
