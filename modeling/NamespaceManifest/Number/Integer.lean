import NamespaceManifest.Text.Blank
import NamespaceManifest.Text.Digit

/-!
# Integers as text

An integer may have blanks around it and a sign in front.  Its digits may be those of any script, and
single underscores may stand between them.

Integers with more than a certain number of decimal digits are neither read nor written.
-/

namespace NamespaceManifest
namespace Number

/-- The greatest number of decimal digits of an integer that is read or written. -/
def digitLimit : Nat := 4300

/-- Whether an integer has few enough digits to be written. -/
def isWritable (n : Int) : Bool :=
  n.natAbs < Nat.pow 10 digitLimit

/-- A blank that may stand around an integer: the separators of information do not count as one. -/
def isIntegerBlank (c : Char) : Bool :=
  Text.isBlank c && !(0x1C ≤ c.toNat && c.toNat ≤ 0x1F)

/-- The number that digits with single underscores between them denote, after a number that was read
already; `needed` says whether a digit must come next. -/
def digitsFrom (needed : Bool) (n : Nat) : List Char → Option Nat
  | [] => if needed then none else some n
  | c :: s =>
      match Text.digitValue? c with
      | some d => digitsFrom false (n * 10 + d) s
      | none => if c == '_' && !needed then digitsFrom true n s else none

/-- The natural number that a text denotes, if it does not have too many digits. -/
def natural? (s : List Char) : Option Nat :=
  if (s.filter (· != '_')).length ≤ digitLimit then digitsFrom true 0 s else none

/-- The integer that a text denotes. -/
def integer? (s : String) : Option Int :=
  match Text.dropEndWhile isIntegerBlank (s.toList.dropWhile isIntegerBlank) with
  | '-' :: digits => (natural? digits).map fun n => -(n : Int)
  | '+' :: digits => (natural? digits).map fun n => (n : Int)
  | digits => (natural? digits).map fun n => (n : Int)

end Number
end NamespaceManifest
