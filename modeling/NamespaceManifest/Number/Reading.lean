/-!
# Reading decimal numbers

A decimal with an exponent is read as the nearest floating-point number.  Exponents far outside the
range of floating-point numbers are cut off first.
-/

namespace NamespaceManifest
namespace Number

/-- The natural number that digits of a base denote. -/
def ofDigits (base : Nat) (value : Char → Nat) (digits : List Char) : Nat :=
  digits.foldl (fun n c => n * base + value c) 0

/-- The value of one of the digits `0` to `9`, `a` to `f` and `A` to `F`. -/
def hexValue (c : Char) : Nat :=
  if '0' ≤ c && c ≤ '9' then c.toNat - '0'.toNat
  else if 'a' ≤ c && c ≤ 'f' then c.toNat - 'a'.toNat + 10
  else if 'A' ≤ c && c ≤ 'F' then c.toNat - 'A'.toNat + 10
  else 0

/-- Whether a character is a hexadecimal digit. -/
def isHexDigit (c : Char) : Bool :=
  ('0' ≤ c && c ≤ '9') || ('a' ≤ c && c ≤ 'f') || ('A' ≤ c && c ≤ 'F')

/-- The natural number that decimal digits denote. -/
def ofDecimal (digits : List Char) : Nat :=
  ofDigits 10 hexValue digits

/-- The floating-point number nearest to `mantissa * 10 ^ exponent`. -/
def realOfDecimal (mantissa : Nat) (exponent : Int) : Float :=
  if mantissa == 0 then 0.0
  else if 400 < exponent then 1.0 / 0.0
  else if exponent + ((Nat.toDigits 10 mantissa).length : Int) < -400 then 0.0
  else if 0 ≤ exponent then Float.ofScientific mantissa false exponent.toNat
  else Float.ofScientific mantissa true (-exponent).toNat

/-- The floating-point number of digits before and after a decimal point and an exponent. -/
def realOfParts (whole fraction : List Char) (exponent : Int) : Float :=
  realOfDecimal (ofDecimal (whole ++ fraction)) (exponent - fraction.length)

end Number
end NamespaceManifest
