import NamespaceManifest.Number.Shortest

/-!
# The text of floating-point numbers

A finite number is written with the digits of its shortest decimal.  The style says from which to
which power of ten the digits stand around a decimal point, and how an exponent is written outside
that range.
-/

namespace NamespaceManifest
namespace Number

/-- Where positional writing begins and ends, and the least number of digits of an exponent. -/
structure RealStyle where
  lowest : Int
  beyond : Int
  exponentDigits : Nat

/-- Numbers from `0.0001` up to, but without, `10 ^ 16` are written positionally; exponents have a
sign and at least two digits. -/
def documentStyle : RealStyle := ⟨-4, 16, 2⟩

/-- A list of characters brought to a length by zeros in front. -/
def padZeros (width : Nat) (digits : List Char) : List Char :=
  List.replicate (width - digits.length) '0' ++ digits

/-- Decimal digits without the zeros at their end, and the number of zeros dropped. -/
def dropZeros (digits : List Char) : List Char × Nat :=
  let kept := (digits.reverse.dropWhile (· == '0')).reverse
  (kept, digits.length - kept.length)

/-- The text of a positive decimal in a style. -/
def Decimal.text (style : RealStyle) (d : Decimal) : List Char :=
  let (digits, zeros) := dropZeros (Nat.toDigits 10 d.digits)
  let exponent : Int := d.exponent + zeros
  let lead : Int := exponent + digits.length - 1
  if style.lowest ≤ lead && lead < style.beyond then
    if 0 ≤ exponent then digits ++ List.replicate exponent.toNat '0' ++ ['.', '0']
    else if 0 ≤ lead then digits.take (lead.toNat + 1) ++ ['.'] ++ digits.drop (lead.toNat + 1)
    else ['0', '.'] ++ List.replicate ((-lead).toNat - 1) '0' ++ digits
  else
    let mantissa :=
      match digits with
      | [] => []
      | [c] => [c]
      | c :: rest => c :: '.' :: rest
    let sign := if lead < 0 then '-' else '+'
    mantissa ++ ['e', sign] ++ padZeros style.exponentDigits (Nat.toDigits 10 lead.natAbs)

/-- The text of a floating-point number in a style. -/
def realText (style : RealStyle) (x : Float) : String :=
  let bits := x.toBits.toNat
  let sign := if bits / Nat.pow 2 63 == 1 then "-" else ""
  let field : Nat := bits / Nat.pow 2 52 % 2048
  let fraction := bits % Nat.pow 2 52
  if field == 2047 then
    if fraction == 0 then sign ++ "inf" else "nan"
  else if field == 0 && fraction == 0 then sign ++ "0.0"
  else
    let decimal :=
      if field == 0 then shortest fraction (-1074) false
      else
        shortest (Nat.pow 2 52 + fraction) ((field : Int) - 1075) (fraction == 0 && field != 1)
    sign ++ String.ofList (decimal.text style)

end Number
end NamespaceManifest
