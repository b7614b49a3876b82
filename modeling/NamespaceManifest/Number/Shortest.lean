/-!
# Shortest decimals of binary fractions

A positive binary fraction `m * 2 ^ q` stands for all reals that round to it.  Its shortest decimal
is the decimal with the fewest digits among them, and of several of that length the nearest one; of
two that are equally near, the one with the even last digit.

All arithmetic is exact: the reals that round to the fraction form an interval whose ends are
multiples of `2 ^ (q - 2)`, and decimals are compared with them by cross multiplication.
-/

namespace NamespaceManifest
namespace Number

/-- The decimal `digits * 10 ^ exponent`. -/
structure Decimal where
  digits : Nat
  exponent : Int
  deriving Repr, BEq, DecidableEq

/-- A quotient of natural numbers, as numerator and denominator, that is a power of a base. -/
def powerFraction (base : Nat) (e : Int) : Nat × Nat :=
  if 0 ≤ e then (Nat.pow base e.toNat, 1) else (1, Nat.pow base (-e).toNat)

/-- The number of decimal places by which a quotient below one has to be shifted to reach one. -/
def placesToOne (num den : Nat) : Nat → Nat → Nat
  | 0, places => places
  | fuel + 1, places =>
      if den ≤ num * Nat.pow 10 places then places else placesToOne num den fuel (places + 1)

/-- The greatest power of ten not above a positive quotient. -/
def leadingExponent (num den : Nat) : Int :=
  if den ≤ num then ((Nat.toDigits 10 (num / den)).length : Int) - 1
  else -((placesToOne num den 1100 1 : Nat) : Int)

/-- The reals that round to a binary fraction, in units of a quarter of its last place. -/
structure RoundingInterval where
  lower : Nat
  value : Nat
  upper : Nat
  closed : Bool

namespace RoundingInterval

/-- The interval of the fraction with mantissa `m`; below a power of two the next fraction is half
as far away as above it. -/
def ofMantissa (m : Nat) (atPower : Bool) : RoundingInterval :=
  { lower := if atPower then 4 * m - 1 else 4 * m - 2
    value := 4 * m
    upper := 4 * m + 2
    closed := m % 2 == 0 }

/-- Membership of a point, given on a scale on which a quarter has a length `unit`. -/
def contains (r : RoundingInterval) (unit point : Nat) : Bool :=
  if r.closed then r.lower * unit ≤ point && point ≤ r.upper * unit
  else r.lower * unit < point && point < r.upper * unit

/-- The point of a decimal grid that lies in the interval, the nearer one if both neighbours of the
value do. -/
def gridPoint? (r : RoundingInterval) (unit step : Nat) : Option Nat :=
  let below := r.value * unit / step
  let above := below + 1
  let rest := r.value * unit - below * step
  match r.contains unit (below * step), r.contains unit (above * step) with
  | true, true =>
      if 2 * rest < step then some below
      else if step < 2 * rest then some above
      else if below % 2 == 0 then some below else some above
  | true, false => some below
  | false, true => some above
  | false, false => none

/-- The first decimal grid, from coarse to fine, that has a point in the interval. -/
def search (r : RoundingInterval) (q lead : Int) : Nat → Nat → Decimal
  | 0, _ => ⟨0, 0⟩
  | fuel + 1, digits =>
      let exponent := lead - (digits : Int) + 1
      let (twoNum, twoDen) := powerFraction 2 (q - 2)
      let (tenNum, tenDen) := powerFraction 10 exponent
      match r.gridPoint? (twoNum * tenDen) (tenNum * twoDen) with
      | some point => ⟨point, exponent⟩
      | none => search r q lead fuel (digits + 1)

end RoundingInterval

/-- The shortest decimal of the positive fraction `m * 2 ^ q`. -/
def shortest (m : Nat) (q : Int) (atPower : Bool) : Decimal :=
  let (num, den) := powerFraction 2 q
  (RoundingInterval.ofMantissa m atPower).search q (leadingExponent (m * num) den) 20 1

end Number
end NamespaceManifest
