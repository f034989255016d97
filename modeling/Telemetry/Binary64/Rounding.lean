/-
# Rounding to a binary64 number

A quotient of natural numbers is rounded to the nearest magnitude, an exact
half going to the even neighbour, and a magnitude past the last finite one to
infinity. Integers, products, quotients and sums are rounded from their exact
values, so each operation is a choice of numerator and denominator.

The other direction is `saturatingFloor`: the number rounded down to a 64 bit
count, with everything below zero, and a NaN, taken as zero.

Key definitions: `nearestEven`, `Binary64.rankOfUnits`, `Binary64.ofRatio`,
`Binary64.ofInt`, `Binary64.saturatingFloor`.
-/
import Telemetry.Binary64.Basic

namespace Telemetry

-- Powers are those of core, whatever else is in scope; exponents carry their type for that.
attribute [local instance (high)] instPowNat

/-- The whole number nearest to `n / d`, an exact half going to the even
neighbour. -/
def nearestEven (n d : Nat) : Nat :=
  if d < 2 * (n % d) ∨ (2 * (n % d) = d ∧ n / d % 2 = 1) then n / d + 1 else n / d

/-- The rounded quotient is one of the two whole numbers beside it. -/
theorem nearestEven_eq_or (n d : Nat) : nearestEven n d = n / d ∨ nearestEven n d = n / d + 1 := by
  unfold nearestEven
  split
  · exact .inr rfl
  · exact .inl rfl

namespace Binary64

/-- How many multiples of 2^-1074 make one. -/
def unitsPerOne : Nat := 2 ^ (1074 : Nat)

/-- The rank nearest to `n / d` multiples of 2^-1074. The significand keeps
53 bits: `shift` is how many more the whole part has. A significand that
rounds up to 2^53 carries into the exponent by itself, since ranks of
neighbouring magnitudes are neighbours. -/
def rankOfUnits (n d : Nat) : Nat :=
  let shift := (n / d).log2 - 52
  min (shift * 2 ^ (52 : Nat) + nearestEven n (d * 2 ^ shift)) infinityRank

/-- The number nearest to `n / d` with the given sign. -/
def ofRatio (negative : Bool) (n d : Nat) : Binary64 :=
  ofRank negative (rankOfUnits (n * unitsPerOne) d)

def ofNat (n : Nat) : Binary64 := ofRatio false n 1

/-- The number nearest to an integer; zero is the positive one. -/
def ofInt (i : Int) : Binary64 := ofRatio (decide (i < 0)) i.natAbs 1

/-- The product of two finite numbers. -/
def mul (x y : Binary64) : Binary64 :=
  ofRank (x.isNegative != y.isNegative) (rankOfUnits (x.units * y.units) unitsPerOne)

/-- The quotient of two finite numbers, the second not zero. -/
def div (x y : Binary64) : Binary64 :=
  ofRank (x.isNegative != y.isNegative) (rankOfUnits (x.units * unitsPerOne) y.units)

/-- The sum of the magnitudes of two finite numbers. -/
def addMagnitudes (x y : Binary64) : Binary64 :=
  ofRank false (rankOfUnits (x.units + y.units) 1)

/-- The number rounded down to a 64 bit count: zero for a NaN and for
everything negative, the greatest count for everything above it. -/
def saturatingFloor (x : Binary64) : UInt64 :=
  if x.isNaN || x.isNegative then 0
  else UInt64.ofNat (min (x.units / unitsPerOne) (2 ^ (64 : Nat) - 1))

end Binary64
end Telemetry
