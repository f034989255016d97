/-
# The shortest decimal of a binary64 magnitude

A magnitude is written with the fewest significant digits that still round
to it. The reals that round to a magnitude are those between the midpoints to
its two neighbours, the midpoints themselves when its rank is even. For one
digit, two digits and so on the two decimals of that many digits around the
magnitude are tested against this interval in exact arithmetic, and the first
count with a hit decides; of two hits the nearer is taken. Seventeen digits
always hit.

Key definitions: `Decimal`, `Decimal.readsBack`, `Decimal.shortest`.
-/
import Telemetry.Binary64.Rounding

namespace Telemetry

-- Powers are those of core, whatever else is in scope; exponents carry their type for that.
attribute [local instance (high)] instPowNat

/-- The number `digits * 10 ^ exponent`. -/
structure Decimal where
  digits : Nat
  exponent : Int
deriving DecidableEq, Repr

/-- Which of two equally near decimals is taken. -/
inductive Tie
  | up
  | even
deriving DecidableEq, Repr

namespace Decimal

/-- Numerator and denominator of ten to an integer power. -/
def powerOfTen (e : Int) : Nat × Nat := (10 ^ e.toNat, 10 ^ (-e).toNat)

/-- Whether the decimal lies between the midpoints from the magnitude of the
given rank to its neighbours. Both sides are in half multiples of 2^-1074. -/
def readsBack (rank : Nat) (d : Decimal) : Bool :=
  let (up, down) := powerOfTen d.exponent
  let value := 2 * (d.digits * up * Binary64.unitsPerOne)
  let low := (Binary64.unitsOfRank (rank - 1) + Binary64.unitsOfRank rank) * down
  let high := (Binary64.unitsOfRank rank + Binary64.unitsOfRank (rank + 1)) * down
  if rank % 2 = 0 then decide (low ≤ value ∧ value ≤ high)
  else decide (low < value ∧ value < high)

/-- The power of ten of the leading digit of `units` multiples of 2^-1074. -/
def leadingExponent (units : Nat) : Int :=
  if Binary64.unitsPerOne ≤ units then
    (Nat.toDigits 10 (units / Binary64.unitsPerOne)).length - 1
  else
    match (List.range 325).find? fun j => Binary64.unitsPerOne ≤ units * 10 ^ j with
    | some j => -j
    | none => -324

/-- The nearer of the grid's two points `lower` and `lower + 1` to `units`
multiples of 2^-1074, for a grid of step `10 ^ exponent`. -/
def nearer (tie : Tie) (units : Nat) (exponent : Int) (lower : Nat) : Nat :=
  let (up, down) := powerOfTen exponent
  let middle := (2 * lower + 1) * up * Binary64.unitsPerOne
  let value := 2 * units * down
  if value < middle then lower
  else if middle < value then lower + 1
  else match tie with
    | .up => lower + 1
    | .even => if lower % 2 = 0 then lower else lower + 1

/-- The decimal of `count` digits that is nearest to the magnitude of the
given rank among those that read back, if one does. -/
def ofCount? (tie : Tie) (rank count : Nat) : Option Decimal :=
  let units := Binary64.unitsOfRank rank
  let exponent := leadingExponent units - (count - 1 : Nat)
  let (up, down) := powerOfTen exponent
  let lower := units * down / (up * Binary64.unitsPerOne)
  let below := readsBack rank ⟨lower, exponent⟩
  let above := readsBack rank ⟨lower + 1, exponent⟩
  if below && above then some ⟨nearer tie units exponent lower, exponent⟩
  else if below then some ⟨lower, exponent⟩
  else if above then some ⟨lower + 1, exponent⟩
  else none

/-- Moves a final zero into the exponent. One digit that rounds up to ten is
the only case: a longer decimal that ended in zero would have been found with
fewer digits. -/
def normalize (d : Decimal) : Decimal :=
  if d.digits = 10 then ⟨1, d.exponent + 1⟩ else d

/-- The shortest decimal that reads back as the magnitude of the given rank,
for the rank of a finite number other than zero. -/
def shortest (tie : Tie) (rank : Nat) : Decimal :=
  normalize (((List.range 17).findSome? fun k => ofCount? tie rank (k + 1)).getD ⟨0, 0⟩)

end Decimal
end Telemetry
