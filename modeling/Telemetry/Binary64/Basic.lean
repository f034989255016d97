/-
# Binary64 numbers by their bits

A `Binary64` is the 64 bits of an IEEE 754 double. The bits below the sign
rank the magnitudes (`rank`): zero has rank 0, the next larger magnitude has
the next rank, and infinity has `infinityRank`, with the NaNs above it. Every
finite number is a whole multiple of the least positive one, 2^-1074; `units`
is that multiple without its sign. So order is a statement on ranks and
rounding a statement on natural numbers, with no arithmetic that a proof
cannot see into.

Key definitions: `Binary64.rank`, `Binary64.units`, `Binary64.isNaN`,
`Binary64.isFinite`, `Binary64.eqv`, `Binary64.lt`, `Binary64.le`.
-/

namespace Telemetry

-- Powers are those of core, whatever else is in scope; exponents carry their type for that.
attribute [local instance (high)] instPowNat

/-- An IEEE 754 double, as its bits. Two of them are equal when their bits
are; the comparison of the numbers they denote is `Binary64.eqv`. -/
structure Binary64 where
  bits : UInt64
deriving DecidableEq, Inhabited, Repr

namespace Binary64

/-- The rank of the magnitude: the bits below the sign. -/
def rank (x : Binary64) : Nat := x.bits.toNat % 2 ^ (63 : Nat)

/-- Whether the sign bit is set. -/
def isNegative (x : Binary64) : Bool := 2 ^ (63 : Nat) ≤ x.bits.toNat

/-- The rank of infinity: all exponent bits set and no other. -/
def infinityRank : Nat := 2047 * 2 ^ (52 : Nat)

def isNaN (x : Binary64) : Bool := infinityRank < x.rank

def isFinite (x : Binary64) : Bool := x.rank < infinityRank

/-- The number of the given sign and rank. -/
def ofRank (negative : Bool) (rank : Nat) : Binary64 :=
  ⟨UInt64.ofNat (if negative then 2 ^ (63 : Nat) + rank else rank)⟩

def nan : Binary64 := ofRank false (infinityRank + 2 ^ (51 : Nat))

def infinity : Binary64 := ofRank false infinityRank

def zero : Binary64 := ofRank false 0

/-- The same magnitude with the other sign. -/
def neg (x : Binary64) : Binary64 := ofRank (!x.isNegative) x.rank

/-- The multiple of 2^-1074 that has the given rank. Below rank 2^52 the two
agree; above, the low 52 bits are the fraction of a significand of 53 bits
and the others its exponent. -/
def unitsOfRank (rank : Nat) : Nat :=
  if rank < 2 ^ (52 : Nat) then rank
  else (2 ^ (52 : Nat) + rank % 2 ^ (52 : Nat)) * 2 ^ (rank / 2 ^ (52 : Nat) - 1)

/-- The magnitude of a finite number as a multiple of 2^-1074. -/
def units (x : Binary64) : Nat := unitsOfRank x.rank

/-- The rank with the sign of the number. Both zeros have key 0, and for
other numbers a larger key is a larger number. -/
def key (x : Binary64) : Int := if x.isNegative then -x.rank else x.rank

/-- Equal as numbers: the two zeros are equal, a NaN equals nothing. -/
def eqv (x y : Binary64) : Bool := !x.isNaN && !y.isNaN && x.key == y.key

/-- Less as numbers; false when either is a NaN. -/
def lt (x y : Binary64) : Bool := !x.isNaN && !y.isNaN && decide (x.key < y.key)

/-- At most as numbers; false when either is a NaN. -/
def le (x y : Binary64) : Bool := !x.isNaN && !y.isNaN && decide (x.key ≤ y.key)

/-- Lists of the same length whose members are equal as numbers. -/
def eqvList : List Binary64 → List Binary64 → Bool
  | [], [] => true
  | x :: xs, y :: ys => x.eqv y && eqvList xs ys
  | _, _ => false

theorem lt_trans {x y z : Binary64} (hxy : x.lt y = true) (hyz : y.lt z = true) :
    x.lt z = true := by
  simp only [lt, Bool.and_eq_true, Bool.not_eq_true', decide_eq_true_eq] at *
  exact ⟨⟨hxy.1.1, hyz.1.2⟩, by omega⟩

/-- For numbers that are no NaN, not being at least is being less. -/
theorem lt_iff_not_le {x y : Binary64} (hx : x.isNaN = false) (hy : y.isNaN = false) :
    x.lt y = true ↔ y.le x = false := by
  simp [lt, le, hx, hy]

end Binary64
end Telemetry
