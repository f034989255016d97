/-
# Integers are rounded to the nearest number

The magnitudes of two neighbouring ranks enclose what is rounded
(`unitsOfRank_floor`), and no other magnitude lies between them. So it is enough
that the nearer one of these two is taken, and of two that are equally near the
one with an even significand (`rankOfUnits_closest`, `rankOfUnits_even`). Numbers of
the other sign are further away than zero is, which makes the rounding of integers
the nearest among all finite numbers.

Key definition: `Binary64.Nearest`.
Key theorems: `Binary64.rankOfUnits_closest`, `Binary64.rankOfUnits_even`,
`Binary64.nearest_ofInt`.
-/
import Mathlib
import Telemetry.Proofs.ExactValues

namespace Telemetry.Binary64

-- Powers are those of core, as in the definitions that are opened here.
attribute [local instance (high)] instPowNat

/-- The number is the one to which `q` is rounded: no finite number is nearer, it
has an even significand if another number is as near, and it has the sign of `q`. -/
structure Nearest (x : Binary64) (q : ℚ) : Prop where
  finite : x.isFinite = true
  closest : ∀ y : Binary64, y.isFinite = true → |x.exact - q| ≤ |y.exact - q|
  even : ∀ y : Binary64, y.isFinite = true → y.exact ≠ x.exact →
    |y.exact - q| = |x.exact - q| → x.rank % 2 = 0
  sign : x.isNegative = decide (q < 0)

/-! ### The magnitudes beside a natural number -/

/-- The rank of a significand that may be full, or be small if it is not shifted. -/
theorem unitsOfRank_scaled {shift q : ℕ} (hlo : shift = 0 ∨ 2 ^ (52 : ℕ) ≤ q)
    (hhi : q ≤ 2 ^ (53 : ℕ)) : unitsOfRank (shift * 2 ^ (52 : ℕ) + q) = q * 2 ^ shift := by
  rcases Nat.lt_or_ge q (2 ^ (52 : ℕ)) with hsmall | hlarge
  · have hzero : shift = 0 := by omega
    rw [hzero, Nat.zero_mul, Nat.zero_add, Nat.pow_zero, Nat.mul_one, unitsOfRank, if_pos hsmall]
  rcases Nat.lt_or_eq_of_le hhi with hlt | rfl
  · exact unitsOfRank_shift shift hlarge hlt
  · -- the significand is full, so it counts as half of it with the next exponent
    have hnext : shift * 2 ^ (52 : ℕ) + 2 ^ (53 : ℕ) =
        (shift + 1) * 2 ^ (52 : ℕ) + 2 ^ (52 : ℕ) := by omega
    rw [hnext, unitsOfRank_shift (shift + 1) (by omega) (by omega), ← Nat.pow_add, ← Nat.pow_add]
    congr 1
    omega

section Magnitudes

variable {n : ℕ}

/-- A natural number lies between the magnitudes of two neighbouring ranks and is
rounded to the nearer one. Of two that are equally near it is the even one. -/
theorem rankOfUnits_cases (hmax : n.log2 < 2097) : ∃ r, unitsOfRank r ≤ n ∧
    n < unitsOfRank (r + 1) ∧ r + 1 < infinityRank ∧
    ((rankOfUnits n 1 = r ∧ n - unitsOfRank r ≤ unitsOfRank (r + 1) - n ∧
        (n - unitsOfRank r = unitsOfRank (r + 1) - n → r % 2 = 0)) ∨
      (rankOfUnits n 1 = r + 1 ∧ unitsOfRank (r + 1) - n ≤ n - unitsOfRank r ∧
        (n - unitsOfRank r = unitsOfRank (r + 1) - n → (r + 1) % 2 = 0))) := by
  obtain ⟨shift, hshift⟩ : ∃ shift, shift = n.log2 - 52 := ⟨_, rfl⟩
  have hd : 0 < 2 ^ shift := Nat.two_pow_pos shift
  have hlo : shift = 0 ∨ 2 ^ (52 : ℕ) ≤ n / 2 ^ shift := by
    rcases Nat.eq_zero_or_pos shift with h | hpos
    · exact Or.inl h
    · have hlog : 2 ^ (52 + shift) ≤ n :=
        (Nat.le_log2 (by rintro rfl; simp at hshift; omega)).mp (by omega)
      rw [Nat.pow_add] at hlog
      exact Or.inr ((Nat.le_div_iff_mul_le hd).mpr hlog)
  have hhi : n / 2 ^ shift < 2 ^ (53 : ℕ) := by
    rw [Nat.div_lt_iff_lt_mul hd, ← Nat.pow_add]
    exact Nat.lt_log2_self.trans_le (Nat.pow_le_pow_right (by omega) (by omega))
  have hsum := Nat.div_add_mod n (2 ^ shift)
  have hmod := Nat.mod_lt n hd
  have hbelow := unitsOfRank_scaled hlo hhi.le
  have habove : unitsOfRank (shift * 2 ^ (52 : ℕ) + n / 2 ^ shift + 1) =
      n / 2 ^ shift * 2 ^ shift + 2 ^ shift := by
    rw [Nat.add_assoc, unitsOfRank_scaled (by omega) (by omega), Nat.succ_mul]
  have hfin : shift * 2 ^ (52 : ℕ) + n / 2 ^ shift + 1 < infinityRank := by
    rw [infinityRank]
    omega
  have hbeside : shift * 2 ^ (52 : ℕ) + nearestEven n (2 ^ shift) ≤ infinityRank := by
    rcases nearestEven_eq_or n (2 ^ shift) with h | h
    · omega
    · omega
  have hrank : rankOfUnits n 1 = shift * 2 ^ (52 : ℕ) + nearestEven n (2 ^ shift) := by
    rw [rankOfUnits, Nat.div_one, Nat.one_mul, ← hshift]
    exact Nat.min_eq_left hbeside
  rw [Nat.mul_comm] at hsum
  refine ⟨shift * 2 ^ (52 : ℕ) + n / 2 ^ shift, by omega, by omega, hfin, ?_⟩
  rw [hrank, hbelow, habove, nearestEven]
  -- the significand and the rank are both even or both odd
  by_cases hup : 2 ^ shift < 2 * (n % 2 ^ shift) ∨
      (2 * (n % 2 ^ shift) = 2 ^ shift ∧ n / 2 ^ shift % 2 = 1)
  · rw [if_pos hup]
    exact Or.inr ⟨(Nat.add_assoc ..).symm, by omega, by omega⟩
  · rw [if_neg hup]
    exact Or.inl ⟨rfl, by omega, by omega⟩

/-- No magnitude is nearer than the one that is rounded to. -/
theorem rankOfUnits_closest (hmax : n.log2 < 2097) (s : ℕ) :
    ((unitsOfRank (rankOfUnits n 1) : ℤ) - n).natAbs ≤ ((unitsOfRank s : ℤ) - n).natAbs := by
  obtain ⟨r, hle, hlt, -, hcases⟩ := rankOfUnits_cases hmax
  have hside : unitsOfRank s ≤ unitsOfRank r ∨ unitsOfRank (r + 1) ≤ unitsOfRank s := by
    rw [unitsOfRank_strictMono.le_iff_le, unitsOfRank_strictMono.le_iff_le]
    omega
  rcases hcases with ⟨hrank, hnear, -⟩ | ⟨hrank, hnear, -⟩
  · rw [hrank]
    omega
  · rw [hrank]
    omega

/-- If another magnitude is as near, the one that is rounded to is even. -/
theorem rankOfUnits_even (hmax : n.log2 < 2097) {s : ℕ}
    (hne : unitsOfRank s ≠ unitsOfRank (rankOfUnits n 1))
    (heq : ((unitsOfRank s : ℤ) - n).natAbs =
      ((unitsOfRank (rankOfUnits n 1) : ℤ) - n).natAbs) :
    rankOfUnits n 1 % 2 = 0 := by
  obtain ⟨r, hle, hlt, -, hcases⟩ := rankOfUnits_cases hmax
  have hside : unitsOfRank s ≤ unitsOfRank r ∨ unitsOfRank (r + 1) ≤ unitsOfRank s := by
    rw [unitsOfRank_strictMono.le_iff_le, unitsOfRank_strictMono.le_iff_le]
    omega
  rcases hcases with ⟨hrank, hnear, heven⟩ | ⟨hrank, hnear, heven⟩
  · rw [hrank] at hne heq ⊢
    exact heven (by omega)
  · rw [hrank] at hne heq ⊢
    exact heven (by omega)

theorem rankOfUnits_lt_infinityRank (hmax : n.log2 < 2097) : rankOfUnits n 1 < infinityRank := by
  obtain ⟨r, -, -, hr, ⟨hrank, -⟩ | ⟨hrank, -⟩⟩ := rankOfUnits_cases hmax
  · omega
  · omega

end Magnitudes

/-! ### Integers -/

/-- The multiple of 2^-1074 that a finite number is, with its sign. -/
def signedUnits (x : Binary64) : ℤ := if x.isNegative then -(x.units : ℤ) else x.units

theorem exact_eq (x : Binary64) : x.exact = (x.signedUnits : ℚ) / unitsPerOne := by
  rw [exact, signedUnits]
  cases x.isNegative with
  | true => rw [if_pos rfl, if_pos rfl, Int.cast_neg, Int.cast_natCast]
  | false =>
    rw [if_neg Bool.false_ne_true, if_neg Bool.false_ne_true, Int.cast_natCast]

theorem exact_sub_intCast (x : Binary64) (i : ℤ) :
    x.exact - i = ((x.signedUnits - i * unitsPerOne : ℤ) : ℚ) / unitsPerOne := by
  have hone : (unitsPerOne : ℚ) ≠ 0 := Nat.cast_ne_zero.mpr unitsPerOne_pos.ne'
  rw [exact_eq, Int.cast_sub, Int.cast_mul, Int.cast_natCast, sub_div, mul_div_cancel_right₀ _ hone]

theorem abs_exact_sub_intCast (x : Binary64) (i : ℤ) :
    |x.exact - i| = ((x.signedUnits - i * unitsPerOne).natAbs : ℚ) / unitsPerOne := by
  rw [exact_sub_intCast, abs_div, Nat.abs_cast, Nat.cast_natAbs, Int.cast_abs]

theorem exact_inj {x y : Binary64} : x.exact = y.exact ↔ x.signedUnits = y.signedUnits := by
  have hone : (unitsPerOne : ℚ) ≠ 0 := Nat.cast_ne_zero.mpr unitsPerOne_pos.ne'
  rw [exact_eq, exact_eq, div_left_inj' hone, Int.cast_inj]

/-- How far a number is from an integer: numbers of the other sign are further away
than zero. -/
theorem natAbs_signedUnits_sub (y : Binary64) (i : ℤ) :
    (y.signedUnits - i * unitsPerOne).natAbs =
      if y.isNegative = decide (i < 0) then
        ((y.units : ℤ) - (i.natAbs * unitsPerOne : ℕ)).natAbs
      else y.units + i.natAbs * unitsPerOne := by
  have hprod : i * unitsPerOne = if i < 0 then -((i.natAbs * unitsPerOne : ℕ) : ℤ)
      else (i.natAbs * unitsPerOne : ℕ) := by
    rw [Nat.cast_mul]
    split
    · rw [Int.natCast_natAbs, abs_of_neg ‹_›, neg_mul, neg_neg]
    · rw [Int.natCast_natAbs, abs_of_nonneg (not_lt.mp ‹_›)]
  rw [hprod, signedUnits]
  generalize i.natAbs * unitsPerOne = n
  cases y.isNegative <;> by_cases hi : i < 0 <;> simp [hi] <;> omega

section Integers

variable {i : ℤ}

/-- The magnitude of an integer of up to 64 bits is far from the largest. -/
theorem log2_natAbs_mul_unitsPerOne (hi : i.natAbs ≤ 2 ^ (64 : ℕ)) :
    (i.natAbs * unitsPerOne).log2 < 2097 := by
  have hlog : i.natAbs.log2 < 65 := by
    rcases Nat.eq_zero_or_pos i.natAbs with h | hpos
    · rw [h]
      decide
    · exact (Nat.log2_lt hpos.ne').mpr (by omega)
  have hscaled := log2_mul_unitsPerOne_lt hlog
  omega

theorem rank_ofInt (hi : i.natAbs ≤ 2 ^ (64 : ℕ)) :
    (ofInt i).rank = rankOfUnits (i.natAbs * unitsPerOne) 1 :=
  rank_ofRank _ (rankOfUnits_lt_infinityRank (log2_natAbs_mul_unitsPerOne hi))

theorem isNegative_ofInt (hi : i.natAbs ≤ 2 ^ (64 : ℕ)) :
    (ofInt i).isNegative = decide (i < 0) :=
  isNegative_ofRank _ (rankOfUnits_lt_infinityRank (log2_natAbs_mul_unitsPerOne hi))

/-- How far the number is from the integer: as far as their magnitudes are. -/
theorem natAbs_signedUnits_ofInt_sub (hi : i.natAbs ≤ 2 ^ (64 : ℕ)) :
    ((ofInt i).signedUnits - i * unitsPerOne).natAbs =
      ((unitsOfRank (rankOfUnits (i.natAbs * unitsPerOne) 1) : ℤ) -
        (i.natAbs * unitsPerOne : ℕ)).natAbs := by
  rw [natAbs_signedUnits_sub, if_pos (isNegative_ofInt hi), units, rank_ofInt hi]

/-- An integer of up to 64 bits is rounded to the nearest number. -/
theorem nearest_ofInt (hi : i.natAbs ≤ 2 ^ (64 : ℕ)) : (ofInt i).Nearest i := by
  have hmax := log2_natAbs_mul_unitsPerOne hi
  have hrank := rank_ofInt hi
  have hsign := isNegative_ofInt hi
  have hself := natAbs_signedUnits_ofInt_sub hi
  generalize hn : i.natAbs * unitsPerOne = n at hmax hrank hself
  have hone : (0 : ℚ) < unitsPerOne := Nat.cast_pos.mpr unitsPerOne_pos
  have hzero : unitsOfRank 0 = 0 := by decide
  have hbelow := rankOfUnits_closest hmax 0
  rw [hzero] at hbelow
  refine ⟨?_, fun y _ => ?_, fun y _ hne heq => ?_, ?_⟩
  · rw [isFinite, hrank]
    exact decide_eq_true (rankOfUnits_lt_infinityRank hmax)
  · rw [abs_exact_sub_intCast, abs_exact_sub_intCast, div_le_div_iff_of_pos_right hone,
      Nat.cast_le, hself, natAbs_signedUnits_sub, hn]
    split
    · exact rankOfUnits_closest hmax y.rank
    · omega
  · rw [abs_exact_sub_intCast, abs_exact_sub_intCast, div_left_inj' hone.ne', Nat.cast_inj, hself,
      natAbs_signedUnits_sub, hn] at heq
    rw [Ne, exact_inj, signedUnits, signedUnits, hsign, units, units, hrank] at hne
    rw [hrank]
    by_cases hsame : y.isNegative = decide (i < 0)
    · rw [if_pos hsame] at heq
      rw [hsame] at hne
      exact rankOfUnits_even hmax (fun h => hne (by rw [h])) heq
    · -- a number of the other sign is as near only if it is zero
      rw [if_neg hsame, units] at heq
      have hnone : unitsOfRank y.rank = 0 := by omega
      refine rankOfUnits_even hmax (s := 0) (fun h => hne ?_) (by omega)
      rw [hnone, ← h, hzero]
      split <;> split <;> rfl
  · rw [hsign]
    exact decide_eq_decide.mpr Int.cast_lt_zero.symm

end Integers

end Telemetry.Binary64
