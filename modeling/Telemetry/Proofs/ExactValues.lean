/-
# Integers that a binary64 number holds exactly

Rounding keeps a magnitude that needs no more than 53 significant bits: the
bits below are zero, so nothing is rounded off. Every integer of 32 bits is
such a number, and so is every integer up to 2^53.

The order of numbers is that of their exact values, since a larger rank is a
larger magnitude throughout.

Key definition: `Binary64.exact`.
Key theorems: `Binary64.unitsOfRank_rankOfUnits`, `Binary64.exact_ofInt`,
`Binary64.unitsOfRank_strictMono`, `Binary64.lt_iff_exact_lt`.
-/
import Mathlib
import Telemetry.Binary64.Rounding

namespace Telemetry

-- Powers are those of core, as in the definitions that are opened here.
attribute [local instance (high)] instPowNat

/-! ### Magnitudes -/

/-- A quotient without remainder is not rounded. -/
theorem nearestEven_of_dvd {n d : ℕ} (hd : 0 < d) (h : d ∣ n) : nearestEven n d = n / d := by
  have hmod : n % d = 0 := Nat.mod_eq_zero_of_dvd h
  rw [nearestEven, hmod, if_neg]
  omega

theorem log2_mul_two_pow {n : ℕ} (hpos : 0 < n) (k : ℕ) : (n * 2 ^ k).log2 = n.log2 + k := by
  have hne : n ≠ 0 := by omega
  have hp : 0 < 2 ^ k := Nat.two_pow_pos k
  rw [Nat.log2_eq_iff (Nat.mul_ne_zero hne hp.ne'), Nat.pow_add, Nat.add_right_comm, Nat.pow_add]
  exact ⟨Nat.mul_le_mul_right _ (Nat.log2_self_le hne),
    Nat.mul_lt_mul_of_pos_right Nat.lt_log2_self hp⟩

/-- A shift brings no more significant bits. -/
theorem dvd_mul_two_pow {n : ℕ} (hdvd : 2 ^ (n.log2 - 52) ∣ n) (k : ℕ) :
    2 ^ ((n * 2 ^ k).log2 - 52) ∣ n * 2 ^ k := by
  rcases Nat.eq_zero_or_pos n with rfl | hpos
  · rw [Nat.zero_mul]
    exact dvd_zero _
  have hle : n.log2 + k - 52 ≤ n.log2 - 52 + k := by omega
  calc 2 ^ ((n * 2 ^ k).log2 - 52) = 2 ^ (n.log2 + k - 52) := by rw [log2_mul_two_pow hpos]
    _ ∣ 2 ^ (n.log2 - 52 + k) := Nat.pow_dvd_pow 2 hle
    _ = 2 ^ (n.log2 - 52) * 2 ^ k := Nat.pow_add ..
    _ ∣ n * 2 ^ k := Nat.mul_dvd_mul_right hdvd _

namespace Binary64

/-- The rank of a significand of 53 bits, shifted. -/
theorem unitsOfRank_shift {q : ℕ} (shift : ℕ) (hlo : 2 ^ (52 : ℕ) ≤ q) (hhi : q < 2 ^ (53 : ℕ)) :
    unitsOfRank (shift * 2 ^ (52 : ℕ) + q) = q * 2 ^ shift := by
  have hdiv : (shift * 2 ^ (52 : ℕ) + q) / 2 ^ (52 : ℕ) - 1 = shift := by omega
  have hmod : 2 ^ (52 : ℕ) + (shift * 2 ^ (52 : ℕ) + q) % 2 ^ (52 : ℕ) = q := by omega
  rw [unitsOfRank, if_neg (by omega), hdiv, hmod]

/-- A magnitude whose bits below the leading 53 are zero is kept, if it is not
past the last finite one. -/
theorem unitsOfRank_rankOfUnits {n : ℕ} (hdvd : 2 ^ (n.log2 - 52) ∣ n) (hmax : n.log2 < 2098) :
    rankOfUnits n 1 < infinityRank ∧ unitsOfRank (rankOfUnits n 1) = n := by
  have hround : nearestEven n (1 * 2 ^ (n.log2 - 52)) = n / 2 ^ (n.log2 - 52) := by
    rw [Nat.one_mul]
    exact nearestEven_of_dvd (Nat.two_pow_pos _) hdvd
  have hrank : rankOfUnits n 1 =
      min ((n.log2 - 52) * 2 ^ (52 : ℕ) + n / 2 ^ (n.log2 - 52)) infinityRank := by
    rw [rankOfUnits, Nat.div_one, hround]
  rcases Nat.lt_or_ge n (2 ^ (52 : ℕ)) with hsmall | hlarge
  · -- no bit is shifted out, and the rank is the magnitude itself
    have hlog : n.log2 - 52 = 0 := by
      rcases Nat.eq_zero_or_pos n with rfl | hpos
      · rfl
      · have := (Nat.log2_lt (by omega)).mpr hsmall
        omega
    have hself : rankOfUnits n 1 = n := by
      rw [hrank, hlog, Nat.pow_zero, Nat.div_one, infinityRank]
      omega
    rw [hself]
    exact ⟨by rw [infinityRank]; omega, by rw [unitsOfRank, if_pos hsmall]⟩
  · have hpos : n ≠ 0 := by omega
    have hlog : 52 ≤ n.log2 := (Nat.le_log2 hpos).mpr hlarge
    obtain ⟨q, hq⟩ := hdvd
    set shift := n.log2 - 52 with hshift
    have hp : 0 < 2 ^ shift := Nat.two_pow_pos shift
    have hquot : n / 2 ^ shift = q := by
      conv_lhs => rw [hq]
      exact Nat.mul_div_cancel_left q hp
    have hlo : 2 ^ (52 : ℕ) ≤ q := by
      have h : 2 ^ (52 + shift) ≤ n := (Nat.le_log2 hpos).mp (by omega)
      rw [Nat.pow_add, hq, Nat.mul_comm] at h
      exact Nat.le_of_mul_le_mul_left h hp
    have hhi : q < 2 ^ (53 : ℕ) := by
      have h : n < 2 ^ (53 + shift) := (Nat.log2_lt hpos).mp (by omega)
      rw [Nat.pow_add, hq, Nat.mul_comm] at h
      exact Nat.lt_of_mul_lt_mul_right h
    have hfin : shift * 2 ^ (52 : ℕ) + q < infinityRank := by
      rw [infinityRank]
      omega
    have hself : rankOfUnits n 1 = shift * 2 ^ (52 : ℕ) + q := by
      rw [hrank, hquot]
      exact Nat.min_eq_left (Nat.le_of_lt hfin)
    rw [hself]
    exact ⟨hfin, by rw [unitsOfRank_shift shift hlo hhi, hq, Nat.mul_comm]⟩

/-! ### The value of a number -/

theorem unitsPerOne_pos : 0 < unitsPerOne := by
  rw [unitsPerOne]
  exact Nat.two_pow_pos 1074

/-- The exact value of a finite number. -/
def exact (x : Binary64) : ℚ := (if x.isNegative then -(x.units : ℚ) else x.units) / unitsPerOne

theorem toNat_ofRank (negative : Bool) {rank : ℕ} (h : rank < infinityRank) :
    (ofRank negative rank).bits.toNat = if negative then 2 ^ (63 : ℕ) + rank else rank := by
  rw [infinityRank] at h
  rw [ofRank, UInt64.toNat_ofNat', Nat.mod_eq_of_lt]
  split <;> omega

theorem rank_ofRank (negative : Bool) {rank : ℕ} (h : rank < infinityRank) :
    (ofRank negative rank).rank = rank := by
  rw [Binary64.rank, toNat_ofRank negative h]
  rw [infinityRank] at h
  split <;> omega

theorem isNegative_ofRank (negative : Bool) {rank : ℕ} (h : rank < infinityRank) :
    (ofRank negative rank).isNegative = negative := by
  rw [isNegative, toNat_ofRank negative h]
  rw [infinityRank] at h
  cases negative
  · simp only [Bool.false_eq_true, if_false, decide_eq_false_iff_not]
    omega
  · simp only [if_true, decide_eq_true_eq]
    omega

/-- The magnitude of an integer has 1074 bits more than the integer. -/
theorem log2_mul_unitsPerOne_lt {n k : ℕ} (h : n.log2 < k) :
    (n * unitsPerOne).log2 < k + 1074 := by
  rcases Nat.eq_zero_or_pos n with rfl | hpos
  · rw [Nat.zero_mul]
    omega
  · rw [unitsPerOne, log2_mul_two_pow hpos 1074]
    omega

/-- An integer of at most 53 significant bits is the exact value of the number
it is rounded to. -/
theorem exact_ofInt {i : ℤ} (hdvd : 2 ^ (i.natAbs.log2 - 52) ∣ i.natAbs)
    (hmax : i.natAbs.log2 < 1024) :
    (ofInt i).isFinite = true ∧ (ofInt i).exact = i := by
  have hlog : (i.natAbs * unitsPerOne).log2 < 2098 := log2_mul_unitsPerOne_lt hmax
  have hscaled : 2 ^ ((i.natAbs * unitsPerOne).log2 - 52) ∣ i.natAbs * unitsPerOne := by
    rw [unitsPerOne]
    exact dvd_mul_two_pow hdvd 1074
  obtain ⟨hfin, hunits⟩ := unitsOfRank_rankOfUnits hscaled hlog
  have hone : (unitsPerOne : ℚ) ≠ 0 := Nat.cast_ne_zero.mpr unitsPerOne_pos.ne'
  have hmag : (ofInt i).units = i.natAbs * unitsPerOne := by
    rw [ofInt, ofRatio, units, rank_ofRank _ hfin, hunits]
  have hneg : (ofInt i).isNegative = decide (i < 0) := by
    rw [ofInt, ofRatio, isNegative_ofRank _ hfin]
  refine ⟨?_, ?_⟩
  · rw [ofInt, ofRatio, isFinite, rank_ofRank _ hfin]
    exact decide_eq_true hfin
  · rw [exact, hmag, hneg, Nat.cast_mul]
    by_cases hi : i < 0
    · have habs : ((i.natAbs : ℕ) : ℚ) = -(i : ℚ) := by
        rw [Nat.cast_natAbs, abs_of_neg hi, Int.cast_neg]
      rw [if_pos (decide_eq_true hi), habs]
      field_simp
    · have habs : ((i.natAbs : ℕ) : ℚ) = (i : ℚ) := by
        rw [Nat.cast_natAbs, abs_of_nonneg (not_lt.mp hi)]
      rw [if_neg (by simpa using hi), habs]
      field_simp

/-- Integers up to 2^53 are exact. -/
theorem exact_ofInt_of_le {i : ℤ} (h : i.natAbs ≤ 2 ^ (53 : ℕ)) :
    (ofInt i).isFinite = true ∧ (ofInt i).exact = i := by
  rcases Nat.lt_or_eq_of_le h with hlt | heq
  · have hlog : i.natAbs.log2 ≤ 52 := by
      rcases Nat.eq_zero_or_pos i.natAbs with h0 | hpos
      · rw [h0]
        decide
      · have := (Nat.log2_lt (by omega)).mpr hlt
        omega
    refine exact_ofInt ?_ (by omega)
    rw [Nat.sub_eq_zero_of_le hlog, Nat.pow_zero]
    exact one_dvd _
  · have hlog : i.natAbs.log2 = 53 := by rw [heq, Nat.log2_two_pow]
    refine exact_ofInt ?_ (by omega)
    rw [hlog, heq]
    exact Nat.pow_dvd_pow 2 (by omega)

end Binary64

/-! ### The order of the values -/

namespace Binary64

/-- The next rank is of a larger magnitude, also where the exponent goes up. -/
theorem unitsOfRank_lt_succ (r : ℕ) : unitsOfRank r < unitsOfRank (r + 1) := by
  rcases Nat.lt_or_ge (r + 1) (2 ^ (52 : ℕ)) with hsmall | hlarge
  · rw [unitsOfRank, unitsOfRank, if_pos (by omega), if_pos hsmall]
    exact Nat.lt_succ_self r
  rcases Nat.lt_or_ge r (2 ^ (52 : ℕ)) with hlast | hr
  · -- the last magnitude without a leading one, and the first with one
    have hnext : r + 1 = 0 * 2 ^ (52 : ℕ) + 2 ^ (52 : ℕ) := by omega
    rw [unitsOfRank, if_pos hlast, hnext, unitsOfRank_shift 0 (by omega) (by omega)]
    omega
  obtain ⟨shift, q, hlo, hhi, hq⟩ : ∃ shift q, 2 ^ (52 : ℕ) ≤ q ∧ q < 2 ^ (53 : ℕ) ∧
      r = shift * 2 ^ (52 : ℕ) + q := by
    refine ⟨r / 2 ^ (52 : ℕ) - 1, 2 ^ (52 : ℕ) + r % 2 ^ (52 : ℕ), ?_, ?_, ?_⟩ <;> omega
  have hp : 0 < 2 ^ shift := Nat.two_pow_pos shift
  rw [hq, unitsOfRank_shift shift hlo hhi]
  rcases Nat.lt_or_ge (q + 1) (2 ^ (53 : ℕ)) with hsame | htop
  · rw [Nat.add_assoc, unitsOfRank_shift shift (by omega) hsame]
    exact Nat.mul_lt_mul_of_pos_right (Nat.lt_succ_self q) hp
  · -- the significand is full, so the next one starts anew with a larger exponent
    have hnext : shift * 2 ^ (52 : ℕ) + q + 1 = (shift + 1) * 2 ^ (52 : ℕ) + 2 ^ (52 : ℕ) := by
      omega
    rw [hnext, unitsOfRank_shift (shift + 1) (by omega) (by omega)]
    calc q * 2 ^ shift < 2 ^ (53 : ℕ) * 2 ^ shift := Nat.mul_lt_mul_of_pos_right hhi hp
      _ = 2 ^ (52 : ℕ) * 2 ^ (shift + 1) := by
        rw [← Nat.pow_add, ← Nat.pow_add]
        congr 1
        omega

theorem unitsOfRank_strictMono : StrictMono unitsOfRank :=
  strictMono_nat_of_lt_succ unitsOfRank_lt_succ

theorem units_lt_iff (x y : Binary64) : x.units < y.units ↔ x.rank < y.rank :=
  unitsOfRank_strictMono.lt_iff_lt

theorem units_eq_zero_iff (x : Binary64) : x.units = 0 ↔ x.rank = 0 := by
  have hzero : unitsOfRank 0 = 0 := by decide
  rw [units, ← hzero]
  exact unitsOfRank_strictMono.injective.eq_iff

/-- The key orders numbers as their values. -/
theorem exact_lt_exact_iff (x y : Binary64) : x.exact < y.exact ↔ x.key < y.key := by
  have hone : (0 : ℚ) < unitsPerOne := Nat.cast_pos.mpr unitsPerOne_pos
  have hvalue : ∀ z : Binary64, (if z.isNegative then -(z.units : ℚ) else z.units) =
      ((if z.isNegative then -(z.units : ℤ) else z.units : ℤ) : ℚ) := fun z => by
    split <;> simp
  have hlt := units_lt_iff x y
  have hgt := units_lt_iff y x
  have hx := units_eq_zero_iff x
  have hy := units_eq_zero_iff y
  rw [exact, exact, div_lt_div_iff_of_pos_right hone, hvalue, hvalue, Int.cast_lt, key, key]
  split_ifs <;> omega

theorem lt_iff_exact_lt {x y : Binary64} (hx : x.isNaN = false) (hy : y.isNaN = false) :
    x.lt y = true ↔ x.exact < y.exact := by
  rw [exact_lt_exact_iff]
  simp [lt, hx, hy]

/-- The numbers above zero are those without a sign that are no zero. -/
theorem zero_lt_exact_iff (x : Binary64) :
    0 < x.exact ↔ x.isNegative = false ∧ x.rank ≠ 0 := by
  have hone : (0 : ℚ) < unitsPerOne := Nat.cast_pos.mpr unitsPerOne_pos
  have hx := units_eq_zero_iff x
  rw [exact, div_pos_iff_of_pos_right hone]
  cases x.isNegative with
  | true => simp
  | false =>
    rw [if_neg Bool.false_ne_true, Nat.cast_pos, Nat.pos_iff_ne_zero, Ne, hx]
    simp

end Binary64

/-- A 32 bit integer is the exact value of the number it is rounded to. -/
theorem Binary64.exact_ofInt_toInt (n : Int32) :
    (Binary64.ofInt n.toInt).isFinite = true ∧ (Binary64.ofInt n.toInt).exact = n.toInt := by
  have hlo := n.le_toInt
  have hhi := n.toInt_lt
  exact Binary64.exact_ofInt_of_le (by omega)

end Telemetry
