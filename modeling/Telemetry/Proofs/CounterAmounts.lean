/-
# What a value adds to a counter

A counter takes whole numbers of 64 bits, so a value is clamped to their range
and rounded down. The rules are told on the number that a value stands for
(`Value.number?`), which is the same for an integer and for a binary64 number,
and the infinities are numbers too; so values that stand for the same number add
the same (`Value.toCount_congr`), and a larger number adds no less
(`Value.toCount_le_toCount`). Of a NaN nothing is added.

Key definitions: `Clamped`, `Value.number?`, `Value.CountsAs`.
Key theorems: `Clamped.mono`, `Binary64.toNat_saturatingFloor`,
`Value.countsAs_toCount`, `Backend.counter_goes_up_by_clamped_floor`.
-/
import Mathlib
import Telemetry.Proofs.ExactValues
import Telemetry.Proofs.Offences

namespace Telemetry

-- Powers are those of core, as in the definitions that are opened here.
attribute [local instance (high)] instPowNat

/-! ### Numbers and counts -/

/-- A number, which may be infinite, clamped to the range of 64 bit counts and
rounded down. -/
inductive Clamped : WithBotTop ℚ → ℕ → Prop
  | notPositive {p : WithBotTop ℚ} (hp : p ≤ (0 : ℚ)) : Clamped p 0
  | tooLarge {p : WithBotTop ℚ} (hp : (2 ^ 64 : ℚ) ≤ p) : Clamped p (2 ^ 64 - 1)
  | within {q : ℚ} (hpos : 0 < q) (hlt : q < 2 ^ 64) : Clamped q ⌊q⌋₊

namespace Value

/-- The number that a value stands for. A NaN stands for none. -/
def number? : Value → Option (WithBotTop ℚ)
  | .int n => some ((n.toInt : ℚ) : WithBotTop ℚ)
  | .float x =>
    if x.isNaN then none
    else if x.isFinite then some (x.exact : WithBotTop ℚ)
    else some (if x.isNegative then ⊥ else ⊤)

/-- What a value adds to a counter: its number, clamped and rounded down, and
nothing for a NaN. -/
inductive CountsAs (v : Value) : ℕ → Prop
  | nan (h : v.number? = none) : CountsAs v 0
  | number {p : WithBotTop ℚ} {k : ℕ} (h : v.number? = some p) (hk : Clamped p k) : CountsAs v k

end Value

namespace Clamped

variable {p q : WithBotTop ℚ} {k l : ℕ}

theorem lt_two_pow (h : Clamped p k) : k < 2 ^ 64 := by
  cases h with
  | notPositive => exact Nat.two_pow_pos 64
  | tooLarge => exact Nat.sub_one_lt (Nat.two_pow_pos 64).ne'
  | within hpos hlt => exact (Nat.floor_lt hpos.le).mpr (by exact_mod_cast hlt)

/-- A larger number is not clamped to less. -/
theorem mono (hp : Clamped p k) (hq : Clamped q l) (h : p ≤ q) : k ≤ l := by
  -- the cases in which `p` is clamped higher than `q` contradict `h`
  cases hq with
  | tooLarge => exact Nat.le_sub_one_of_lt hp.lt_two_pow
  | notPositive hle =>
    cases hp with
    | notPositive => exact le_rfl
    | tooLarge hlarge =>
      have hfalse := WithBotTop.coe_le_coe.mp (hlarge.trans (h.trans hle))
      norm_num at hfalse
    | within hpos => exact absurd (WithBotTop.coe_le_coe.mp (h.trans hle)) (not_le.mpr hpos)
  | within _ hlt =>
    cases hp with
    | notPositive => exact Nat.zero_le _
    | tooLarge hlarge =>
      exact absurd (WithBotTop.coe_le_coe.mp (hlarge.trans h)) (not_le.mpr hlt)
    | within => exact Nat.floor_mono (WithBotTop.coe_le_coe.mp h)

theorem unique (h : Clamped p k) (h' : Clamped p l) : k = l :=
  le_antisymm (h.mono h' le_rfl) (h'.mono h le_rfl)

end Clamped

/-! ### Rounding down a binary64 number -/

namespace Binary64

theorem exact_nonpos_of_isNegative {x : Binary64} (h : x.isNegative = true) : x.exact ≤ 0 := by
  rw [exact, if_pos h]
  exact div_nonpos_of_nonpos_of_nonneg (neg_nonpos.mpr (Nat.cast_nonneg _)) (Nat.cast_nonneg _)

theorem floor_exact {x : Binary64} (h : x.isNegative = false) :
    ⌊x.exact⌋₊ = x.units / unitsPerOne := by
  rw [exact, h, if_neg Bool.false_ne_true]
  exact Nat.floor_div_eq_div _ _

/-- The value of a number that is no NaN is rounded down and clamped. -/
theorem toNat_saturatingFloor {x : Binary64} (hnan : x.isNaN = false) :
    x.saturatingFloor.toNat = min ⌊x.exact⌋₊ (2 ^ 64 - 1) := by
  cases hneg : x.isNegative with
  | true =>
    rw [saturatingFloor, hneg, Bool.or_true, if_pos rfl,
      Nat.floor_of_nonpos (exact_nonpos_of_isNegative hneg), Nat.zero_min]
    rfl
  | false =>
    have hlt : min (x.units / unitsPerOne) (2 ^ (64 : ℕ) - 1) < 2 ^ (64 : ℕ) := by omega
    rw [saturatingFloor, hnan, hneg, Bool.or_false, if_neg Bool.false_ne_true, UInt64.toNat_ofNat',
      Nat.mod_eq_of_lt hlt, floor_exact hneg]

/-- Infinity is past the range of counts, by the value that its rank would have. -/
theorem two_pow_le_exact_of_infinite {x : Binary64} (hneg : x.isNegative = false)
    (hrank : x.rank = infinityRank) : (2 ^ 64 : ℚ) ≤ x.exact := by
  have hunits : 2 ^ (64 : ℕ) * unitsPerOne ≤ unitsOfRank infinityRank := by decide +kernel
  have hone : (0 : ℚ) < unitsPerOne := Nat.cast_pos.mpr unitsPerOne_pos
  have hcast := Nat.cast_le (α := ℚ).mpr hunits
  rw [Nat.cast_mul, Nat.cast_pow, Nat.cast_ofNat] at hcast
  rw [exact, hneg, if_neg Bool.false_ne_true, units, hrank, le_div_iff₀ hone]
  exact hcast

/-- A finite number is clamped as its value. -/
theorem clamped_of_finite {x : Binary64} (h : x.isFinite = true) :
    Clamped x.exact x.saturatingFloor.toNat := by
  rw [toNat_saturatingFloor (not_isNaN_of_isFinite h)]
  rcases le_or_gt x.exact 0 with hnonpos | hpos
  · rw [Nat.floor_of_nonpos hnonpos, Nat.zero_min]
    exact .notPositive (WithBotTop.coe_le_coe.mpr hnonpos)
  rcases le_or_gt (2 ^ 64 : ℚ) x.exact with hlarge | hlt
  · have hfloor : 2 ^ 64 ≤ ⌊x.exact⌋₊ := Nat.le_floor (by exact_mod_cast hlarge)
    rw [Nat.min_eq_right (by omega)]
    exact .tooLarge (WithBotTop.coe_le_coe.mpr hlarge)
  · have hfloor : ⌊x.exact⌋₊ < 2 ^ 64 := (Nat.floor_lt hpos.le).mpr (by exact_mod_cast hlt)
    rw [Nat.min_eq_left (by omega)]
    exact .within hpos hlt

theorem clamped_of_infinite {x : Binary64} (hnan : x.isNaN = false) (hinf : x.isFinite = false) :
    Clamped (if x.isNegative then ⊥ else ⊤) x.saturatingFloor.toNat := by
  have hrank : x.rank = infinityRank := by
    simp only [isNaN, isFinite, decide_eq_false_iff_not] at hnan hinf
    omega
  rw [toNat_saturatingFloor hnan]
  cases hneg : x.isNegative with
  | true =>
    rw [Nat.floor_of_nonpos (exact_nonpos_of_isNegative hneg), Nat.zero_min]
    exact .notPositive bot_le
  | false =>
    have hlarge := two_pow_le_exact_of_infinite hneg hrank
    have hfloor : 2 ^ 64 ≤ ⌊x.exact⌋₊ := Nat.le_floor (by exact_mod_cast hlarge)
    rw [Nat.min_eq_right (by omega)]
    exact .tooLarge le_top

end Binary64

/-! ### What values count as -/

namespace Value

variable {v w : Value} {k l : ℕ} {p q : WithBotTop ℚ}

theorem number?_float_of_finite {x : Binary64} (h : x.isFinite = true) :
    (float x).number? = some (x.exact : WithBotTop ℚ) := by
  rw [number?, Binary64.not_isNaN_of_isFinite h, if_neg Bool.false_ne_true, if_pos h]

theorem toNat_toCount_int (n : Int64) : (int n).toCount.toNat = n.toInt.toNat := by
  have hlo := n.le_toInt
  have hhi := n.toInt_lt
  rw [toCount, UInt64.toNat_ofNat', Nat.mod_eq_of_lt (by omega)]

theorem clamped_int (n : Int64) : Clamped (n.toInt : ℚ) (int n).toCount.toNat := by
  rw [toNat_toCount_int]
  by_cases hpos : 0 < n.toInt
  · have hfloor : ⌊(n.toInt : ℚ)⌋₊ = n.toInt.toNat := by
      rw [← Int.floor_toNat, Int.floor_intCast]
    have hlt : (n.toInt : ℚ) < 2 ^ 64 := by
      calc (n.toInt : ℚ) < ((2 ^ 63 : ℤ) : ℚ) := Int.cast_lt.mpr n.toInt_lt
        _ < 2 ^ 64 := by norm_num
    rw [← hfloor]
    exact .within (Int.cast_pos.mpr hpos) hlt
  · rw [Int.toNat_of_nonpos (not_lt.mp hpos)]
    exact .notPositive (WithBotTop.coe_le_coe.mpr (Int.cast_nonpos.mpr (not_lt.mp hpos)))

theorem countsAs_toCount (v : Value) : v.CountsAs v.toCount.toNat := by
  cases v with
  | int n => exact .number rfl (clamped_int n)
  | float x =>
    cases hnan : x.isNaN with
    | true =>
      have hzero : (float x).toCount.toNat = 0 := by
        rw [toCount, Binary64.saturatingFloor, hnan, Bool.true_or, if_pos rfl]
        rfl
      rw [hzero]
      exact .nan (by rw [number?, hnan, if_pos rfl])
    | false =>
      cases hfin : x.isFinite with
      | true => exact .number (number?_float_of_finite hfin) (Binary64.clamped_of_finite hfin)
      | false =>
        refine .number ?_ (Binary64.clamped_of_infinite hnan hfin)
        rw [number?, hnan, hfin, if_neg Bool.false_ne_true, if_neg Bool.false_ne_true]

theorem CountsAs.clamped (h : v.CountsAs k) (hp : v.number? = some p) : Clamped p k := by
  cases h with
  | nan hnone =>
    rw [hp] at hnone
    cases hnone
  | number hq hk =>
    rw [hp] at hq
    cases hq
    exact hk

theorem CountsAs.eq_zero (h : v.CountsAs k) (hnone : v.number? = none) : k = 0 := by
  cases h with
  | nan => rfl
  | number hp hk =>
    rw [hp] at hnone
    cases hnone

/-- Values that stand for the same number count alike. -/
theorem CountsAs.congr (hv : v.CountsAs k) (hw : w.CountsAs l) (h : v.number? = w.number?) :
    k = l := by
  cases hp : v.number? with
  | none => rw [hv.eq_zero hp, hw.eq_zero (h ▸ hp)]
  | some p => exact (hv.clamped hp).unique (hw.clamped (h ▸ hp))

/-- Every value has a count, and only one. -/
theorem countsAs_iff : v.CountsAs k ↔ v.toCount.toNat = k := by
  constructor
  · intro h
    exact (countsAs_toCount v).congr h rfl
  · rintro rfl
    exact countsAs_toCount v

theorem toCount_le_toCount (hp : v.number? = some p) (hq : w.number? = some q) (h : p ≤ q) :
    v.toCount ≤ w.toCount := by
  rw [UInt64.le_iff_toNat_le]
  exact ((countsAs_toCount v).clamped hp).mono ((countsAs_toCount w).clamped hq) h

theorem toCount_congr (h : v.number? = w.number?) : v.toCount = w.toCount := by
  rw [← UInt64.toNat_inj]
  exact (countsAs_toCount v).congr (countsAs_toCount w) h

end Value

/-! ### The call that a value makes -/

namespace Backend

theorem submit_of_counter {e : Exporter} {name : String} {bounds? : Option (List Binary64)}
    (h : e.registered.get? name = some ⟨.counter, bounds?⟩) (tags : List Tag) (value : Value) :
    (Backend.exporter e).submit [⟨name, tags, value⟩] =
      (.exporter e, ⟨[.increment name tags value.toCount], []⟩) := by
  have hcall : e.call? ⟨name, tags, value⟩ = some (.increment name tags value.toCount) := by
    rw [Exporter.call?, h]
    rfl
  have hsubmit : e.submit ⟨name, tags, value⟩ = ⟨[.increment name tags value.toCount], []⟩ := by
    rw [Exporter.submit, hcall]
  rw [submit, List.map_singleton, hsubmit]
  rfl

/-- **A counter goes up by the number, clamped and rounded down.** A value that is
handed over for a name that is registered as a counter makes one increment and
nothing else, whatever the value is. The amount is that of an integer above zero,
and none for one that is not; in general it is the number that the value stands
for, clamped to 64 bits and rounded down, and none for a NaN. So a larger number
adds no less, and an integer of up to 53 bits adds what the binary64 number with
its value does. -/
theorem counter_goes_up_by_clamped_floor (e : Exporter) (name : String)
    (bounds? : Option (List Binary64))
    (h : e.registered.get? name = some ⟨.counter, bounds?⟩) :
    (∀ tags value, (Backend.exporter e).submit [⟨name, tags, value⟩] =
      (.exporter e, ⟨[.increment name tags value.toCount], []⟩)) ∧
    (∀ (value : Value) k, value.toCount.toNat = k ↔ value.CountsAs k) ∧
    (∀ n : Int64, ((Value.int n).toCount.toNat : ℤ) = if 0 < n.toInt then n.toInt else 0) ∧
    (∀ (v w : Value) p q, v.number? = some p → w.number? = some q → p ≤ q →
      v.toCount ≤ w.toCount) ∧
    ∀ n : Int64, n.toInt.natAbs ≤ 2 ^ 53 →
      (∃ x : Binary64, x.isFinite = true ∧ x.exact = n.toInt) ∧
      ∀ (x : Binary64) tags, x.isFinite = true → x.exact = n.toInt →
        (Backend.exporter e).submit [⟨name, tags, .int n⟩] =
          (Backend.exporter e).submit [⟨name, tags, .float x⟩] := by
  refine ⟨submit_of_counter h, fun value k => Value.countsAs_iff.symm, fun n => ?_,
    fun v w p q hp hq hle => Value.toCount_le_toCount hp hq hle,
    fun n hn => ⟨⟨.ofInt n.toInt, Binary64.exact_ofInt_of_le hn⟩, fun x tags hfin hx => ?_⟩⟩
  · rw [Value.toNat_toCount_int, Int.toNat_eq_max]
    split <;> omega
  · have hnumber : (Value.int n).number? = (Value.float x).number? := by
      rw [Value.number?_float_of_finite hfin, hx]
      rfl
    rw [submit_of_counter h, submit_of_counter h, Value.toCount_congr hnumber]

/-- Two and a half add two, infinity adds no less than the integer two does, and
three adds the same in both forms. -/
theorem counter_goes_up_by_clamped_floor_of_fraction :
    let e : Exporter := Exporter.addAll {} [Instrument.componentLoaded.view []]
    let name := Instrument.componentLoaded.name
    let submit := fun value => (Backend.exporter e).submit [⟨name, [], value⟩]
    e.registered.get? name = some ⟨.counter, none⟩ ∧
    submit (.float ⟨0x4004000000000000⟩) = (.exporter e, ⟨[.increment name [] 2], []⟩) ∧
    (Value.int 2).toCount ≤ (Value.float .infinity).toCount ∧
    submit (.int 3) = submit (.float (.ofInt 3)) := by
  intro e name submit
  have hget : e.registered.get? name = some ⟨.counter, none⟩ := by decide +kernel
  obtain ⟨hsubmit, -, -, hmono, hsame⟩ := counter_goes_up_by_clamped_floor e name none hget
  have hcount : (Value.float ⟨0x4004000000000000⟩).toCount = 2 := by decide +kernel
  have hthree : ((3 : Int64).toInt).natAbs ≤ 2 ^ 53 := by decide
  have hexact := Binary64.exact_ofInt_of_le hthree
  refine ⟨hget, ?_, hmono _ _ _ ⊤ rfl (by decide +kernel) le_top,
    (hsame 3 hthree).2 (.ofInt 3) [] hexact.1 hexact.2⟩
  rw [← hcount]
  exact hsubmit [] _

end Backend
end Telemetry
