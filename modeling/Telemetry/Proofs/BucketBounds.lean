/-
# The check on bucket bounds

What the check on bucket bounds says, fault by fault: the bounds are empty,
or one of them is not finite, or they are finite and two neighbours are not
in increasing order (`boundsFault?_cases`).

Key definitions: `HasDescent`, `GoodBounds`.
Key theorems: `isIncreasing_eq_false_iff`, `boundsFault?_cases`.
-/
import Mathlib
import Telemetry.Backend.Exporter

namespace Telemetry

/-- Two neighbours of which the first is not less than the second. -/
def HasDescent (bounds : List Binary64) : Prop :=
  ∃ front x y back, bounds = front ++ x :: y :: back ∧ x.lt y = false

/-- Bounds that a distribution can have. -/
structure GoodBounds (bounds : List Binary64) : Prop where
  ne_nil : bounds ≠ []
  finite : ∀ x ∈ bounds, x.isFinite = true
  increasing : ¬ HasDescent bounds

theorem Binary64.not_isNaN_of_isFinite {x : Binary64} (h : x.isFinite = true) :
    x.isNaN = false := by
  simp only [Binary64.isFinite, Binary64.isNaN, decide_eq_true_eq, decide_eq_false_iff_not] at *
  omega

theorem not_hasDescent_of_length_le_one {bounds : List Binary64} (h : bounds.length ≤ 1) :
    ¬ HasDescent bounds := by
  rintro ⟨front, x, y, back, rfl, -⟩
  rw [List.length_append, List.length_cons, List.length_cons] at h
  omega

theorem hasDescent_cons_cons {x y : Binary64} {rest : List Binary64} :
    HasDescent (x :: y :: rest) ↔ x.lt y = false ∨ HasDescent (y :: rest) := by
  constructor
  · rintro ⟨front, a, b, back, h, hab⟩
    cases front with
    | nil =>
      rw [List.nil_append, List.cons.injEq, List.cons.injEq] at h
      obtain ⟨rfl, rfl, -⟩ := h
      exact Or.inl hab
    | cons c front => exact Or.inr ⟨front, a, b, back, (List.cons.inj h).2, hab⟩
  · rintro (h | ⟨front, a, b, back, h, hab⟩)
    · exact ⟨[], x, y, rest, rfl, h⟩
    · exact ⟨x :: front, a, b, back, by rw [h]; rfl, hab⟩

/-- The check on neighbours fails at a descent, and only there. -/
theorem isIncreasing_eq_false_iff : ∀ {bounds : List Binary64},
    (∀ x ∈ bounds, x.isFinite = true) → (isIncreasing bounds = false ↔ HasDescent bounds)
  | [], _ => by
    have hno : ¬ HasDescent [] := not_hasDescent_of_length_le_one (by simp)
    simp [isIncreasing, hno]
  | [x], _ => by
    have hno : ¬ HasDescent [x] := not_hasDescent_of_length_le_one (by simp)
    simp [isIncreasing, hno]
  | x :: y :: rest, hfin => by
    have hx := Binary64.not_isNaN_of_isFinite (hfin x (by simp))
    have hy := Binary64.not_isNaN_of_isFinite (hfin y (by simp))
    have hlt : x.lt y = false ↔ y.le x = true := by
      rw [← Bool.not_eq_true, Binary64.lt_iff_not_le hx hy, Bool.not_eq_false]
    rw [hasDescent_cons_cons, isIncreasing, Bool.and_eq_false_iff, Bool.not_eq_false', hlt,
      isIncreasing_eq_false_iff fun z hz => hfin z (List.mem_cons_of_mem _ hz)]

/-- Which fault the check finds, and when it finds none. -/
theorem boundsFault?_cases (bounds : List Binary64) :
    (bounds = [] ∧ boundsFault? bounds = some .noBounds) ∨
    ((∃ x ∈ bounds, x.isFinite = false) ∧ boundsFault? bounds = some .infiniteBound) ∨
    ((∀ x ∈ bounds, x.isFinite = true) ∧ HasDescent bounds ∧
      boundsFault? bounds = some .unsortedBounds) ∨
    (GoodBounds bounds ∧ boundsFault? bounds = none) := by
  unfold boundsFault?
  by_cases hnil : bounds = []
  · exact Or.inl ⟨hnil, if_pos (List.isEmpty_iff.mpr hnil)⟩
  rw [if_neg (mt List.isEmpty_iff.mp hnil)]
  by_cases hinf : ∃ x ∈ bounds, x.isFinite = false
  · have hany : (bounds.any fun x => !x.isFinite) = true := by simpa using hinf
    exact Or.inr (Or.inl ⟨hinf, if_pos hany⟩)
  have hfin : ∀ x ∈ bounds, x.isFinite = true := fun x hx => by
    by_contra h
    exact hinf ⟨x, hx, by simpa using h⟩
  have hany : ¬ (bounds.any fun x => !x.isFinite) = true := by simpa using hfin
  rw [if_neg hany]
  by_cases hdesc : HasDescent bounds
  · have hdec := (isIncreasing_eq_false_iff hfin).mpr hdesc
    exact Or.inr (Or.inr (Or.inl ⟨hfin, hdesc, if_pos (by rw [hdec]; rfl)⟩))
  · have hinc : isIncreasing bounds = true := by
      rw [← Bool.not_eq_false]
      exact mt (isIncreasing_eq_false_iff hfin).mp hdesc
    exact Or.inr (Or.inr (Or.inr ⟨⟨hnil, hfin, hdesc⟩, if_neg (by rw [hinc]; simp)⟩))

end Telemetry
