/-
# Bucket bounds

The upper bounds of a histogram are to be finite and strictly increasing.
Adjacent pairs are what is checked; since the order of numbers is transitive,
this orders every pair of positions (`pairwise_lt_of_isIncreasing`).

Key definitions: `isIncreasing`, `defaultBounds`.
Key theorem: `pairwise_lt_of_isIncreasing`.
-/
import Telemetry.Binary64.Rounding

namespace Telemetry

/-- Whether no bound is at least the one after it. A pair with a NaN passes,
since a NaN is not at least anything. -/
def isIncreasing : List Binary64 → Bool
  | x :: y :: rest => !y.le x && isIncreasing (y :: rest)
  | _ => true

/-- The latency bounds used when none are set, in milliseconds. -/
def defaultBounds : List Binary64 :=
  [1, 2, 3, 4, 5, 6, 8, 10, 13, 16, 20, 25, 30, 40, 50, 65, 80, 100, 130, 160, 200, 250, 300, 400,
    500, 650, 800, 1000, 2000, 5000, 10000, 20000, 50000, 100000].map Binary64.ofNat

/-- Bounds that are numbers and pass the check on adjacent pairs are in order
throughout. -/
theorem pairwise_lt_of_isIncreasing :
    ∀ {bounds : List Binary64}, (∀ x ∈ bounds, x.isNaN = false) → isIncreasing bounds = true →
      bounds.Pairwise fun x y => x.lt y = true
  | [], _, _ => .nil
  | [_], _, _ => by simp
  | x :: y :: rest, hn, h => by
    simp only [isIncreasing, Bool.and_eq_true, Bool.not_eq_true'] at h
    have hrest := pairwise_lt_of_isIncreasing (fun z hz => hn z (List.mem_cons_of_mem _ hz)) h.2
    have hxy : x.lt y = true :=
      (Binary64.lt_iff_not_le (hn x (by simp)) (hn y (by simp))).2 h.1
    refine List.pairwise_cons.2 ⟨fun z hz => ?_, hrest⟩
    rcases List.mem_cons.1 hz with rfl | hz
    · exact hxy
    · exact Binary64.lt_trans hxy ((List.pairwise_cons.1 hrest).1 z hz)

end Telemetry
