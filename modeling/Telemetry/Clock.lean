/-
# Clock readings

A reading of a clock that never goes back, in nanoseconds from some start,
and the milliseconds between two readings.

Key definitions: `Instant`, `elapsedMillis`.
-/
import Telemetry.Binary64.Rounding

namespace Telemetry

-- Powers are those of core, whatever else is in scope; exponents carry their type for that.
attribute [local instance (high)] instPowNat

/-- A reading of a clock that never goes back. -/
structure Instant where
  nanos : Nat
deriving DecidableEq, Repr, Inhabited

/-- The milliseconds from `start` to `now`, zero when `start` is later. Whole
seconds and the fraction of a second are rounded each before they are added,
and the sum is rounded again when it is scaled. -/
def elapsedMillis (start now : Instant) : Binary64 :=
  let nanos := now.nanos - start.nanos
  let seconds := Binary64.ofNat (nanos / 10 ^ (9 : Nat))
  let fraction := (Binary64.ofNat (nanos % 10 ^ (9 : Nat))).div (.ofNat (10 ^ (9 : Nat)))
  (seconds.addMagnitudes fraction).mul (.ofNat 1000)

end Telemetry
