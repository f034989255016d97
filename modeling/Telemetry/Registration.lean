/-
# Refused registrations

Why a backend refuses a batch of views, or a monitor a second start, and the
message for each.

Key definitions: `RegistrationError`, `RegistrationError.message`,
`AggregationFault`.
-/
import Telemetry.View

namespace Telemetry

/-- Why a registration is refused. -/
inductive RegistrationError
  /-- A view of that name is registered already. -/
  | duplicateView (name : String)
  /-- The aggregation of the view cannot be used. -/
  | invalidAggregation (name reason : String)
  /-- The backend does not take the view. -/
  | rejected (name reason : String)
  /-- The monitor is enabled already. -/
  | alreadyEnabled
deriving DecidableEq, Repr, Inhabited

/-- The message of a refusal. -/
def RegistrationError.message : RegistrationError → String
  | .duplicateView name => s!"view `{name}` is already registered"
  | .invalidAggregation name reason => s!"invalid aggregation for view `{name}`: {reason}"
  | .rejected name reason => s!"sink rejected view `{name}`: {reason}"
  | .alreadyEnabled => "metrics recorder is already initialized"

/-- What is wrong with the aggregation of a view. -/
inductive AggregationFault
  | mismatch (kind : Kind) (aggregation : Aggregation)
  | noBounds
  | infiniteBound
  | unsortedBounds
deriving DecidableEq, Repr

/-- The reason given for a fault. -/
def AggregationFault.reason : AggregationFault → String
  | .mismatch kind aggregation => s!"{kind.text} cannot be aggregated as {aggregation.text}"
  | .noBounds => "no bucket bounds"
  | .infiniteBound => "bucket bounds must be finite"
  | .unsortedBounds => "bucket bounds must be strictly increasing"

end Telemetry
