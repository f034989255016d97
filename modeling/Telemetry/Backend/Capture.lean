/-
# The capturing backend

Keeps the views and the samples it is given, for tests. It can be told to
refuse the next registration. A batch is refused as a duplicate when one of
its views has the name of a view that is held already; names within the batch
are not compared.

Key definitions: `Capture`, `Capture.register`, `Capture.submit`.
-/
import Telemetry.Registration
import Telemetry.Sample

namespace Telemetry

/-- A backend that keeps what it is given. -/
structure Capture where
  views : List View := []
  samples : List Sample := []
  /-- How often a registration was tried. -/
  registrations : Nat := 0
  /-- The refusal that awaits the next registration. -/
  refusal? : Option RegistrationError := none
deriving DecidableEq, Repr, Inhabited

namespace Capture

def holds (c : Capture) (name : String) : Bool := c.views.any fun v => v.name == name

/-- The first view of the batch whose name is held. -/
def duplicate? (c : Capture) (views : List View) : Option View :=
  views.find? fun v => c.holds v.name

/-- Takes all the views of the batch, or refuses it; a refusal that awaited is
used up. -/
def register (c : Capture) (views : List View) : Option RegistrationError × Capture :=
  let tried := { c with registrations := c.registrations + 1, refusal? := none }
  match c.refusal? with
  | some e => (some e, tried)
  | none =>
    match c.duplicate? views with
    | some v => (some (.duplicateView v.name), tried)
    | none => (none, { tried with views := c.views ++ views })

/-- Keeps samples after those it has. -/
def submit (c : Capture) (samples : List Sample) : Capture :=
  { c with samples := c.samples ++ samples }

def refuseNext (c : Capture) (e : RegistrationError) : Capture := { c with refusal? := some e }

/-- Forgets the samples and keeps the rest. -/
def clear (c : Capture) : Capture := { c with samples := [] }

/-- The samples of one metric, in order. -/
def samplesOf (c : Capture) (name : String) : List Sample :=
  c.samples.filter fun s => s.name == name

end Capture
end Telemetry
