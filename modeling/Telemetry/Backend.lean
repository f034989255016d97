/-
# Backends

A backend takes batches of views and then samples. There are two, the
capturing and the exporting one; both answer a registration with a refusal or
none, and whatever they send out is traffic.

Key definitions: `Backend`, `Backend.register`, `Backend.submit`.
-/
import Telemetry.Backend.Capture
import Telemetry.Backend.Exporter

namespace Telemetry

inductive Backend
  | capture (c : Capture)
  | exporter (e : Exporter)
deriving DecidableEq, Repr

namespace Backend

instance : Inhabited Backend := ⟨.capture {}⟩

/-- Registers a batch of views: the refusal if there is one, the backend
afterwards, and what it sends out. -/
def register (b : Backend) (views : List View) : Option RegistrationError × Backend × Traffic :=
  match b with
  | .capture c =>
    let (refusal, c) := c.register views
    (refusal, .capture c, .none)
  | .exporter e =>
    match e.register views with
    | .error refusal => (some refusal, .exporter e, .none)
    | .ok (e, updates) =>
      (none, .exporter e,
        ⟨updates, [⟨.debug, s!"[SVCMON] Described {views.length} views on the metrics recorder"⟩]⟩)

/-- Hands over samples in order: the backend afterwards, and what it sends
out. -/
def submit (b : Backend) (samples : List Sample) : Backend × Traffic :=
  match b with
  | .capture c => (.capture (c.submit samples), .none)
  | .exporter e => (.exporter e, .concat (samples.map e.submit))

/-- Makes the next registration fail; only a capturing backend can. -/
def refuseNext (b : Backend) (e : RegistrationError) : Backend :=
  match b with
  | .capture c => .capture (c.refuseNext e)
  | .exporter x => .exporter x

/-- Forgets the samples that are kept. -/
def clear : Backend → Backend
  | .capture c => .capture c.clear
  | .exporter x => .exporter x

end Backend
end Telemetry
