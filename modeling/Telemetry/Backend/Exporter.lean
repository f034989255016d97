/-
# The exporting backend

Turns samples into calls on a metrics recorder: counts into increments, last
values into settings of a gauge, and the distribution into records of a
histogram. A recorder knows nothing of bucket bounds, so they are kept here.

A batch of views is checked view by view, each against the names registered
and the names accepted before it, and is taken whole or not at all. Only then
are the metrics described and the views kept, each with the target that its
check gave. So a refusal leaves no trace, which the type of `register` says.

Key definitions: `Target`, `View.target`, `Exporter`, `Exporter.accept`,
`Exporter.register`, `Exporter.call?`, `Exporter.submit`.
-/
import Telemetry.Bounds
import Telemetry.Registration
import Telemetry.Sample
import Telemetry.Table
import Telemetry.Traffic

namespace Telemetry

/-- What is wrong with bucket bounds, if anything. -/
def boundsFault? (bounds : List Binary64) : Option AggregationFault :=
  if bounds.isEmpty then some .noBounds
  else if bounds.any fun x => !x.isFinite then some .infiniteBound
  else if !isIncreasing bounds then some .unsortedBounds
  else none

/-- What the samples of a registered view become on the recorder. -/
inductive Target
  | counter
  | gauge
  | histogram
deriving DecidableEq, Repr, Inhabited

namespace View

/-- The target of a view, or what is wrong with its aggregation. -/
def target (v : View) : Except AggregationFault Target :=
  match v.instrument.kind, v.aggregation with
  | .counter, .count => .ok .counter
  | .gauge, .lastValue => .ok .gauge
  | .histogram, .distribution bounds =>
    match boundsFault? bounds with
    | some fault => .error fault
    | none => .ok .histogram
  | kind, aggregation => .error (.mismatch kind aggregation)

/-- The description of a view's metric. -/
def describe (v : View) : Update :=
  .describe v.instrument.kind v.name v.instrument.measure v.instrument.description

end View

/-- What is kept of a registered view. -/
structure Registered where
  target : Target
  bounds? : Option (List Binary64)
deriving DecidableEq, Repr, Inhabited

/-- A backend that reports to a metrics recorder. -/
structure Exporter where
  registered : Table String Registered := {}
deriving DecidableEq, Repr, Inhabited

namespace Exporter

/-- Checks the views of a batch in order and gives their names and targets,
after those accepted before them. A name that is registered or accepted
already comes before a fault of the aggregation. -/
def accept (registered : Table String Registered) (accepted : List (String × Target)) :
    List View → Except RegistrationError (List (String × Target))
  | [] => .ok accepted
  | v :: vs =>
    if registered.contains v.name || accepted.any fun a => a.1 == v.name then
      .error (.duplicateView v.name)
    else
      match v.target with
      | .error fault => .error (.invalidAggregation v.name fault.reason)
      | .ok target => accept registered (accepted ++ [(v.name, target)]) vs

/-- Keeps a view under the name and with the target it was accepted with. -/
def keep (registered : Table String Registered) (p : View × String × Target) :
    Table String Registered :=
  registered.put p.2.1 ⟨p.2.2, p.1.aggregation.bounds?⟩

/-- Takes a batch of views and describes their metrics, or refuses it. -/
def register (e : Exporter) (views : List View) :
    Except RegistrationError (Exporter × List Update) :=
  match accept e.registered [] views with
  | .error refusal => .error refusal
  | .ok accepted => .ok (⟨(views.zip accepted).foldl keep e.registered⟩, views.map View.describe)

/-- The call that a value makes on a metric of the given target. -/
def update (target : Target) (s : Sample) : Update :=
  match target with
  | .counter => .increment s.name s.tags s.value.toCount
  | .gauge => .set s.name s.tags s.value.toBinary64
  | .histogram => .record s.name s.tags s.value.toBinary64

/-- The call that a sample makes; none if its metric is not registered. -/
def call? (e : Exporter) (s : Sample) : Option Update :=
  (e.registered.get? s.name).map fun r => update r.target s

/-- What goes out for a sample. One whose metric is not registered is
dropped. -/
def submit (e : Exporter) (s : Sample) : Traffic :=
  match e.call? s with
  | some update => ⟨[update], []⟩
  | none => .log .debug s!"[SVCMON] Dropping sample for unregistered view `{s.name}`"

/-- The bounds of a registered distribution. -/
def boundsOf (e : Exporter) (name : String) : Option (List Binary64) :=
  (e.registered.get? name).bind Registered.bounds?

/-- The registered names in order. -/
def viewNames (e : Exporter) : List String :=
  e.registered.keys.mergeSort fun a b => decide (a ≤ b)

end Exporter
end Telemetry
