/-
# Views

A view binds an instrument and its dimensions to the way in which a backend
folds its samples. Every instrument has a view of its own: counters are
counted, gauges keep the last value and the histogram is a distribution over
the given bounds.

Key definitions: `Aggregation`, `View`, `Instrument.view`, `View.catalogue`.
-/
import Telemetry.Decimal.Layout
import Telemetry.Instrument

namespace Telemetry

/-- How a backend folds the samples of one view. -/
inductive Aggregation
  | count
  | lastValue
  | distribution (bounds : List Binary64)
deriving DecidableEq, Repr, Inhabited

namespace Aggregation

/-- The upper bounds of a distribution. -/
def bounds? : Aggregation → Option (List Binary64)
  | .distribution bounds => some bounds
  | _ => none

/-- Equal aggregations, the bounds compared as numbers. -/
def eqv : Aggregation → Aggregation → Bool
  | .count, .count => true
  | .lastValue, .lastValue => true
  | .distribution xs, .distribution ys => Binary64.eqvList xs ys
  | _, _ => false

/-- Bounds in messages are written with `.0` on whole numbers, and in exponent
form from 10^16 on and below 10^-4. -/
def boundLayout : Layout := ⟨some (-4, 15), true, false, .up⟩

/-- The name of an aggregation in messages. -/
def text : Aggregation → String
  | .count => "Count"
  | .lastValue => "LastValue"
  | .distribution bounds =>
    "Distribution([" ++ String.intercalate ", " (bounds.map boundLayout.write) ++ "])"

end Aggregation

/-- The name of a kind in messages. -/
def Kind.text : Kind → String
  | .counter => "Counter"
  | .gauge => "Gauge"
  | .histogram => "Histogram"

/-- An instrument, the dimensions of its samples and their aggregation. -/
structure View where
  instrument : Instrument
  tagKeys : List TagKey
  aggregation : Aggregation
deriving DecidableEq, Repr, Inhabited

namespace View

/-- A view is known by the name of its instrument. -/
def name (v : View) : String := v.instrument.name

/-- Equal views, the bounds compared as numbers. -/
def eqv (v w : View) : Bool :=
  v.instrument == w.instrument && v.tagKeys == w.tagKeys && v.aggregation.eqv w.aggregation

end View

/-- The aggregation that goes with a kind; only a histogram takes the
bounds. -/
def Kind.aggregation (bounds : List Binary64) : Kind → Aggregation
  | .counter => .count
  | .gauge => .lastValue
  | .histogram => .distribution bounds

/-- The view of an instrument, with its declared dimensions. -/
def Instrument.view (i : Instrument) (bounds : List Binary64) : View :=
  ⟨i, i.tagKeys, i.kind.aggregation bounds⟩

/-- One view per instrument, in the order of the catalogue. -/
def View.catalogue (bounds : List Binary64) : List View :=
  Instrument.all.map fun i => i.view bounds

@[simp] theorem View.map_name_catalogue (bounds : List Binary64) :
    (View.catalogue bounds).map View.name = Instrument.all.map Instrument.name := by
  simp [View.catalogue, Instrument.view, View.name]

end Telemetry
