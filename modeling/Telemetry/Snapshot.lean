/-
# Snapshots of a metrics recorder

What a metrics recorder that only keeps things holds after some calls: for
every series, that is a metric with its labels, the count, the last value or
the records, and for every described metric its unit.

Key definitions: `Series`, `Reading`, `Snapshot`, `Snapshot.absorb`,
`Snapshot.lines`.
-/
import Telemetry.Table
import Telemetry.Traffic
import Telemetry.View

namespace Telemetry

/-- A metric with its labels. Metrics of different kinds are different even
if they share the name. -/
structure Series where
  kind : Kind
  name : String
  labels : List Tag
deriving DecidableEq, Repr

/-- What is held of a series. -/
inductive Reading
  | count (total : UInt64)
  | level (value : Binary64)
  | records (values : List Binary64)
deriving DecidableEq, Repr, Inhabited

/-- What is held of all series, and the units of the described metrics. -/
structure Snapshot where
  measures : Table (Kind × String) Measure := {}
  series : Table Series Reading := {}
deriving DecidableEq, Repr, Inhabited

namespace Reading

/-- Values in a snapshot are laid out like bounds in messages. -/
def valueLayout : Layout := Aggregation.boundLayout

def text : Reading → String
  | .count total => s!"Counter({total.toNat.repr})"
  | .level value => s!"Gauge({valueLayout.write value})"
  | .records values =>
    "Histogram([" ++ String.intercalate ", " (values.map valueLayout.write) ++ "])"

end Reading

namespace Snapshot

def empty : Snapshot := {}

/-- The snapshot after one more call. Counts wrap at 2^64. -/
def absorb (s : Snapshot) (u : Update) : Snapshot :=
  match u with
  | .describe kind name measure _ => { s with measures := s.measures.put (kind, name) measure }
  | .increment name labels amount =>
    let key : Series := ⟨.counter, name, labels⟩
    let total := match s.series.get? key with
      | some (.count n) => n + amount
      | _ => amount
    { s with series := s.series.put key (.count total) }
  | .set name labels value =>
    { s with series := s.series.put ⟨.gauge, name, labels⟩ (.level value) }
  | .record name labels value =>
    let key : Series := ⟨.histogram, name, labels⟩
    let values := match s.series.get? key with
      | some (.records xs) => xs ++ [value]
      | _ => [value]
    { s with series := s.series.put key (.records values) }

/-- What is held after all these calls. -/
def ofUpdates (updates : List Update) : Snapshot := updates.foldl absorb empty

/-- The unit of a series as it is written after its reading: nothing for
numbers without one. -/
def unitText (s : Snapshot) (key : Series) : String :=
  match s.measures.get? (key.kind, key.name) with
  | some .milliseconds => " ms"
  | _ => ""

/-- The labels of a series, between braces. -/
def labelText (key : Series) : String :=
  "\x7b" ++ String.intercalate "," (key.labels.map fun t => t.key.name ++ "=" ++ t.value) ++ "\x7d"

/-- The line of each series as it is printed, in the order of the printed text,
the reading written as given. -/
def linesWith (s : Snapshot) (write : Series → Reading → String) : List String :=
  let lines := s.series.entries.map fun e =>
    inert (e.1.name ++ " " ++ labelText e.1 ++ " " ++ write e.1 e.2 ++ s.unitText e.1)
  lines.mergeSort fun a b => decide (a ≤ b)

def lines (s : Snapshot) : List String := s.linesWith fun _ r => r.text

end Snapshot
end Telemetry
