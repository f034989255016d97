/-
# Traffic

What an operation sends out besides its answer: calls on a metrics recorder
and log lines, each in order.

Key definitions: `Update`, `LogLine`, `Traffic`.
-/
import Telemetry.Instrument
import Telemetry.Binary64.Basic
import Telemetry.Text.Messages

namespace Telemetry

/-- A call on a metrics recorder: a metric is described, or one of its series
is counted up, set or given one more record. -/
inductive Update
  | describe (kind : Kind) (name : String) (measure : Measure) (description : String)
  | increment (name : String) (labels : List Tag) (amount : UInt64)
  | set (name : String) (labels : List Tag) (value : Binary64)
  | record (name : String) (labels : List Tag) (value : Binary64)
deriving DecidableEq, Repr

namespace Update

/-- The metric that is called on. -/
def name : Update → String
  | .describe _ name _ _ => name
  | .increment name _ _ => name
  | .set name _ _ => name
  | .record name _ _ => name

/-- The kind of the metric that is called on. -/
def kind : Update → Kind
  | .describe kind _ _ _ => kind
  | .increment _ _ _ => .counter
  | .set _ _ _ => .gauge
  | .record _ _ _ => .histogram

/-- Whether the metric is described by the call and no series changed. -/
def isDescribe : Update → Bool
  | .describe .. => true
  | _ => false

end Update

inductive Level
  | debug
  | info
  | warn
  | error
deriving DecidableEq, Repr, Inhabited

/-- The name of a level. -/
def Level.name : Level → String
  | .debug => "debug"
  | .info => "info"
  | .warn => "warn"
  | .error => "error"

/-- The name of a level as it stands at the head of a line. -/
def Level.label : Level → String
  | .debug => "DEBUG"
  | .info => "INFO"
  | .warn => "WARN"
  | .error => "ERROR"

/-- One line of the log. -/
structure LogLine where
  level : Level
  message : String
deriving DecidableEq, Repr, Inhabited

/-- The message as it is printed. -/
def LogLine.printed (l : LogLine) : String := inert l.message

/-- The calls and the log lines of an operation. -/
structure Traffic where
  updates : List Update := []
  logs : List LogLine := []
deriving DecidableEq, Repr, Inhabited

namespace Traffic

def none : Traffic := {}

def append (s t : Traffic) : Traffic := ⟨s.updates ++ t.updates, s.logs ++ t.logs⟩

instance : Append Traffic := ⟨append⟩

/-- Traffic in a row. -/
def concat (ts : List Traffic) : Traffic := ⟨ts.flatMap updates, ts.flatMap logs⟩

def log (level : Level) (message : String) : Traffic := ⟨[], [⟨level, message⟩]⟩

@[simp] theorem updates_append (s t : Traffic) : (s ++ t).updates = s.updates ++ t.updates := rfl

@[simp] theorem logs_append (s t : Traffic) : (s ++ t).logs = s.logs ++ t.logs := rfl

@[simp] theorem concat_nil : concat [] = none := rfl

@[simp] theorem concat_cons (t : Traffic) (ts : List Traffic) : concat (t :: ts) = t ++ concat ts := by
  simp only [concat, List.flatMap_cons]
  rfl

end Traffic
end Telemetry
