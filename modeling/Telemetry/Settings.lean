/-
# Metrics settings

Whether metrics are on, the application id that tags the samples, and the
latency bounds. Settings are built from a draft, in which each choice may be
left open; building checks the draft and fills what is open. The first
problem found is the one reported: the application id, then the bounds as a
whole, then the first bad bound, then their order.

Key definitions: `Settings`, `Draft`, `Draft.problem?`, `Draft.build`.
-/
import Telemetry.Bounds
import Telemetry.Decimal.Layout
import Telemetry.Text.Classes

namespace Telemetry

/-- The metrics settings of a process. -/
structure Settings where
  enabled : Bool
  appId : String
  bounds : List Binary64
deriving DecidableEq, Repr, Inhabited

namespace Settings

/-- Equal settings, the bounds compared as numbers. -/
def eqv (s t : Settings) : Bool :=
  s.enabled == t.enabled && s.appId == t.appId && Binary64.eqvList s.bounds t.bounds

end Settings

/-- Why a draft does not make settings. -/
inductive SettingsError
  | blankAppId
  | noBounds
  | badBound (bound : Binary64)
  | unsortedBounds
deriving DecidableEq, Repr, Inhabited

namespace SettingsError

/-- A bad bound is written positionally whatever its size, without `.0`. -/
def boundLayout : Layout := ⟨none, false, false, .up⟩

def message : SettingsError → String
  | .blankAppId => "app id is empty"
  | .noBounds => "latency buckets are not set"
  | .badBound bound => s!"latency bucket bound {boundLayout.write bound} must be finite and positive"
  | .unsortedBounds => "latency buckets must be strictly increasing"

end SettingsError

/-- Settings in the making. -/
structure Draft where
  enabled : Bool := true
  /-- The host's name is used if there is none. -/
  appId? : Option String := none
  bounds : List Binary64 := defaultBounds
deriving DecidableEq, Repr, Inhabited

/-- One choice made on a draft. -/
inductive Choice
  | enabled (on : Bool)
  | appId (id : String)
  | bounds (bounds : List Binary64)
deriving DecidableEq, Repr

namespace Draft

/-- The draft in which everything is open. -/
def blank : Draft := {}

/-- Replaces what the draft had of this kind. -/
def choose (d : Draft) : Choice → Draft
  | .enabled on => { d with enabled := on }
  | .appId id => { d with appId? := some id }
  | .bounds bounds => { d with bounds := bounds }

/-- A draft with these choices made in order. -/
def ofChoices (choices : List Choice) : Draft := choices.foldl choose blank

/-- Whether a bound is a positive number. -/
def isGoodBound (x : Binary64) : Bool := x.isFinite && !x.le .zero

/-- The first problem of a draft. -/
def problem? (d : Draft) : Option SettingsError :=
  if d.appId?.any isBlankText then some .blankAppId
  else if d.bounds.isEmpty then some .noBounds
  else
    match d.bounds.find? fun x => !isGoodBound x with
    | some x => some (.badBound x)
    | none => if isIncreasing d.bounds then none else some .unsortedBounds

/-- The settings of a draft, on a host of the given name. -/
def build (host : String) (d : Draft) : Except SettingsError Settings :=
  match d.problem? with
  | some e => .error e
  | none => .ok ⟨d.enabled, d.appId?.getD host, d.bounds⟩

end Draft
end Telemetry
