/-
# What a settings document sets

The members that a document has, and the settings and the draft that they
make. An empty application id in a document is the same as none.

Key definitions: `Fields`, `Fields.toSettings`, `Fields.toDraft`.
-/
import Telemetry.Document.ReadError
import Telemetry.Settings

namespace Telemetry.Document

/-- The members that a document sets. -/
structure Fields where
  enabled? : Option Bool := none
  appId? : Option String := none
  bounds? : Option (List Binary64) := none
deriving DecidableEq, Repr, Inhabited

namespace Fields

def has (got : Fields) : Field → Bool
  | .enabled => got.enabled?.isSome
  | .appId => got.appId?.isSome
  | .bounds => got.bounds?.isSome

/-- The settings with what is missing filled in: metrics on, an empty
application id, the default bounds. -/
def toSettings (got : Fields) : Settings :=
  ⟨got.enabled?.getD true, got.appId?.getD "", got.bounds?.getD defaultBounds⟩

/-- The draft that a document makes. An empty application id leaves it
open. -/
def toDraft (got : Fields) : Draft :=
  let settings := got.toSettings
  ⟨settings.enabled, if settings.appId = "" then none else some settings.appId, settings.bounds⟩

end Fields

end Telemetry.Document
