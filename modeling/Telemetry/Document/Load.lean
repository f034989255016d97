/-
# Settings from a document

A document is read and then built like any draft, so it fails either as a
document or as settings.

Key definitions: `LoadError`, `Settings.load`.
-/
import Telemetry.Document.State

namespace Telemetry

/-- Why settings cannot be loaded from a document. -/
inductive LoadError
  | unreadable (e : Document.ReadError)
  | invalid (e : SettingsError)
deriving DecidableEq, Repr

def LoadError.message : LoadError → String
  | .unreadable _ => "unable to parse metrics config"
  | .invalid e => e.message

/-- The settings that a document writes, on a host of the given name. -/
def Settings.load (host document : String) : Except LoadError Settings :=
  match Document.read document with
  | .error e => .error (.unreadable e)
  | .ok got =>
    match got.toDraft.build host with
    | .error e => .error (.invalid e)
    | .ok settings => .ok settings

end Telemetry
