/-
# Monitors

A monitor turns runtime events into samples. It starts disabled, and then
drops every event without a trace. It is enabled once, by registering the
view of every instrument with a backend; from then on it has an application
id and that backend, and nothing takes them away.

The pending calls are kept by the monitor, and only events of an enabled
monitor change them.

Key definitions: `Monitor`, `Monitor.enable`, `Monitor.enableWith`, `Monitor.record`.
-/
import Telemetry.Backend
import Telemetry.RuntimeEvent
import Telemetry.Settings

namespace Telemetry

/-- What an enabled monitor has: its application id and the name of its
backend. -/
structure Active (β : Type) where
  appId : String
  backend : β
deriving DecidableEq, Repr

/-- The source of an application's samples. `β` names the backends. -/
structure Monitor (β : Type) where
  active? : Option (Active β) := none
  backlog : Backlog := {}
deriving DecidableEq, Repr

/-- The answer to an operation. -/
inductive Answer
  | done
  /-- The settings have metrics off, so nothing was done. -/
  | off
  | refused (e : RegistrationError)
deriving DecidableEq, Repr, Inhabited

/-- What an attempt to enable a monitor leads to. -/
structure Attempt (β : Type) where
  monitor : Monitor β
  backend : Backend
  answer : Answer
  traffic : Traffic
deriving DecidableEq, Repr

namespace Monitor

variable {β : Type}

/-- A monitor that was never enabled. -/
def fresh : Monitor β := {}

instance : Inhabited (Monitor β) := ⟨fresh⟩

def isEnabled (m : Monitor β) : Bool := m.active?.isSome

def appId? (m : Monitor β) : Option String := m.active?.map (·.appId)

/-- Registers the view of every instrument with the backend of the given name
and turns recording on. An enabled monitor refuses, without a call on the
backend; a refusal of the backend leaves the monitor as it was. -/
def enable (m : Monitor β) (name : β) (backend : Backend) (appId : String)
    (bounds : List Binary64) : Attempt β :=
  if m.isEnabled then
    ⟨m, backend, .refused .alreadyEnabled,
      .log .warn "[SVCMON] Metrics recorder initialized more than once"⟩
  else
    let views := View.catalogue bounds
    match backend.register views with
    | (some e, backend, traffic) =>
      ⟨m, backend, .refused e, traffic ++
        .log .error s!"[SVCMON] Failed to register metric views for `{appId}`: {e.message}"⟩
    | (none, backend, traffic) =>
      ⟨{ m with active? := some ⟨appId, name⟩ }, backend, .done, traffic ++
        .log .info s!"[SVCMON] Registered {views.length} metric views for `{appId}`"⟩

/-- Enables a monitor as the settings say, which may be not at all. -/
def enableWith (m : Monitor β) (name : β) (backend : Backend) (settings : Settings) : Attempt β :=
  if settings.enabled then m.enable name backend settings.appId settings.bounds
  else
    ⟨m, backend, .off, .log .info s!"[SVCMON] Metrics disabled for `{settings.appId}`"⟩

/-- The monitor after an event, and the samples for its backend. -/
def record (m : Monitor β) (event : RuntimeEvent) (now : Instant) : Monitor β × List Sample :=
  match m.active? with
  | none => (m, [])
  | some a =>
    let backlog := event.updateBacklog m.backlog
    ({ m with backlog := backlog }, event.samples a.appId now backlog)

end Monitor
end Telemetry
