/-
# The simulated runtime

A runtime that starts up, serves a number of concurrent calls to each of
three actor types, calls another service, and shuts down, with everything it
reports going through one monitor to one exporting backend.

A call is a worker. It counts the request, reports itself as pending, waits
for the lock of its actor type, reports that it is pending no more, counts
the response and lets go of the lock.

Key definitions: `Simulation.worker`, `Simulation.run`, `Simulation.Report`.
-/
import Telemetry.Interleaving
import Telemetry.Snapshot

namespace Telemetry.Simulation

def actorTypes : List String := ["cart", "order", "inventory"]

def callerAppId : String := "frontend"

def downstreamAppId : String := "payments"

/-- One call of an actor. -/
def worker (now : Instant) (actorType : String) : Worker where
  actions :=
    .emit (.requestReceived callerAppId) now :: Action.report actorType 1 ++
      .acquire actorType :: Action.report actorType (-1) ++
      [.emit (.responseSent callerAppId 200) now, .release actorType]

/-- The calls of each actor type. -/
def workers (now : Instant) (calls : Nat) : List Worker :=
  actorTypes.flatMap fun a => List.replicate calls (worker now a)

/-- What is reported on the way up. -/
def startup : List RuntimeEvent :=
  [.mtlsInitialized, .componentLoaded, .componentInitialized "state.redis",
    .componentFailed "pubsub.kafka" "init timeout" "orders-pubsub"] ++
  actorTypes.flatMap (fun a =>
    [.tableOperationReceived a "update", .statusReported a "update", .remindersSet a 1]) ++
  [.requestDecided .app .allowed ⟨callerAppId, "public", "default"⟩]

/-- A unary call of another service, sent at `start`, and a streaming one. -/
def downstream (start : Instant) : List RuntimeEvent :=
  [.requestSent .unary downstreamAppId, .responseReceived downstreamAppId 200 start,
    .requestSent .streaming downstreamAppId, .streamingResponseReceived downstreamAppId 14]

/-- What is reported on the way down. -/
def shutdown : List RuntimeEvent :=
  actorTypes.flatMap fun a => [.reminderFired a true, .actorDeactivated a]

/-- The line that says what came of the settings. -/
def verdict (settings : Settings) : Answer → LogLine
  | .done => ⟨.info, s!"[RUNTIME] Metrics enabled for `{settings.appId}`"⟩
  | .off => ⟨.info, "[RUNTIME] Metrics disabled"⟩
  | .refused e => ⟨.error, s!"[RUNTIME] Continuing without metrics: {e.message}"⟩

/-- A monitor and its backend, both named by the only name there is. -/
abbrev Site := Fleet Unit Unit

def site : Site := ⟨fun _ => .fresh, fun _ => .exporter {}⟩

/-- Reports events one after the other, each at the same reading of the
clock, and gives the traffic. -/
def report (f : Site) (now : Instant) (events : List RuntimeEvent) : Site × Traffic :=
  let (f, outcomes) := f.run (events.map fun e => .record () e now)
  (f, .concat (outcomes.map (·.traffic)))

/-- What a run leaves: the log up to the snapshot, the snapshot, and the log
after it. -/
structure Report where
  before : List LogLine
  snapshot : Snapshot
  after : List LogLine
deriving DecidableEq, Repr

/-- The line on the pending calls of an actor type at the end. -/
def pendingLine (f : Site) (actorType : String) : LogLine :=
  let total := ((f.monitors ()).backlog.total actorType).toInt.repr
  ⟨.info, s!"[RUNTIME] pending calls for `{actorType}`: {total}"⟩

/-- Lines below the level `info` are not shown. -/
def isShown (l : LogLine) : Bool := l.level != .debug

/-- A run with the given number of calls for each actor type, which act as the
schedule says. `start` and `now` are the readings of the clock around the
unary call of the other service. -/
def run (settings : Settings) (calls : Nat) (schedule : List Nat) (start now : Instant) : Report :=
  let (f, enabled) := site.step (.enableWith () () settings)
  let (f, up) := report f start startup
  let (f, served) := f.work () (workers start calls) schedule
  let (f, called) := report f now (downstream start)
  let (f, down) := report f now shutdown
  let traffic := up ++ served.traffic ++ called ++ down
  { before := (enabled.traffic.logs ++ verdict settings enabled.answer :: traffic.logs).filter isShown
    snapshot := .ofUpdates (enabled.traffic.updates ++ traffic.updates)
    after := actorTypes.map (pendingLine f) }

/-- A run in which the calls are served one after the other. -/
def runInOrder (settings : Settings) (calls : Nat) (start now : Instant) : Report :=
  run settings calls (Workload.sequential (workers start calls)) start now

namespace Report

/-- The reading of a series as far as it is the same in every run: times are
measured, so only their number is, and the gauge of pending calls is written
by all calls at once. -/
def steadyText (key : Series) (r : Reading) : String :=
  match r with
  | .records values => s!"Histogram<{values.length.repr}>"
  | _ => if key.name = Instrument.pendingCalls.name then "Gauge<>" else r.text

/-- The lines of the snapshot as far as they are the same in every run. -/
def steadyLines (r : Report) : List String := r.snapshot.linesWith steadyText

end Report
end Telemetry.Simulation
