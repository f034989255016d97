/-
# Runtime events

What the components of a service runtime report, and the samples that each
event becomes. An event is one measurement on one instrument, whose dimensions
are the application's id and the arguments of the event; a unary response is two,
its count and then its latency. Access control decisions are tagged with the
caller's application, not with the reporting one.

Key definitions: `RuntimeEvent`, `RuntimeEvent.measurements`, `RuntimeEvent.samples`,
`RuntimeEvent.updateBacklog`.
-/
import Telemetry.Backlog
import Telemetry.Clock
import Telemetry.Sample

namespace Telemetry

/-- Who makes a request, as established when the connection was secured. -/
structure Caller where
  appId : String
  trustDomain : String
  space : String
deriving DecidableEq, Repr, Inhabited

/-- Which action of the access control policy decides. -/
inductive PolicyScope
  | app
  | global
deriving DecidableEq, Repr, Inhabited

inductive Decision
  | allowed
  | blocked
deriving DecidableEq, Repr, Inhabited

/-- The two forms of a service invocation. -/
inductive Exchange
  | unary
  | streaming
deriving DecidableEq, Repr, Inhabited

/-- The value of the dimension `type`. -/
def Exchange.tagValue : Exchange → String
  | .unary => "unary"
  | .streaming => "streaming"

/-- The value of the dimension `success`. -/
def successTag : Bool → String
  | true => "true"
  | false => "false"

/-- The value of the dimension `status`: the decimal digits, after a minus
sign if it is negative. -/
def statusTag (status : Int32) : String := status.toInt.repr

/-- Something that a component of the runtime reports. -/
inductive RuntimeEvent
  | componentLoaded
  | componentInitialized (component : String)
  | componentFailed (component reason name : String)
  | mtlsInitialized
  | mtlsFailed (reason : String)
  | certificateRotated
  | certificateRotationFailed (reason : String)
  | statusReported (actorType operation : String)
  | statusReportFailed (actorType operation reason : String)
  | tableOperationReceived (actorType operation : String)
  | actorRebalanced (actorType : String)
  | actorDeactivated (actorType : String)
  | actorDeactivationFailed (actorType reason : String)
  | reminderFired (actorType : String) (success : Bool)
  | timerFired (actorType : String) (success : Bool)
  /-- The number of reminders that are registered now. -/
  | remindersSet (actorType : String) (count : Int64)
  /-- The number of timers that are registered now. -/
  | timersSet (actorType : String) (count : Int64)
  /-- A change of the number of calls that wait for an actor's lock. -/
  | pendingCallsChanged (actorType : String) (delta : Int32)
  | requestDecided (scope : PolicyScope) (decision : Decision) (caller : Caller)
  | requestSent (exchange : Exchange) (destination : String)
  | requestReceived (source : String)
  | responseSent (destination : String) (status : Int32)
  /-- The response to a unary request that was sent at `start`. -/
  | responseReceived (source : String) (status : Int32) (start : Instant)
  /-- A streaming response; its latency is not measured. -/
  | streamingResponseReceived (source : String) (status : Int32)
deriving DecidableEq, Repr

/-- The counter of a policy decision. -/
def PolicyScope.instrument : PolicyScope → Decision → Instrument
  | .app, .allowed => .allowedByApp
  | .app, .blocked => .blockedByApp
  | .global, .allowed => .allowedGlobally
  | .global, .blocked => .blockedGlobally

namespace RuntimeEvent

/-- The pending calls after the event. -/
def updateBacklog : RuntimeEvent → Backlog → Backlog
  | .pendingCallsChanged actorType delta, b => b.add actorType delta
  | _, b => b

/-- The gauge of pending calls carries the running total, never the change. -/
def pendingTotal (appId actorType : String) (total : Int32) : Measurement :=
  ⟨.pendingCalls, [appId, actorType], .int total.toInt64⟩

@[simp]
theorem instrument_pendingTotal (appId actorType : String) (total : Int32) :
    (pendingTotal appId actorType total).instrument = .pendingCalls := rfl

def pendingSample (appId actorType : String) (total : Int32) : Sample :=
  (pendingTotal appId actorType total).sample

/-- What is measured for an event that an application reports at `now`, when
`backlog` holds the pending calls after it. -/
def measurements (appId : String) (now : Instant) (backlog : Backlog) :
    RuntimeEvent → List Measurement
  | .componentLoaded => [.count .componentLoaded [appId]]
  | .componentInitialized component => [.count .componentInitialized [appId, component]]
  | .componentFailed component reason name =>
    [.count .componentFailed [appId, component, reason, name]]
  | .mtlsInitialized => [.count .mtlsInitialized [appId]]
  | .mtlsFailed reason => [.count .mtlsFailed [appId, reason]]
  | .certificateRotated => [.count .certificateRotated [appId]]
  | .certificateRotationFailed reason => [.count .certificateRotationFailed [appId, reason]]
  | .statusReported actorType operation => [.count .statusReported [appId, actorType, operation]]
  | .statusReportFailed actorType operation reason =>
    [.count .statusReportFailed [appId, actorType, operation, reason]]
  | .tableOperationReceived actorType operation =>
    [.count .tableOperationReceived [appId, actorType, operation]]
  | .actorRebalanced actorType => [.count .actorRebalanced [appId, actorType]]
  | .actorDeactivated actorType => [.count .actorDeactivated [appId, actorType]]
  | .actorDeactivationFailed actorType reason =>
    [.count .actorDeactivationFailed [appId, actorType, reason]]
  | .reminderFired actorType success =>
    [.count .reminderFired [appId, actorType, successTag success]]
  | .timerFired actorType success => [.count .timerFired [appId, actorType, successTag success]]
  | .remindersSet actorType n => [⟨.reminders, [appId, actorType], .int n⟩]
  | .timersSet actorType n => [⟨.timers, [appId, actorType], .int n⟩]
  | .pendingCallsChanged actorType _ => [pendingTotal appId actorType (backlog.total actorType)]
  | .requestDecided scope decision caller =>
    [.count (scope.instrument decision) [caller.appId, caller.trustDomain, caller.space]]
  | .requestSent exchange destination =>
    [.count .requestSent [appId, destination, exchange.tagValue]]
  | .requestReceived source => [.count .requestReceived [appId, source]]
  | .responseSent destination status =>
    [.count .responseSent [appId, destination, statusTag status]]
  | .responseReceived source status start =>
    [.count .responseReceived [appId, source, statusTag status, Exchange.unary.tagValue],
      ⟨.responseLatency, [appId, source, statusTag status], .float (elapsedMillis start now)⟩]
  | .streamingResponseReceived source status =>
    [.count .responseReceived [appId, source, statusTag status, Exchange.streaming.tagValue]]

/-- The samples of an event that an application reports at `now`, when
`backlog` holds the pending calls after it. -/
def samples (appId : String) (now : Instant) (backlog : Backlog) (event : RuntimeEvent) :
    List Sample :=
  (event.measurements appId now backlog).map Measurement.sample

end RuntimeEvent
end Telemetry
