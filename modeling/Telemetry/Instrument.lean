/-
# The instruments a service runtime reports

The catalogue is closed: twenty-seven instruments, each with the name under
which it is exported, a description, a kind and the ordered dimensions that
every sample of it carries. The names and kinds are what dashboards rely on.
Latency is the one histogram and the one instrument with a unit.

Key definitions: `Instrument`, `Instrument.spec`, `Instrument.all`.
Key theorems: `Instrument.mem_all`, `Instrument.name_injective`.
-/
import Telemetry.Tag

namespace Telemetry

/-- How the samples of an instrument are read: counts add up, the last value
of a gauge stands, and a histogram is a distribution. -/
inductive Kind
  | counter
  | gauge
  | histogram
deriving DecidableEq, Repr, Inhabited

/-- The unit of a recorded value. -/
inductive Measure
  | dimensionless
  | milliseconds
deriving DecidableEq, Repr, Inhabited

/-- The short name of a unit. -/
def Measure.symbol : Measure → String
  | .dimensionless => "1"
  | .milliseconds => "ms"

/-- The declaration of an instrument. -/
structure Spec where
  name : String
  description : String
  measure : Measure
  kind : Kind
  tagKeys : List TagKey
deriving DecidableEq, Repr

namespace Spec

def counter (name description : String) (tagKeys : List TagKey) : Spec :=
  ⟨name, description, .dimensionless, .counter, tagKeys⟩

def gauge (name description : String) (tagKeys : List TagKey) : Spec :=
  ⟨name, description, .dimensionless, .gauge, tagKeys⟩

/-- A histogram of durations. -/
def histogram (name description : String) (tagKeys : List TagKey) : Spec :=
  ⟨name, description, .milliseconds, .histogram, tagKeys⟩

end Spec

/-- What a service runtime reports: the life of its components and of its
certificates, its actors, the decisions of its access control, and the
invocations between services. -/
inductive Instrument
  | componentLoaded
  | componentInitialized
  | componentFailed
  | mtlsInitialized
  | mtlsFailed
  | certificateRotated
  | certificateRotationFailed
  | statusReported
  | statusReportFailed
  | tableOperationReceived
  | actorRebalanced
  | actorDeactivated
  | actorDeactivationFailed
  | pendingCalls
  | timers
  | reminders
  | reminderFired
  | timerFired
  | allowedByApp
  | allowedGlobally
  | blockedByApp
  | blockedGlobally
  | requestSent
  | requestReceived
  | responseSent
  | responseReceived
  | responseLatency
deriving DecidableEq, Repr, Inhabited

namespace Instrument

/-- The declaration of each instrument. -/
def spec : Instrument → Spec
  | .componentLoaded => .counter "runtime/component/loaded"
      "The number of successfully loaded components."
      [.appId]
  | .componentInitialized => .counter "runtime/component/init_total"
      "The number of initialized components."
      [.appId, .component]
  | .componentFailed => .counter "runtime/component/init_fail_total"
      "The number of component initialization failures."
      [.appId, .component, .failReason, .componentName]
  | .mtlsInitialized => .counter "runtime/mtls/init_total"
      "The number of successful mTLS authenticator initialization."
      [.appId]
  | .mtlsFailed => .counter "runtime/mtls/init_fail_total"
      "The number of mTLS authenticator init failures."
      [.appId, .failReason]
  | .certificateRotated => .counter "runtime/mtls/workload_cert_rotated_total"
      "The number of the successful workload certificate rotations."
      [.appId]
  | .certificateRotationFailed => .counter "runtime/mtls/workload_cert_rotated_fail_total"
      "The number of the failed workload certificate rotations."
      [.appId, .failReason]
  | .statusReported => .counter "runtime/actor/status_report_total"
      "The number of the successful status reports to placement service."
      [.appId, .actorType, .operation]
  | .statusReportFailed => .counter "runtime/actor/status_report_fail_total"
      "The number of the failed status reports to placement service."
      [.appId, .actorType, .operation, .failReason]
  | .tableOperationReceived => .counter "runtime/actor/table_operation_recv_total"
      "The number of the received actor placement table operations."
      [.appId, .actorType, .operation]
  | .actorRebalanced => .counter "runtime/actor/rebalanced_total"
      "The number of the actor rebalance requests."
      [.appId, .actorType]
  | .actorDeactivated => .counter "runtime/actor/deactivated_total"
      "The number of the successful actor deactivation."
      [.appId, .actorType]
  | .actorDeactivationFailed => .counter "runtime/actor/deactivated_failed_total"
      "The number of the failed actor deactivation."
      [.appId, .actorType, .failReason]
  | .pendingCalls => .gauge "runtime/actor/pending_actor_calls"
      "The number of pending actor calls waiting to acquire the per-actor lock."
      [.appId, .actorType]
  | .timers => .gauge "runtime/actor/timers"
      "The number of actor timer requests."
      [.appId, .actorType]
  | .reminders => .gauge "runtime/actor/reminders"
      "The number of actor reminder requests."
      [.appId, .actorType]
  | .reminderFired => .counter "runtime/actor/reminders_fired_total"
      "The number of actor reminders fired requests."
      [.appId, .actorType, .success]
  | .timerFired => .counter "runtime/actor/timers_fired_total"
      "The number of actor timers fired requests."
      [.appId, .actorType, .success]
  | .allowedByApp => .counter "runtime/acl/app_policy_action_allowed_total"
      "The number of requests allowed by the app specific action specified in the access control policy."
      [.appId, .trustDomain, .space]
  | .allowedGlobally => .counter "runtime/acl/global_policy_action_allowed_total"
      "The number of requests allowed by the global action specified in the access control policy."
      [.appId, .trustDomain, .space]
  | .blockedByApp => .counter "runtime/acl/app_policy_action_blocked_total"
      "The number of requests blocked by the app specific action specified in the access control policy."
      [.appId, .trustDomain, .space]
  | .blockedGlobally => .counter "runtime/acl/global_policy_action_blocked_total"
      "The number of requests blocked by the global action specified in the access control policy."
      [.appId, .trustDomain, .space]
  | .requestSent => .counter "runtime/service_invocation/req_sent_total"
      "The number of requests sent via service invocation."
      [.appId, .destinationAppId, .exchange]
  | .requestReceived => .counter "runtime/service_invocation/req_recv_total"
      "The number of requests received via service invocation."
      [.appId, .sourceAppId]
  | .responseSent => .counter "runtime/service_invocation/res_sent_total"
      "The number of responses sent via service invocation."
      [.appId, .destinationAppId, .status]
  | .responseReceived => .counter "runtime/service_invocation/res_recv_total"
      "The number of responses received via service invocation."
      [.appId, .sourceAppId, .status, .exchange]
  | .responseLatency => .histogram "runtime/service_invocation/res_recv_latency_ms"
      "The latency of service invocation response."
      [.appId, .sourceAppId, .status]

def name (i : Instrument) : String := i.spec.name
def description (i : Instrument) : String := i.spec.description
def measure (i : Instrument) : Measure := i.spec.measure
def kind (i : Instrument) : Kind := i.spec.kind
def tagKeys (i : Instrument) : List TagKey := i.spec.tagKeys

/-- Every instrument, in the order of the catalogue. -/
def all : List Instrument :=
  [.componentLoaded, .componentInitialized, .componentFailed, .mtlsInitialized, .mtlsFailed,
    .certificateRotated, .certificateRotationFailed, .statusReported,
    .statusReportFailed, .tableOperationReceived, .actorRebalanced, .actorDeactivated,
    .actorDeactivationFailed, .pendingCalls, .timers, .reminders, .reminderFired,
    .timerFired, .allowedByApp, .allowedGlobally, .blockedByApp, .blockedGlobally,
    .requestSent, .requestReceived, .responseSent, .responseReceived, .responseLatency]

theorem mem_all (i : Instrument) : i ∈ all := by cases i <;> decide

theorem nodup_all : all.Nodup := by decide

theorem name_injective {i j : Instrument} (h : i.name = j.name) : i = j := by
  have : ∀ i ∈ all, ∀ j ∈ all, i.name = j.name → i = j := by decide +kernel
  exact this i (mem_all i) j (mem_all j) h

end Instrument
end Telemetry
