/-
# The log of samples determines the events

The samples that a capturing backend keeps from one monitor are those of the
events reported to it, one after the other (`Fleet.kept?_run_recordings`). From
such a log the events can be read off again. The first sample of an event tells
all of it but the reading of the clock at which it began
(`RuntimeEvent.measurements_cons`): the instrument and the tags tell which event
it is, and for a change of the pending calls the running totals before and after
it differ by the change. It also tells how many samples the event has, so what
is left of the log begins with the next one (`nextEvent?_samples`).

Key definitions: `RuntimeEvent.withoutStart`, `Sample.withoutLatency`,
`Measurement.event?`, `nextEvent?`, `RuntimeEvent.log`.
Key theorems: `RuntimeEvent.measurements_cons`, `nextEvent?_samples`,
`RuntimeEvent.log_inj`, `Fleet.kept?_run_recordings`, `Fleet.log_determines_events`.
-/
import Mathlib
import Telemetry.Proofs.Dimensions

namespace Telemetry

/-! ### What is compared -/

/-- The event without the reading of the clock at which it began. -/
def RuntimeEvent.withoutStart : RuntimeEvent → RuntimeEvent
  | .responseReceived source status _ => .responseReceived source status ⟨0⟩
  | event => event

/-- The sample, its value left out if it is a latency. -/
def Sample.withoutLatency (s : Sample) : Sample :=
  if s.name = Instrument.responseLatency.name then { s with value := .float .zero } else s

theorem RuntimeEvent.updateBacklog_withoutStart (event : RuntimeEvent) :
    event.withoutStart.updateBacklog = event.updateBacklog := by
  cases event <;> rfl

/-! ### An event from its first sample -/

def Exchange.ofTagValue? (text : String) : Option Exchange :=
  if text = "unary" then some .unary else if text = "streaming" then some .streaming else none

theorem Exchange.ofTagValue?_tagValue (e : Exchange) : ofTagValue? e.tagValue = some e := by
  cases e <;> rfl

def successOf? (text : String) : Option Bool :=
  if text = "true" then some true else if text = "false" then some false else none

theorem successOf?_successTag (success : Bool) : successOf? (successTag success) = some success := by
  cases success <;> rfl

/-- The status with the given decimal digits. -/
def statusOf? (text : String) : Option Int32 := text.toInt?.map Int32.ofInt

theorem statusOf?_statusTag (status : Int32) : statusOf? (statusTag status) = some status := by
  rw [statusOf?, statusTag, Int.toInt?_repr, Option.map_some, Int32.ofInt_toInt]

/-- The response that is counted with the given status and exchange. -/
def RuntimeEvent.response (source : String) (status : Int32) : Exchange → RuntimeEvent
  | .unary => .responseReceived source status ⟨0⟩
  | .streaming => .streamingResponseReceived source status

/-- The event of which this is the first measurement. `before` holds the pending
calls before the event. -/
def Measurement.event? (before : Backlog) (r : Measurement) : Option RuntimeEvent :=
  match r.instrument, r.tagValues, r.value with
  | .componentLoaded, _, _ => some .componentLoaded
  | .componentInitialized, [_, component], _ => some (.componentInitialized component)
  | .componentFailed, [_, component, reason, name], _ =>
    some (.componentFailed component reason name)
  | .mtlsInitialized, _, _ => some .mtlsInitialized
  | .mtlsFailed, [_, reason], _ => some (.mtlsFailed reason)
  | .certificateRotated, _, _ => some .certificateRotated
  | .certificateRotationFailed, [_, reason], _ => some (.certificateRotationFailed reason)
  | .statusReported, [_, actorType, operation], _ => some (.statusReported actorType operation)
  | .statusReportFailed, [_, actorType, operation, reason], _ =>
    some (.statusReportFailed actorType operation reason)
  | .tableOperationReceived, [_, actorType, operation], _ =>
    some (.tableOperationReceived actorType operation)
  | .actorRebalanced, [_, actorType], _ => some (.actorRebalanced actorType)
  | .actorDeactivated, [_, actorType], _ => some (.actorDeactivated actorType)
  | .actorDeactivationFailed, [_, actorType, reason], _ =>
    some (.actorDeactivationFailed actorType reason)
  | .reminderFired, [_, actorType, success], _ => (successOf? success).map (.reminderFired actorType)
  | .timerFired, [_, actorType, success], _ => (successOf? success).map (.timerFired actorType)
  | .reminders, [_, actorType], .int n => some (.remindersSet actorType n)
  | .timers, [_, actorType], .int n => some (.timersSet actorType n)
  | .pendingCalls, [_, actorType], .int total =>
    some (.pendingCallsChanged actorType (total.toInt32 - before.total actorType))
  | .allowedByApp, [appId, trustDomain, space], _ =>
    some (.requestDecided .app .allowed ⟨appId, trustDomain, space⟩)
  | .allowedGlobally, [appId, trustDomain, space], _ =>
    some (.requestDecided .global .allowed ⟨appId, trustDomain, space⟩)
  | .blockedByApp, [appId, trustDomain, space], _ =>
    some (.requestDecided .app .blocked ⟨appId, trustDomain, space⟩)
  | .blockedGlobally, [appId, trustDomain, space], _ =>
    some (.requestDecided .global .blocked ⟨appId, trustDomain, space⟩)
  | .requestSent, [_, destination, exchange], _ =>
    (Exchange.ofTagValue? exchange).map fun e => .requestSent e destination
  | .requestReceived, [_, source], _ => some (.requestReceived source)
  | .responseSent, [_, destination, status], _ =>
    (statusOf? status).map (.responseSent destination)
  | .responseReceived, [_, source, status, exchange], _ =>
    (statusOf? status).bind fun n => (Exchange.ofTagValue? exchange).map (.response source n)
  | _, _, _ => none

/-- No event begins with its latency. -/
theorem Measurement.instrument_ne_of_event? {before : Backlog} {r : Measurement}
    {event : RuntimeEvent} (h : r.event? before = some event) : r.instrument ≠ .responseLatency := by
  intro hi
  have hnone : r.event? before = none := by
    obtain ⟨i, tagValues, value⟩ := r
    subst hi
    rfl
  rw [hnone] at h
  cases h

/-- How many samples an event has after its first one. -/
def RuntimeEvent.later : RuntimeEvent → ℕ
  | .responseReceived .. => 1
  | _ => 0

/-- The first measurement of an event tells the event. -/
theorem RuntimeEvent.measurements_cons (appId : String) (now : Instant) (before : Backlog)
    (event : RuntimeEvent) :
    ∃ r rest, event.measurements appId now (event.updateBacklog before) = r :: rest ∧
      rest.length = event.later ∧ r.event? before = some event.withoutStart := by
  cases event
  case pendingCallsChanged actorType delta =>
    refine ⟨_, _, rfl, rfl, ?_⟩
    have hdelta : ((before.add actorType delta).total actorType).toInt64.toInt32 -
        before.total actorType = delta := by
      rw [Int32.toInt32_toInt64, Backlog.total_add, if_pos rfl]
      grind
    show some (pendingCallsChanged actorType _) = _
    rw [updateBacklog, hdelta]
    rfl
  case requestDecided scope decision caller =>
    cases scope <;> cases decision <;> exact ⟨_, _, rfl, rfl, rfl⟩
  case reminderFired actorType success =>
    refine ⟨_, _, rfl, rfl, ?_⟩
    show (successOf? (successTag success)).map _ = _
    rw [successOf?_successTag]
    rfl
  case timerFired actorType success =>
    refine ⟨_, _, rfl, rfl, ?_⟩
    show (successOf? (successTag success)).map _ = _
    rw [successOf?_successTag]
    rfl
  case requestSent exchange destination =>
    refine ⟨_, _, rfl, rfl, ?_⟩
    show (Exchange.ofTagValue? exchange.tagValue).map _ = _
    rw [Exchange.ofTagValue?_tagValue]
    rfl
  case responseSent destination status =>
    refine ⟨_, _, rfl, rfl, ?_⟩
    show (statusOf? (statusTag status)).map _ = _
    rw [statusOf?_statusTag]
    rfl
  case responseReceived source status start =>
    refine ⟨_, _, rfl, rfl, ?_⟩
    show (statusOf? (statusTag status)).bind _ = _
    rw [statusOf?_statusTag, Option.bind_some, Exchange.ofTagValue?_tagValue]
    rfl
  case streamingResponseReceived source status =>
    refine ⟨_, _, rfl, rfl, ?_⟩
    show (statusOf? (statusTag status)).bind _ = _
    rw [statusOf?_statusTag, Option.bind_some, Exchange.ofTagValue?_tagValue]
    rfl
  all_goals exact ⟨_, _, rfl, rfl, rfl⟩

/-! ### The first event of a log -/

/-- The measurement that a sample carries. -/
def Sample.measurement? (s : Sample) : Option Measurement :=
  (Instrument.all.find? fun i => i.name = s.name).map fun i => ⟨i, s.tags.map Tag.value, s.value⟩

theorem Measurement.measurement?_sample {r : Measurement}
    (hlen : r.tagValues.length = r.instrument.tagKeys.length) :
    r.sample.measurement? = some r := by
  have hfind : (Instrument.all.find? fun i => i.name = r.instrument.name) = some r.instrument := by
    cases h : Instrument.all.find? fun i => i.name = r.instrument.name with
    | none =>
      rw [List.find?_eq_none] at h
      exact absurd (decide_eq_true rfl) (h r.instrument (Instrument.mem_all _))
    | some i =>
      have hname := List.find?_some h
      rw [Instrument.name_injective (of_decide_eq_true hname)]
  have hvalues : r.sample.tags.map Tag.value = r.tagValues := Tag.map_value_zip hlen.symm
  rw [Sample.measurement?, hvalues]
  show Option.map _ (Instrument.all.find? fun i => i.name = r.instrument.name) = _
  rw [hfind]
  rfl

theorem Measurement.withoutLatency_sample {r : Measurement}
    (h : r.instrument ≠ .responseLatency) : r.sample.withoutLatency = r.sample := by
  have hne : r.sample.name ≠ Instrument.responseLatency.name := fun heq =>
    h (Instrument.name_injective heq)
  rw [Sample.withoutLatency, if_neg hne]

/-- The first event of a log, and what is left of the log after it. `before`
holds the pending calls before the event. -/
def nextEvent? (before : Backlog) : List Sample → Option (RuntimeEvent × List Sample)
  | [] => none
  | s :: rest =>
    (s.measurement?.bind (·.event? before)).map fun event => (event, rest.drop event.later)

theorem RuntimeEvent.later_withoutStart (event : RuntimeEvent) :
    event.withoutStart.later = event.later := by
  cases event <;> rfl

/-- A log that begins with the samples of an event begins with that event. -/
theorem nextEvent?_samples (appId : String) (now : Instant) (before : Backlog)
    (event : RuntimeEvent) (log : List Sample) :
    nextEvent? before
        ((event.samples appId now (event.updateBacklog before)).map Sample.withoutLatency ++ log) =
      some (event.withoutStart, log) := by
  obtain ⟨r, rest, hcons, hlength, hevent⟩ := event.measurements_cons appId now before
  have hlatency := Measurement.instrument_ne_of_event? hevent
  have hr : r ∈ event.measurements appId now (event.updateBacklog before) := by
    rw [hcons]
    exact List.mem_cons_self
  have hlen := Measurement.length_tagValues (event.measurements_said appId now _ r hr)
  have hdrop : ((rest.map Measurement.sample).map Sample.withoutLatency ++ log).drop
      event.later = log := by
    refine List.drop_left' ?_
    rw [List.length_map, List.length_map, hlength]
  rw [RuntimeEvent.samples, hcons, List.map_cons, List.map_cons, List.cons_append,
    nextEvent?, Measurement.withoutLatency_sample hlatency, Measurement.measurement?_sample hlen,
    Option.bind_some, hevent, Option.map_some, RuntimeEvent.later_withoutStart, hdrop]

/-! ### A log as a whole -/

namespace RuntimeEvent

/-- The samples of events that an application reports one after the other. -/
def log (appId : String) : Backlog → List (RuntimeEvent × Instant) → List Sample
  | _, [] => []
  | before, (event, now) :: events =>
    event.samples appId now (event.updateBacklog before) ++
      log appId (event.updateBacklog before) events

theorem samples_ne_nil (appId : String) (now : Instant) (backlog : Backlog)
    (event : RuntimeEvent) : event.samples appId now backlog ≠ [] := by
  cases event <;> exact List.cons_ne_nil _ _

/-- Whether latencies differ is all that the readings of the clock bear on. -/
theorem samples_withoutStart (appId : String) (now other : Instant) (backlog : Backlog)
    (event : RuntimeEvent) :
    (event.withoutStart.samples appId other backlog).map Sample.withoutLatency =
      (event.samples appId now backlog).map Sample.withoutLatency := by
  cases event
  case responseReceived source status start =>
    have hlatency : ∀ tagValues x,
        (Measurement.mk .responseLatency tagValues (.float x)).sample.withoutLatency =
          (Measurement.mk .responseLatency tagValues (.float .zero)).sample := fun _ _ => if_pos rfl
    simp only [withoutStart, samples, measurements, List.map_cons, List.map_nil, hlatency]
  all_goals rfl

/-- Two logs are the same, latencies aside, exactly if the events are, the
readings of the clock aside. -/
theorem log_inj (appId : String) : ∀ (events others : List (RuntimeEvent × Instant))
    (before : Backlog),
    (log appId before events).map Sample.withoutLatency =
        (log appId before others).map Sample.withoutLatency ↔
      events.map (fun e => e.1.withoutStart) = others.map fun e => e.1.withoutStart
  | [], [], _ => by simp
  | [], (event, now) :: others, before => by
    have hne := event.samples_ne_nil appId now (event.updateBacklog before)
    simp [log, hne]
  | (event, now) :: events, [], before => by
    have hne := event.samples_ne_nil appId now (event.updateBacklog before)
    simp [log, hne]
  | (event, now) :: events, (other, time) :: others, before => by
    rw [log, log, List.map_append, List.map_append, List.map_cons, List.map_cons, List.cons.injEq]
    constructor
    · intro h
      have hnext := congrArg (nextEvent? before) h
      rw [nextEvent?_samples, nextEvent?_samples, Option.some.injEq, Prod.mk.injEq] at hnext
      obtain ⟨hevent, hrest⟩ := hnext
      have hbacklog : other.updateBacklog before = event.updateBacklog before := by
        rw [← other.updateBacklog_withoutStart, ← hevent, event.updateBacklog_withoutStart]
      rw [hbacklog] at hrest
      exact ⟨hevent, (log_inj appId events others _).mp hrest⟩
    · rintro ⟨hevent, hrest⟩
      have hbacklog : other.updateBacklog before = event.updateBacklog before := by
        rw [← other.updateBacklog_withoutStart, ← hevent, event.updateBacklog_withoutStart]
      have hsamples : (other.samples appId time (event.updateBacklog before)).map
          Sample.withoutLatency =
            (event.samples appId now (event.updateBacklog before)).map Sample.withoutLatency := by
        rw [← other.samples_withoutStart appId time now, ← hevent,
          event.samples_withoutStart appId now now]
      rw [hbacklog, hsamples, (log_inj appId events others _).mpr hrest]

end RuntimeEvent

/-! ### The log of a backend -/

namespace Fleet

variable {μ β ν γ : Type} [DecidableEq μ] [DecidableEq β] [DecidableEq ν] [DecidableEq γ]

/-- A backend keeps the log of the events that are reported to a monitor that is
enabled on it, after the samples that it kept before. -/
theorem kept?_run_recordings {f : Fleet μ β} {m : μ} {a : Active β}
    (h : (f.monitors m).active? = some a) (events : List (RuntimeEvent × Instant)) :
    ((f.run (recordings m events)).1.backends a.backend).kept? =
      (f.backends a.backend).kept?.map
        (· ++ RuntimeEvent.log a.appId (f.monitors m).backlog events) := by
  induction events generalizing f with
  | nil => simp [recordings, run, RuntimeEvent.log]
  | cons e events ih =>
    obtain ⟨event, now⟩ := e
    have hstep := step_record_of_active h event now
    simp only at hstep
    have hnext : ((f.step (.record m event now)).1.monitors m).active? = some a := by
      rw [hstep, setBackend_monitors, setMonitor_monitors_self]
    rw [recordings_cons, run_cons, ih hnext, hstep, setBackend_monitors, setMonitor_monitors_self,
      setBackend_backends_self, Backend.kept?_submit, RuntimeEvent.log, Option.map_map]
    simp only [Function.comp_def, List.append_assoc]

/-- A new capturing backend on which a new monitor is enabled keeps the log of
the events reported to the monitor. -/
theorem capture_run_recordings (f : Fleet μ β) (m : μ) (b : β) (appId : String)
    (bounds : List Binary64) (hf : f.monitors m = .fresh) (hfb : f.backends b = .capture {})
    (events : List (RuntimeEvent × Instant)) :
    ∃ cap : Capture,
      ((f.step (.enable m b appId bounds)).1.run (recordings m events)).1.backends b =
        .capture cap ∧
      cap.samples = RuntimeEvent.log appId {} events := by
  have hoff : (f.monitors m).active? = none := by
    rw [hf]
    rfl
  have hstep := step_of_taken (Operation.request?_enable m b appId bounds) hoff
    (by rw [hfb]; exact Backend.register_new_capture (View.catalogue bounds))
  have hmonitor : (f.step (.enable m b appId bounds)).1.monitors m = ⟨some ⟨appId, b⟩, {}⟩ := by
    rw [hstep, setBackend_monitors, setMonitor_monitors_self, hf]
    rfl
  have hnone : ((f.step (.enable m b appId bounds)).1.backends b).kept? = some [] := by
    rw [hstep, setBackend_backends_self]
    rfl
  have hon : ((f.step (.enable m b appId bounds)).1.monitors m).active? = some ⟨appId, b⟩ := by
    rw [hmonitor]
  have hkept := kept?_run_recordings hon events
  rw [hmonitor, hnone, Option.map_some, List.nil_append] at hkept
  exact Backend.eq_capture_of_kept? hkept

/-- **The log of samples determines the events.** Two new monitors are enabled
with the same application id, each on a new capturing backend, and events are
reported to them. The two backends keep the same samples, the values of
latencies aside, exactly if the same events were reported in the same order with
the same arguments, the readings of the clock aside. In particular no two events
that can follow on the same past have the same samples. -/
theorem log_determines_events (f : Fleet μ β) (m : μ) (b : β) (g : Fleet ν γ) (n : ν) (c : γ)
    (appId : String) (bounds otherBounds : List Binary64) (hf : f.monitors m = .fresh)
    (hg : g.monitors n = .fresh) (hfb : f.backends b = .capture {})
    (hgc : g.backends c = .capture {}) (events others : List (RuntimeEvent × Instant)) :
    (∃ cap other : Capture,
      ((f.step (.enable m b appId bounds)).1.run (recordings m events)).1.backends b =
        .capture cap ∧
      ((g.step (.enable n c appId otherBounds)).1.run (recordings n others)).1.backends c =
        .capture other ∧
      (cap.samples.map Sample.withoutLatency = other.samples.map Sample.withoutLatency ↔
        events.map (fun e => e.1.withoutStart) = others.map fun e => e.1.withoutStart)) ∧
    ∀ (before : Backlog) (event other : RuntimeEvent) (now time : Instant),
      (event.samples appId now (event.updateBacklog before)).map Sample.withoutLatency =
        (other.samples appId time (other.updateBacklog before)).map Sample.withoutLatency →
      event.withoutStart = other.withoutStart := by
  constructor
  · obtain ⟨cap, hcap, hlog⟩ := capture_run_recordings f m b appId bounds hf hfb events
    obtain ⟨other, hother, hlog'⟩ := capture_run_recordings g n c appId otherBounds hg hgc others
    refine ⟨cap, other, hcap, hother, ?_⟩
    rw [hlog, hlog']
    exact RuntimeEvent.log_inj appId events others {}
  · intro before event other now time h
    have hnext := congrArg (fun log => nextEvent? before (log ++ [])) h
    simp only [nextEvent?_samples, Option.some.injEq, Prod.mk.injEq] at hnext
    exact hnext.1

/-- A unary response at another time makes no difference, and neither do other
bounds. A streaming response does, and so does a change that is split in two. -/
theorem log_determines_events_of_three :
    let f : Fleet Unit Unit := ⟨fun _ => .fresh, fun _ => .capture {}⟩
    let log (bounds : List Binary64) (events : List (RuntimeEvent × Instant)) :=
      ((((f.step (.enable () () "checkout" bounds)).1.run (recordings () events)).1.backends
        ()).kept?).map (List.map Sample.withoutLatency)
    let events : List (RuntimeEvent × Instant) :=
      [(.responseReceived "orders" (-7) ⟨0⟩, ⟨5000000⟩), (.pendingCallsChanged "cart" (-1), ⟨0⟩)]
    let later : List (RuntimeEvent × Instant) :=
      [(.responseReceived "orders" (-7) ⟨3⟩, ⟨9000000⟩), (.pendingCallsChanged "cart" (-1), ⟨8⟩)]
    let streaming : List (RuntimeEvent × Instant) :=
      [(.streamingResponseReceived "orders" (-7), ⟨0⟩), (.pendingCallsChanged "cart" (-1), ⟨0⟩)]
    let split : List (RuntimeEvent × Instant) :=
      [(.responseReceived "orders" (-7) ⟨0⟩, ⟨5000000⟩), (.pendingCallsChanged "cart" (-2), ⟨0⟩),
        (.pendingCallsChanged "cart" 1, ⟨0⟩)]
    f.monitors () = .fresh ∧ f.backends () = .capture {} ∧
    log [.ofNat 1] events = log [.ofNat 2] later ∧
    log [.ofNat 1] events ≠ log [.ofNat 1] streaming ∧
    log [.ofNat 1] events ≠ log [.ofNat 1] split := by
  intro f log events later streaming split
  have hlog : ∀ bounds otherBounds (xs ys : List (RuntimeEvent × Instant)),
      log bounds xs = log otherBounds ys ↔
        xs.map (fun e => e.1.withoutStart) = ys.map fun e => e.1.withoutStart := by
    intro bounds otherBounds xs ys
    obtain ⟨⟨cap, other, hcap, hother, hiff⟩, -⟩ := log_determines_events f () () f () ()
      "checkout" bounds otherBounds rfl rfl rfl rfl xs ys
    have hx : log bounds xs = some (cap.samples.map Sample.withoutLatency) := by
      show Option.map _ (Backend.kept? _) = _
      rw [hcap]
      rfl
    have hy : log otherBounds ys = some (other.samples.map Sample.withoutLatency) := by
      show Option.map _ (Backend.kept? _) = _
      rw [hother]
      rfl
    rw [hx, hy, Option.some.injEq, hiff]
  refine ⟨rfl, rfl, (hlog _ _ _ _).mpr rfl, fun h => ?_, fun h => ?_⟩
  · exact absurd ((hlog _ _ _ _).mp h) (by decide)
  · exact absurd ((hlog _ _ _ _).mp h) (by decide)

end Fleet
end Telemetry
