/-
# Every sample is what its view declares

A call that reports an event hands over values by position, one for each
dimension of the instrument (`RuntimeEvent.measurements`). What an event says of a
dimension is told here once more, by the key of the dimension and not by position
(`RuntimeEvent.says?`). The two agree for every event
(`RuntimeEvent.measurements_said`), so no value is left over and none is missing;
and since no instrument has two dimensions of one name, a tag that is looked up by
its key carries what the event says of it (`Tag.find?_zip_of_said`).

Key definitions: `RuntimeEvent.says?`, `RuntimeEvent.gauge?`, `Sample.Conforms`.
Key theorems: `RuntimeEvent.measurements_said`, `RuntimeEvent.measurements_fit`,
`Measurement.conforms`, `Fleet.samples_conform_to_views`.
-/
import Mathlib
import Telemetry.Proofs.Lifecycle
import Telemetry.Proofs.Mirror

namespace Telemetry

namespace RuntimeEvent

/-! ### Values by key -/

/-- The application that an event is about: the caller if access was decided,
and else the application that reports. -/
def subject (appId : String) : RuntimeEvent → String
  | .requestDecided _ _ caller => caller.appId
  | _ => appId

def component? : RuntimeEvent → Option String
  | .componentInitialized component | .componentFailed component _ _ => some component
  | _ => none

def componentName? : RuntimeEvent → Option String
  | .componentFailed _ _ name => some name
  | _ => none

def failReason? : RuntimeEvent → Option String
  | .componentFailed _ reason _ | .mtlsFailed reason | .certificateRotationFailed reason
  | .statusReportFailed _ _ reason | .actorDeactivationFailed _ reason => some reason
  | _ => none

def operation? : RuntimeEvent → Option String
  | .statusReported _ operation | .statusReportFailed _ operation _
  | .tableOperationReceived _ operation => some operation
  | _ => none

def actorType? : RuntimeEvent → Option String
  | .statusReported actorType _ | .statusReportFailed actorType _ _
  | .tableOperationReceived actorType _ | .actorRebalanced actorType
  | .actorDeactivated actorType | .actorDeactivationFailed actorType _
  | .reminderFired actorType _ | .timerFired actorType _ | .remindersSet actorType _
  | .timersSet actorType _ | .pendingCallsChanged actorType _ => some actorType
  | _ => none

def success? : RuntimeEvent → Option Bool
  | .reminderFired _ success | .timerFired _ success => some success
  | _ => none

def caller? : RuntimeEvent → Option Caller
  | .requestDecided _ _ caller => some caller
  | _ => none

def destination? : RuntimeEvent → Option String
  | .requestSent _ destination | .responseSent destination _ => some destination
  | _ => none

def source? : RuntimeEvent → Option String
  | .requestReceived source | .responseReceived source _ _
  | .streamingResponseReceived source _ => some source
  | _ => none

def status? : RuntimeEvent → Option Int32
  | .responseSent _ status | .responseReceived _ status _
  | .streamingResponseReceived _ status => some status
  | _ => none

def exchange? : RuntimeEvent → Option Exchange
  | .requestSent exchange _ => some exchange
  | .responseReceived .. => some .unary
  | .streamingResponseReceived .. => some .streaming
  | _ => none

/-- What an event that an application reports says of a dimension. -/
def says? (appId : String) (event : RuntimeEvent) (key : TagKey) : Option String :=
  if key = .appId then some (event.subject appId)
  else if key = .component then event.component?
  else if key = .componentName then event.componentName?
  else if key = .failReason then event.failReason?
  else if key = .operation then event.operation?
  else if key = .actorType then event.actorType?
  else if key = .success then event.success?.map fun success => if success then "true" else "false"
  else if key = .trustDomain then event.caller?.map Caller.trustDomain
  else if key = .space then event.caller?.map Caller.space
  else if key = .destinationAppId then event.destination?
  else if key = .sourceAppId then event.source?
  else if key = .status then event.status?.map fun status => toString status.toInt
  else if key = .exchange then
    event.exchange?.map fun | .unary => "unary" | .streaming => "streaming"
  else none

/-- The number that an event sets a gauge to, when `before` holds the pending
calls before it: the number reported, or the running total. -/
def gauge? (before : Backlog) : RuntimeEvent → Option Int64
  | .remindersSet _ n | .timersSet _ n => some n
  | .pendingCallsChanged actorType delta => some (before.total actorType + delta).toInt64
  | _ => none

/-- By position or by key, an event says the same of every dimension. -/
theorem measurements_said (appId : String) (now : Instant) (backlog : Backlog)
    (event : RuntimeEvent) : ∀ r ∈ event.measurements appId now backlog,
      r.instrument.tagKeys.map (event.says? appId) = r.tagValues.map some := by
  intro r hr
  cases event
  case responseReceived =>
    rcases List.mem_cons.mp hr with rfl | hr
    · rfl
    · rw [List.mem_singleton.mp hr]
      rfl
  case requestDecided scope decision caller =>
    rw [List.mem_singleton.mp hr]
    cases scope <;> cases decision <;> rfl
  case reminderFired _ success | timerFired _ success =>
    rw [List.mem_singleton.mp hr]
    cases success <;> rfl
  case requestSent exchange _ =>
    rw [List.mem_singleton.mp hr]
    cases exchange <;> rfl
  all_goals
    rw [List.mem_singleton.mp hr]
    rfl

end RuntimeEvent

/-! ### Tags are found by their keys -/

/-- If the values of the keys are what is said of them, in order, and no two
keys have one name, then what is said of a key is found under its name. -/
theorem Tag.find?_zip_of_said {said : TagKey → Option String} :
    ∀ {keys : List TagKey} {values : List String}, keys.map said = values.map some →
      (keys.map TagKey.name).Nodup → ∀ k ∈ keys, find? (zip keys values) k.name = said k
  | [], _, _, _, _, hk => absurd hk List.not_mem_nil
  | _ :: _, [], h, _, _, _ => absurd h (List.cons_ne_nil _ _)
  | key :: keys, value :: values, h, hnodup, k, hk => by
    rw [List.map_cons, List.map_cons, List.cons.injEq] at h
    rw [List.map_cons, List.nodup_cons] at hnodup
    have hhead : find? (zip (key :: keys) (value :: values)) k.name =
        if key.name = k.name then some value else find? (zip keys values) k.name := by
      by_cases hname : key.name = k.name
      · simp [find?, zip, hname]
      · simp [find?, zip, hname]
    rw [hhead]
    rcases List.mem_cons.mp hk with rfl | hk
    · rw [if_pos rfl, h.1]
    · have hne : key.name ≠ k.name := fun heq =>
        hnodup.1 (heq ▸ List.mem_map_of_mem hk)
      rw [if_neg hne]
      exact find?_zip_of_said h.2 hnodup.2 k hk

/-- No instrument has two dimensions of one name. -/
theorem Instrument.nodup_name_tagKeys (i : Instrument) : (i.tagKeys.map TagKey.name).Nodup := by
  have hall : ∀ i ∈ Instrument.all, (i.tagKeys.map TagKey.name).Nodup := by decide +kernel
  exact hall i (Instrument.mem_all i)

/-! ### What a view wants of a sample -/

/-- A value that goes with the kind: one for a counter, the number that the
event sets a gauge to, and a float for a histogram. -/
def Value.Fits (event : RuntimeEvent) (before : Backlog) (v : Value) : Kind → Prop
  | .counter => v = .int 1
  | .gauge => ∃ n, event.gauge? before = some n ∧ v = .int n
  | .histogram => ∃ x, v = .float x

/-- A sample of an event as the view declares it. `before` holds the pending
calls before the event. -/
structure Sample.Conforms (appId : String) (event : RuntimeEvent) (before : Backlog) (s : Sample)
    (v : View) : Prop where
  name : s.name = v.name
  keys : s.tags.map Tag.key = v.tagKeys
  /-- Each declared key is found, with what the event says of it. -/
  said : ∀ k ∈ v.tagKeys, ∃ value, event.says? appId k = some value ∧ s.tag? k.name = some value
  value : s.value.Fits event before v.instrument.kind

theorem RuntimeEvent.measurements_fit (appId : String) (now : Instant) (before : Backlog)
    (event : RuntimeEvent) : ∀ r ∈ event.measurements appId now (event.updateBacklog before),
      r.value.Fits event before r.instrument.kind := by
  intro r hr
  cases event
  case responseReceived =>
    rcases List.mem_cons.mp hr with rfl | hr
    · rfl
    · rw [List.mem_singleton.mp hr]
      exact ⟨_, rfl⟩
  case requestDecided scope decision caller =>
    rw [List.mem_singleton.mp hr]
    cases scope <;> cases decision <;> rfl
  case pendingCallsChanged actorType delta =>
    rw [List.mem_singleton.mp hr, updateBacklog, Backlog.total_add, if_pos rfl]
    exact ⟨_, rfl, rfl⟩
  case remindersSet | timersSet =>
    rw [List.mem_singleton.mp hr]
    exact ⟨_, rfl, rfl⟩
  all_goals
    rw [List.mem_singleton.mp hr]
    rfl

namespace Measurement

variable {appId : String} {event : RuntimeEvent} {before : Backlog} {r : Measurement}

theorem length_tagValues (hsaid : r.instrument.tagKeys.map (event.says? appId) =
    r.tagValues.map some) : r.tagValues.length = r.instrument.tagKeys.length := by
  have hlen := congrArg List.length hsaid
  rw [List.length_map, List.length_map] at hlen
  exact hlen.symm

/-- A sample conforms to the view of its instrument if its values are what the
event says. -/
theorem conforms (bounds : List Binary64)
    (hsaid : r.instrument.tagKeys.map (event.says? appId) = r.tagValues.map some)
    (hfits : r.value.Fits event before r.instrument.kind) :
    r.sample.Conforms appId event before (r.instrument.view bounds) where
  name := rfl
  keys := Tag.map_key_zip (length_tagValues hsaid).symm
  said k hk := by
    have hk : k ∈ r.instrument.tagKeys := hk
    have hmem : event.says? appId k ∈ r.tagValues.map some :=
      hsaid ▸ List.mem_map_of_mem hk
    obtain ⟨value, -, hvalue⟩ := List.mem_map.mp hmem
    refine ⟨value, hvalue.symm, ?_⟩
    rw [hvalue]
    exact Tag.find?_zip_of_said hsaid r.instrument.nodup_name_tagKeys k hk
  value := hfits

end Measurement

namespace RuntimeEvent

/-- One sample, or the count and the latency of a unary response. -/
theorem names_samples (appId : String) (now : Instant) (backlog : Backlog) (event : RuntimeEvent) :
    (∃ source status start, event = .responseReceived source status start ∧
      (event.samples appId now backlog).map Sample.name =
        [Instrument.responseReceived.name, Instrument.responseLatency.name]) ∨
    ((∀ source status start, event ≠ .responseReceived source status start) ∧
      (event.samples appId now backlog).length = 1) := by
  cases event
  case responseReceived source status start => exact Or.inl ⟨source, status, start, rfl, rfl⟩
  all_goals exact Or.inr ⟨fun _ _ _ h => RuntimeEvent.noConfusion h, rfl⟩

/-- Each sample conforms to one view of the catalogue, and no other view has its
name. -/
theorem samples_conform (appId : String) (now : Instant) (before : Backlog) (event : RuntimeEvent)
    (bounds : List Binary64) : ∀ s ∈ event.samples appId now (event.updateBacklog before),
      ∃ v ∈ View.catalogue bounds, s.Conforms appId event before v ∧
        ∀ w ∈ View.catalogue bounds, w.name = s.name → w = v := by
  intro s hs
  obtain ⟨r, hr, rfl⟩ := List.mem_map.mp hs
  have hsaid := event.measurements_said appId now _ r hr
  have hfits := event.measurements_fit appId now before r hr
  refine ⟨r.instrument.view bounds, r.instrument.view_mem_catalogue bounds,
    Measurement.conforms bounds hsaid hfits, ?_⟩
  intro w hw hname
  obtain ⟨i, -, rfl⟩ := List.mem_map.mp hw
  have hi : i = r.instrument := Instrument.name_injective hname
  rw [hi]

end RuntimeEvent

namespace Fleet

variable {μ β : Type} [DecidableEq μ] [DecidableEq β]

/-- An attempt that succeeds registers the catalogue and enables its monitor. -/
theorem registered_of_done {f : Fleet μ β} {m : μ} {op : Operation μ β} {a : Active β}
    {bounds : List Binary64} (hreq : op.request? m = some (a, bounds))
    (hdone : (f.step op).2.answer = .done) :
    (f.backends a.backend).register (View.catalogue bounds) =
        (none, (f.step op).1.backends a.backend,
          ((f.backends a.backend).register (View.catalogue bounds)).2.2) ∧
      ((f.step op).1.monitors m).active? = some a := by
  rcases hact : (f.monitors m).active? with _ | now
  · rcases hr : (f.backends a.backend).register (View.catalogue bounds) with
      ⟨_ | err, backend, traffic⟩
    · rw [step_of_taken hreq hact hr, setBackend_backends_self, setBackend_monitors,
        setMonitor_monitors_self]
      exact ⟨rfl, rfl⟩
    · rw [step_of_refused hreq hact hr] at hdone
      cases hdone
  · rw [step_of_enabled hreq hact] at hdone
    cases hdone

/-- **Every sample is what its view declares.** A monitor is enabled by an
attempt that succeeds, which registers the view of every instrument, and then
anything may happen. Whatever event is reported to it after that, with any
arguments: its samples are handed to the backend of that attempt, one sample,
or two for a unary response, the count before the latency. They are made of what
the call hands over, which has as many values as there are dimensions, no more and
no fewer. Each sample has the name of
exactly one view that was registered, and conforms to it: it has the keys of
the view in order, under each key what the event says of it, and a value that
goes with the kind. -/
theorem samples_conform_to_views (f : Fleet μ β) (m : μ) (op : Operation μ β) (a : Active β)
    (bounds : List Binary64) (hreq : op.request? m = some (a, bounds))
    (hdone : (f.step op).2.answer = .done) (ops : List (Operation μ β)) (event : RuntimeEvent)
    (now : Instant) :
    let g := ((f.step op).1.run ops).1
    let before := (g.monitors m).backlog
    let measured := event.measurements a.appId now (event.updateBacklog before)
    let samples := ((g.monitors m).record event now).2
    let sent := (g.backends a.backend).submit samples
    (f.backends a.backend).register (View.catalogue bounds) =
      (none, (f.step op).1.backends a.backend,
        ((f.backends a.backend).register (View.catalogue bounds)).2.2) ∧
    (g.step (.record m event now)).1.backends = replace g.backends a.backend sent.1 ∧
    (g.step (.record m event now)).2 = ⟨.done, sent.2⟩ ∧
    ((∃ source status start, event = .responseReceived source status start ∧
        samples.map Sample.name =
          [Instrument.responseReceived.name, Instrument.responseLatency.name]) ∨
      ((∀ source status start, event ≠ .responseReceived source status start) ∧
        samples.length = 1)) ∧
    samples = measured.map Measurement.sample ∧
    (∀ r ∈ measured, r.tagValues.length = r.instrument.tagKeys.length) ∧
    ∀ s ∈ samples, ∃ v ∈ View.catalogue bounds, s.Conforms a.appId event before v ∧
      ∀ w ∈ View.catalogue bounds, w.name = s.name → w = v := by
  intro g before measured samples sent
  obtain ⟨hregister, hact⟩ := registered_of_done hreq hdone
  have hon : (g.monitors m).active? = some a := active?_run_of_active hact ops
  have hsamples : samples = event.samples a.appId now (event.updateBacklog before) := by
    show ((g.monitors m).record event now).2 = _
    rw [Monitor.record, hon]
  have hstep := step_record_of_active hon event now
  simp only at hstep
  refine ⟨hregister, ?_, ?_, ?_, hsamples, fun r hr => ?_, ?_⟩
  · rw [hstep]
    show replace g.backends a.backend _ = replace g.backends a.backend sent.1
    rw [← hsamples]
  · rw [hstep, ← hsamples]
  · rw [hsamples]
    exact event.names_samples _ _ _
  · exact Measurement.length_tagValues (event.measurements_said a.appId now _ r hr)
  · rw [hsamples]
    exact event.samples_conform _ _ _ _

/-- A response with a negative status, after a change of the pending calls. -/
theorem samples_conform_to_views_of_response :
    let f : Fleet Unit Unit := ⟨fun _ => .fresh, fun _ => .capture {}⟩
    let op : Operation Unit Unit := .enable () () "checkout" [.ofNat 1]
    let g := ((f.step op).1.run [.record () (.pendingCallsChanged "cart" (-1)) ⟨0⟩]).1
    let event : RuntimeEvent := .responseReceived "orders" (-7) ⟨0⟩
    let samples := ((g.monitors ()).record event ⟨5000000⟩).2
    let measured := event.measurements "checkout" ⟨5000000⟩
      (event.updateBacklog (g.monitors ()).backlog)
    op.request? () = some (⟨"checkout", ()⟩, [.ofNat 1]) ∧
    (f.step op).2.answer = .done ∧
    measured.map Measurement.tagValues =
      [["checkout", "orders", "-7", "unary"], ["checkout", "orders", "-7"]] ∧
    samples = measured.map Measurement.sample ∧
    (∀ r ∈ measured, r.tagValues.length = r.instrument.tagKeys.length) ∧
    samples.map (·.tag? "src_app_id") = [some "orders", some "orders"] ∧
    samples.map (·.tag? "status") = [some "-7", some "-7"] ∧
    samples.map (·.tag? "type") = [some "unary", none] ∧
    ∀ s ∈ samples, ∃ v ∈ View.catalogue [.ofNat 1],
      s.Conforms "checkout" event (g.monitors ()).backlog v ∧
        ∀ w ∈ View.catalogue [.ofNat 1], w.name = s.name → w = v := by
  intro f op g event samples measured
  have hreq : op.request? () = some (⟨"checkout", ()⟩, [.ofNat 1]) := rfl
  have hdone : (f.step op).2.answer = .done := by decide +kernel
  obtain ⟨-, -, -, -, hmade, hlengths, hconforms⟩ :=
    samples_conform_to_views f () op _ _ hreq hdone _ event ⟨5000000⟩
  exact ⟨hreq, hdone, by decide +kernel, hmade, hlengths, by decide +kernel, by decide +kernel,
    by decide +kernel, hconforms⟩

end Fleet
end Telemetry
