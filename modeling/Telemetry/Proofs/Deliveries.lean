/-
# What monitors deliver over a run

The samples that the events of a run make the monitors send, in order, each
with the monitor it comes from and what that monitor is enabled as
(`Fleet.deliveries`). A capturing backend keeps those that come to it
(`Fleet.kept?_step_record`), and if a run has calls on a single monitor only,
nothing else (`Fleet.kept?_run_calls`).

Key definitions: `Delivery`, `Delivery.samplesTo`, `Fleet.delivering`,
`Fleet.deliveries`.
Key theorems: `Fleet.kept?_step_record`, `Fleet.active?_of_mem_deliveries`,
`Fleet.kept?_run_calls`.
-/
import Mathlib
import Telemetry.Proofs.Lifecycle

namespace Telemetry

/-- A sample on its way: the monitor that sends it, and what that monitor is
enabled as. -/
structure Delivery (μ β : Type) where
  monitor : μ
  source : Active β
  sample : Sample
deriving DecidableEq, Repr

/-- The samples that come to backend `b`, in order. -/
def Delivery.samplesTo {μ β : Type} [DecidableEq β] (b : β) (ds : List (Delivery μ β)) :
    List Sample :=
  ds.filterMap fun d => if d.source.backend = b then some d.sample else none

theorem Delivery.samplesTo_append {μ β : Type} [DecidableEq β] (b : β)
    (ds es : List (Delivery μ β)) : samplesTo b (ds ++ es) = samplesTo b ds ++ samplesTo b es :=
  List.filterMap_append

namespace Fleet

variable {μ β : Type} [DecidableEq μ] [DecidableEq β] {f : Fleet μ β} {m : μ} {b : β}
  {a : Active β} {op : Operation μ β}

/-- What an operation makes a monitor deliver: the samples of an event, if the
monitor is enabled. -/
def delivering (f : Fleet μ β) : Operation μ β → List (Delivery μ β)
  | .record m event now =>
    match (f.monitors m).active? with
    | some a => ((f.monitors m).record event now).2.map fun s => ⟨m, a, s⟩
    | none => []
  | _ => []

/-- What the monitors deliver over a run, in order. -/
def deliveries (f : Fleet μ β) : List (Operation μ β) → List (Delivery μ β)
  | [] => []
  | op :: ops => f.delivering op ++ (f.step op).1.deliveries ops

/-! ### One operation -/

omit [DecidableEq μ] [DecidableEq β] in
theorem delivering_of_active (h : (f.monitors m).active? = some a) (event : RuntimeEvent)
    (now : Instant) :
    f.delivering (.record m event now) =
      (event.samples a.appId now (event.updateBacklog (f.monitors m).backlog)).map
        fun s => ⟨m, a, s⟩ := by
  simp only [delivering, Monitor.record, h]

omit [DecidableEq μ] [DecidableEq β] in
theorem delivering_of_inactive (h : (f.monitors m).active? = none) (event : RuntimeEvent)
    (now : Instant) : f.delivering (.record m event now) = [] := by
  simp only [delivering, h]

omit [DecidableEq β] in
/-- An attempt to enable a monitor delivers nothing. -/
theorem delivering_of_request {r : Active β × List Binary64} (h : op.request? m = some r) :
    f.delivering op = [] := by
  rcases Operation.request?_cases h with rfl | rfl
  · rfl
  · rfl

/-- An event adds to the samples that a backend keeps what is delivered there. -/
theorem kept?_step_record (f : Fleet μ β) (m : μ) (event : RuntimeEvent) (now : Instant) (b : β) :
    ((f.step (.record m event now)).1.backends b).kept? =
      (f.backends b).kept?.map
        (· ++ Delivery.samplesTo b (f.delivering (.record m event now))) := by
  cases hact : (f.monitors m).active? with
  | none =>
    rw [step_record_of_inactive hact, delivering_of_inactive hact]
    simp [Delivery.samplesTo]
  | some a =>
    rw [step_record_of_active hact, delivering_of_active hact]
    by_cases hb : a.backend = b
    · subst hb
      rw [setBackend_backends_self, Backend.kept?_submit]
      simp [Delivery.samplesTo]
    · rw [setBackend_backends_of_ne _ _ (Ne.symm hb), setMonitor_backends]
      simp [Delivery.samplesTo, hb]

omit [DecidableEq μ] [DecidableEq β] in
theorem active?_of_mem_delivering {d : Delivery μ β} (h : d ∈ f.delivering op) :
    (f.monitors d.monitor).active? = some d.source := by
  cases op with
  | record m event now =>
    cases hact : (f.monitors m).active? with
    | none =>
      rw [delivering_of_inactive hact] at h
      cases h
    | some a =>
      rw [delivering_of_active hact] at h
      obtain ⟨s, -, rfl⟩ := List.mem_map.mp h
      exact hact
  | enable | enableWith | register | submit | refuseNext | clear => cases h

/-- Whoever delivered a sample is enabled as it was then. -/
theorem active?_of_mem_deliveries {d : Delivery μ β} {ops : List (Operation μ β)}
    (h : d ∈ f.deliveries ops) :
    ((f.run ops).1.monitors d.monitor).active? = some d.source := by
  induction ops generalizing f with
  | nil => cases h
  | cons op ops ih =>
    rcases List.mem_append.mp h with hnow | hlater
    · have hact := active?_of_mem_delivering hnow
      exact active?_run_of_active (active?_step_of_active hact op) ops
    · exact ih hlater

/-! ### Calls on one monitor -/

omit [DecidableEq μ] [DecidableEq β] in
theorem monitor_of_mem_delivering {d : Delivery μ β} {c : MonitorCall β}
    (h : d ∈ f.delivering (c.on m)) : d.monitor = m := by
  cases c with
  | record event now =>
    simp only [MonitorCall.on, delivering] at h
    split at h
    · obtain ⟨s, -, rfl⟩ := List.mem_map.mp h
      rfl
    · cases h
  | enable | enableWith => cases h

theorem monitor_of_mem_deliveries {d : Delivery μ β} {calls : List (MonitorCall β)}
    (h : d ∈ f.deliveries (calls.map (·.on m))) : d.monitor = m := by
  induction calls generalizing f with
  | nil => cases h
  | cons c calls ih =>
    rcases List.mem_append.mp h with hnow | hlater
    · exact monitor_of_mem_delivering hnow
    · exact ih hlater

omit [DecidableEq μ] in
theorem kept?_setBackend {backend : Backend} {c : β}
    (h : backend.kept? = (f.backends c).kept?) (b : β) :
    ((f.setBackend c backend).backends b).kept? = (f.backends b).kept? := by
  by_cases hb : b = c
  · rw [hb, setBackend_backends_self, h]
  · rw [setBackend_backends_of_ne _ _ hb]

/-- An attempt to enable a monitor leaves the samples that are kept. -/
theorem kept?_step_of_request {r : Active β × List Binary64} (h : op.request? m = some r) (b : β) :
    ((f.step op).1.backends b).kept? = (f.backends b).kept? := by
  rcases attempt_cases f h with
    ⟨now, -, heq⟩ | ⟨-, err, traffic, -, heq, -⟩ | ⟨-, traffic, -, heq, -⟩
  · rw [heq]
  · rw [heq]
    exact kept?_setBackend (Backend.kept?_refused _) b
  · rw [heq]
    exact kept?_setBackend (Backend.kept?_addAll _ _) b

theorem kept?_step_call (f : Fleet μ β) (m : μ) (c : MonitorCall β) (b : β) :
    ((f.step (c.on m)).1.backends b).kept? =
      (f.backends b).kept?.map (· ++ Delivery.samplesTo b (f.delivering (c.on m))) := by
  cases hreq : c.request? with
  | some r =>
    have hreq' : (c.on m).request? m = some r := by rw [MonitorCall.request?_on, hreq]
    rw [kept?_step_of_request hreq', delivering_of_request hreq']
    simp [Delivery.samplesTo]
  | none =>
    rcases MonitorCall.cases_of_no_request m hreq with ⟨b', settings, hset, heq⟩ | ⟨event, now, heq⟩
    · rw [heq, step_enableWith_of_off hset]
      simp [Delivery.samplesTo, delivering]
    · rw [heq]
      exact kept?_step_record f m event now b

/-- The backends keep what the calls deliver. -/
theorem kept?_run_calls (f : Fleet μ β) (m : μ) (calls : List (MonitorCall β)) (b : β) :
    ((f.run (calls.map (·.on m))).1.backends b).kept? =
      (f.backends b).kept?.map (· ++ Delivery.samplesTo b (f.deliveries (calls.map (·.on m)))) := by
  induction calls generalizing f with
  | nil => simp [run, deliveries, Delivery.samplesTo]
  | cons c calls ih =>
    rw [List.map_cons, run_cons, ih, kept?_step_call, deliveries, Delivery.samplesTo_append,
      Option.map_map]
    simp [Function.comp_def, List.append_assoc]

end Fleet
end Telemetry
