/-
# What one operation does to a fleet

The state, the answer and the traffic after one operation on a fleet, by what
the monitor and the backend are before it. Later modules use these equations
and do not open `Fleet.step`. The calls that a run makes on the metrics
recorders are those of its operations, one after the other.

Whether an operation is an attempt to enable a given monitor is read off it
(`Operation.request?`), whichever of the two forms the attempt has. It leads to
one of three ends: the monitor was enabled before, or its backend refuses the
catalogue, or takes it.

Key definitions: `Fleet.updates`, `Fleet.recordings`, `Operation.request?`,
`MonitorCall`.
Key theorems: `Fleet.step_register_of_exporter`, `Fleet.step_submit_of_exporter`,
`Fleet.step_record_of_active`, `Fleet.step_of_enabled`, `Fleet.step_of_refused`,
`Fleet.step_of_taken`, `Fleet.active?_step_of_no_request`.
-/
import Telemetry.Fleet

namespace Telemetry

/-- The attempt to enable monitor `m` that an operation makes: what the monitor
would have then, and the bounds that are asked for. Settings that have metrics
off make none. -/
def Operation.request? {μ β : Type} [DecidableEq μ] (m : μ) :
    Operation μ β → Option (Active β × List Binary64)
  | .enable n b appId bounds => if n = m then some (⟨appId, b⟩, bounds) else none
  | .enableWith n b settings =>
    if n = m ∧ settings.enabled = true then some (⟨settings.appId, b⟩, settings.bounds) else none
  | _ => none

theorem Operation.request?_enable {μ β : Type} [DecidableEq μ] (m : μ) (b : β) (appId : String)
    (bounds : List Binary64) :
    (Operation.enable m b appId bounds).request? m = some (⟨appId, b⟩, bounds) := if_pos rfl

/-- An attempt to enable a monitor has one of two forms. -/
theorem Operation.request?_cases {μ β : Type} [DecidableEq μ] {op : Operation μ β} {m : μ}
    {a : Active β} {bounds : List Binary64} (h : op.request? m = some (a, bounds)) :
    op = .enable m a.backend a.appId bounds ∨
      op = .enableWith m a.backend ⟨true, a.appId, bounds⟩ := by
  cases op with
  | enable n b appId bounds' =>
    by_cases hn : n = m
    · rw [request?, if_pos hn] at h
      cases h
      exact Or.inl (by rw [hn])
    · rw [request?, if_neg hn] at h
      cases h
  | enableWith n b settings =>
    by_cases hn : n = m ∧ settings.enabled = true
    · rw [request?, if_pos hn] at h
      cases h
      exact Or.inr (by rw [hn.1, ← hn.2])
    · rw [request?, if_neg hn] at h
      cases h
  | record | register | submit | refuseNext | clear => cases h

/-- An operation is an attempt to enable one monitor at most. -/
theorem Operation.eq_of_request? {μ β : Type} [DecidableEq μ] {op : Operation μ β} {m n : μ}
    {r s : Active β × List Binary64} (hm : op.request? m = some r)
    (hn : op.request? n = some s) : m = n := by
  rcases request?_cases hm with hop | hop
  · rw [hop] at hn
    rcases request?_cases hn with heq | heq
    · exact (enable.inj heq).1
    · cases heq
  · rw [hop] at hn
    rcases request?_cases hn with heq | heq
    · cases heq
    · exact (enableWith.inj heq).1

/-- A call on one monitor. -/
inductive MonitorCall (β : Type)
  | enable (backend : β) (appId : String) (bounds : List Binary64)
  | enableWith (backend : β) (settings : Settings)
  | record (event : RuntimeEvent) (now : Instant)

namespace MonitorCall

variable {μ β : Type}

/-- The call as an operation on the monitor `m` of a fleet. -/
def on (m : μ) : MonitorCall β → Operation μ β
  | .enable b appId bounds => .enable m b appId bounds
  | .enableWith b settings => .enableWith m b settings
  | .record event now => .record m event now

/-- The attempt that the call makes to enable its monitor. -/
def request? : MonitorCall β → Option (Active β × List Binary64)
  | .enable b appId bounds => some (⟨appId, b⟩, bounds)
  | .enableWith b settings =>
    if settings.enabled = true then some (⟨settings.appId, b⟩, settings.bounds) else none
  | .record _ _ => none

@[simp] theorem request?_on [DecidableEq μ] (m : μ) (c : MonitorCall β) :
    (c.on m).request? m = c.request? := by
  cases c <;> simp [on, request?, Operation.request?]

/-- A call that is no attempt is one with metrics off, or an event. -/
theorem cases_of_no_request (m : μ) {c : MonitorCall β} (h : c.request? = none) :
    (∃ b settings, settings.enabled = false ∧ c.on m = .enableWith m b settings) ∨
      ∃ event now, c.on m = .record m event now := by
  cases c with
  | enable => cases h
  | enableWith b settings =>
    have hoff : settings.enabled = false := by simpa [request?] using h
    exact Or.inl ⟨b, settings, hoff, rfl⟩
  | record event now => exact Or.inr ⟨event, now, rfl⟩

end MonitorCall

namespace Fleet

variable {μ β : Type} [DecidableEq μ] [DecidableEq β] {f : Fleet μ β} {m : μ} {b : β}
  {e : Exporter} {bounds : List Binary64}

/-! ### Runs -/

theorem run_cons (f : Fleet μ β) (op : Operation μ β) (ops : List (Operation μ β)) :
    (f.run (op :: ops)).1 = ((f.step op).1.run ops).1 := rfl

/-- The calls on metrics recorders that the operations make, in order. -/
def updates (f : Fleet μ β) (ops : List (Operation μ β)) : List Update :=
  (f.run ops).2.flatMap fun o => o.traffic.updates

theorem updates_cons (f : Fleet μ β) (op : Operation μ β) (ops : List (Operation μ β)) :
    f.updates (op :: ops) = (f.step op).2.traffic.updates ++ (f.step op).1.updates ops := rfl

/-- The events reported to one monitor, each at its reading of the clock. -/
def recordings (m : μ) (events : List (RuntimeEvent × Instant)) : List (Operation μ β) :=
  events.map fun e => .record m e.1 e.2

omit [DecidableEq μ] [DecidableEq β] in
theorem recordings_cons (m : μ) (event : RuntimeEvent × Instant)
    (events : List (RuntimeEvent × Instant)) :
    recordings m (event :: events) =
      (.record m event.1 event.2 : Operation μ β) :: recordings m events := rfl

/-! ### Operations on a backend -/

/-- Taken or refused, a batch changes the backend it is given to, and what goes
out is what that backend sends. -/
theorem step_register (f : Fleet μ β) (b : β) (views : List View) :
    ((f.step (.register b views)).1 = f.setBackend b ((f.backends b).register views).2.1) ∧
      (f.step (.register b views)).2.traffic = ((f.backends b).register views).2.2 := by
  rw [step]
  rcases (f.backends b).register views with ⟨_ | err, backend, traffic⟩
  · exact ⟨rfl, rfl⟩
  · exact ⟨rfl, rfl⟩

theorem step_register_of_exporter (hb : f.backends b = .exporter e) (views : List View) :
    ((f.step (.register b views)).1.backends b =
        ((Backend.exporter e).register views).2.1) ∧
      (f.step (.register b views)).2.traffic = ((Backend.exporter e).register views).2.2 := by
  rw [(step_register f b views).1, (step_register f b views).2, hb, setBackend_backends_self]
  exact ⟨rfl, rfl⟩

theorem step_submit_of_exporter (hb : f.backends b = .exporter e) (s : Sample) :
    ((f.step (.submit b s)).1.backends b = .exporter e) ∧
      (f.step (.submit b s)).2.traffic.updates = (e.submit s).updates := by
  rw [step, deliver, hb]
  exact ⟨setBackend_backends_self f b _, by simp [Backend.submit, Traffic.none]⟩

/-! ### Operations on a monitor -/

/-- The monitor gets the new backlog and its backend the samples. -/
theorem step_record_of_active {a : Active β} (h : (f.monitors m).active? = some a)
    (event : RuntimeEvent) (now : Instant) :
    let backlog := event.updateBacklog (f.monitors m).backlog
    let sent := (f.backends a.backend).submit (event.samples a.appId now backlog)
    f.step (.record m event now) =
      ((f.setMonitor m ⟨some a, backlog⟩).setBackend a.backend sent.1, ⟨.done, sent.2⟩) := by
  simp only [step, record, Monitor.record, h]
  rfl

/-- A monitor that is not enabled drops an event. -/
theorem step_record_of_inactive (h : (f.monitors m).active? = none) (event : RuntimeEvent)
    (now : Instant) : f.step (.record m event now) = (f, ⟨.done, .none⟩) := by
  simp only [step, record, h]

/-! ### Attempts to enable a monitor -/

omit [DecidableEq β] in
/-- Replacing a monitor by itself changes nothing. -/
theorem setMonitor_self (f : Fleet μ β) (m : μ) : f.setMonitor m (f.monitors m) = f := by
  have h : replace f.monitors m (f.monitors m) = f.monitors := by
    funext n
    by_cases hn : n = m
    · rw [hn, replace_self]
    · rw [replace_of_ne _ _ hn]
  rw [setMonitor, h]

omit [DecidableEq μ] in
/-- Replacing a backend by itself changes nothing. -/
theorem setBackend_self (f : Fleet μ β) (b : β) : f.setBackend b (f.backends b) = f := by
  have h : replace f.backends b (f.backends b) = f.backends := by
    funext c
    by_cases hc : c = b
    · rw [hc, replace_self]
    · rw [replace_of_ne _ _ hc]
  rw [setBackend, h]

section Request

variable {op : Operation μ β} {a : Active β}

/-- The two forms of an attempt do the same. -/
theorem step_of_request (h : op.request? m = some (a, bounds)) :
    f.step op =
      f.attempted m a.backend
        ((f.monitors m).enable a.backend (f.backends a.backend) a.appId bounds) := by
  rcases Operation.request?_cases h with rfl | rfl
  · rfl
  · rfl

/-- An enabled monitor refuses, and nothing is touched. -/
theorem step_of_enabled (h : op.request? m = some (a, bounds)) {now : Active β}
    (hon : (f.monitors m).active? = some now) :
    f.step op =
      (f, ⟨.refused .alreadyEnabled,
        .log .warn "[SVCMON] Metrics recorder initialized more than once"⟩) := by
  have hen : (f.monitors m).isEnabled = true := by rw [Monitor.isEnabled, hon]; rfl
  rw [step_of_request h, Monitor.enable, if_pos hen, attempted, setMonitor_self, setBackend_self]

/-- The refusal of a backend is the answer, and leaves the monitor as it was. -/
theorem step_of_refused {err : RegistrationError} {backend : Backend} {traffic : Traffic}
    (h : op.request? m = some (a, bounds)) (hoff : (f.monitors m).active? = none)
    (hr : (f.backends a.backend).register (View.catalogue bounds) = (some err, backend, traffic)) :
    f.step op =
      (f.setBackend a.backend backend, ⟨.refused err, traffic ++ .log .error
        s!"[SVCMON] Failed to register metric views for `{a.appId}`: {err.message}"⟩) := by
  have hen : ¬ (f.monitors m).isEnabled = true := by rw [Monitor.isEnabled, hoff]; simp
  rw [step_of_request h, Monitor.enable, if_neg hen]
  simp only [hr, attempted, setMonitor_self]

/-- A backend that takes the catalogue makes the monitor an enabled one. -/
theorem step_of_taken {backend : Backend} {traffic : Traffic}
    (h : op.request? m = some (a, bounds)) (hoff : (f.monitors m).active? = none)
    (hr : (f.backends a.backend).register (View.catalogue bounds) = (none, backend, traffic)) :
    f.step op =
      ((f.setMonitor m ⟨some a, (f.monitors m).backlog⟩).setBackend a.backend backend,
        ⟨.done, traffic ++ .log .info
        s!"[SVCMON] Registered {(View.catalogue bounds).length} metric views for `{a.appId}`"⟩) := by
  have hen : ¬ (f.monitors m).isEnabled = true := by rw [Monitor.isEnabled, hoff]; simp
  rw [step_of_request h, Monitor.enable, if_neg hen]
  simp only [hr, attempted]

/-- Settings that have metrics off change nothing. -/
theorem step_enableWith_of_off {settings : Settings} (h : settings.enabled = false) :
    f.step (.enableWith m b settings) =
      (f, ⟨.off, .log .info s!"[SVCMON] Metrics disabled for `{settings.appId}`"⟩) := by
  have hon : ¬ settings.enabled = true := by rw [h]; exact Bool.false_ne_true
  rw [step, Monitor.enableWith, if_neg hon, attempted, setMonitor_self, setBackend_self]

omit [DecidableEq μ] in
theorem setBackend_backends_of_ne (f : Fleet μ β) {b c : β} (backend : Backend) (h : b ≠ c) :
    (f.setBackend c backend).backends b = f.backends b := replace_of_ne _ _ h

omit [DecidableEq β] in
theorem setMonitor_monitors_of_ne (f : Fleet μ β) {m n : μ} (monitor : Monitor β) (h : m ≠ n) :
    (f.setMonitor n monitor).monitors m = f.monitors m := replace_of_ne _ _ h

/-- Nothing but an attempt to enable a monitor bears on whether it is enabled. -/
theorem active?_step_of_no_request (h : op.request? m = none) :
    ((f.step op).1.monitors m).active? = (f.monitors m).active? := by
  cases op with
  | enable n b appId bounds =>
    have hne : m ≠ n := fun hmn => by simp [Operation.request?, hmn] at h
    rw [step, attempted, setBackend_monitors, setMonitor_monitors_of_ne _ _ hne]
  | enableWith n b settings =>
    by_cases hmn : m = n
    · subst hmn
      have hoff : settings.enabled = false := by simpa [Operation.request?] using h
      rw [step_enableWith_of_off hoff]
    · rw [step, attempted, setBackend_monitors, setMonitor_monitors_of_ne _ _ hmn]
  | record n event now =>
    cases ha : (f.monitors n).active? with
    | none => rw [step_record_of_inactive ha]
    | some a =>
      rw [step_record_of_active ha, setBackend_monitors]
      by_cases hmn : m = n
      · rw [hmn, setMonitor_monitors_self, ha]
      · rw [setMonitor_monitors_of_ne _ _ hmn]
  | register b views => rw [(step_register f b views).1, setBackend_monitors]
  | submit | refuseNext | clear => rfl

end Request

end Fleet
end Telemetry
