/-
# What happens to a monitor before it is enabled is invisible afterwards

Calls on a monitor that does not become enabled leave the monitor as it was,
make no call on a metrics recorder and add no sample to a backend. The one
trace is at a capturing backend, which counts the attempts it refused and has
used up a refusal that awaited (`Fleet.run_of_inactive`). What a monitor does
next depends on nothing but itself and the backends (`Fleet.run_withMonitor`),
so from there on it acts like a new one.

Key definitions: `Backend.refusedTimes`, `MonitorCall.attempts`,
`Operation.withMonitor`.
Key theorems: `Fleet.step_of_inactive`, `Fleet.run_of_inactive`,
`Fleet.step_withMonitor`, `Fleet.run_withMonitor`,
`Fleet.disabled_past_is_invisible`.
-/
import Mathlib
import Telemetry.Proofs.Lifecycle

namespace Telemetry

/-! ### Refused attempts -/

/-- The backend after it refused a number of batches. -/
def Backend.refusedTimes (k : ℕ) : Backend → Backend
  | .capture c =>
    .capture { c with
      registrations := c.registrations + k
      refusal? := if k = 0 then c.refusal? else none }
  | .exporter e => .exporter e

@[simp] theorem Backend.refusedTimes_zero (b : Backend) : b.refusedTimes 0 = b := by
  cases b <;> rfl

theorem Backend.refusedTimes_one (b : Backend) : b.refusedTimes 1 = b.refused := by
  cases b <;> rfl

theorem Backend.refusedTimes_add (b : Backend) (j k : ℕ) :
    (b.refusedTimes j).refusedTimes k = b.refusedTimes (j + k) := by
  cases b with
  | exporter e => rfl
  | capture c =>
    by_cases hk : k = 0
    · subst hk
      simp [refusedTimes]
    · simp [refusedTimes, hk, Nat.add_assoc]

@[simp] theorem Backend.kept?_refusedTimes (b : Backend) (k : ℕ) :
    (b.refusedTimes k).kept? = b.kept? := by cases b <;> rfl

/-- How many of the calls are attempts to enable the monitor on backend `b`. -/
def MonitorCall.attempts {β : Type} [DecidableEq β] (b : β) (calls : List (MonitorCall β)) : ℕ :=
  calls.countP fun c => decide (c.request?.map (fun r => r.1.backend) = some b)

/-- The operation, with `m` in the place of the one monitor it knows. -/
def Operation.withMonitor {μ β : Type} (m : μ) : Operation Unit β → Operation μ β
  | .enable _ b appId bounds => .enable m b appId bounds
  | .enableWith _ b settings => .enableWith m b settings
  | .record _ event now => .record m event now
  | .register b views => .register b views
  | .submit b sample => .submit b sample
  | .refuseNext b err => .refuseNext b err
  | .clear b => .clear b

namespace Fleet

variable {μ β : Type} [DecidableEq μ] [DecidableEq β] {f g h : Fleet μ β} {m n : μ}

/-! ### Calls that do not enable the monitor -/

/-- A call that does not enable the monitor leaves all monitors as they were,
and the backends but for the count of refusals. -/
theorem step_of_inactive {c : MonitorCall β} (hoff : (f.monitors m).active? = none)
    (hafter : ((f.step (c.on m)).1.monitors m).active? = none) :
    (f.step (c.on m)).1.monitors = f.monitors ∧
      (∀ b, (f.step (c.on m)).1.backends b =
        (f.backends b).refusedTimes (MonitorCall.attempts b [c])) ∧
      (f.step (c.on m)).2.traffic.updates = [] := by
  cases hreq : c.request? with
  | none =>
    have hnone : ∀ b, MonitorCall.attempts b [c] = 0 := fun b => by
      simp [MonitorCall.attempts, hreq]
    simp only [hnone, Backend.refusedTimes_zero]
    rcases MonitorCall.cases_of_no_request m hreq with ⟨b, settings, hset, heq⟩ | ⟨event, now, heq⟩
    · rw [heq, step_enableWith_of_off hset]
      exact ⟨rfl, fun _ => rfl, rfl⟩
    · rw [heq, step_record_of_inactive hoff]
      exact ⟨rfl, fun _ => rfl, rfl⟩
  | some r =>
    obtain ⟨a, bounds⟩ := r
    have hreq' : (c.on m).request? m = some (a, bounds) := by rw [MonitorCall.request?_on, hreq]
    rcases attempt_cases f hreq' with
      ⟨now, hon, -⟩ | ⟨-, err, traffic, -, heq, hupdates⟩ | ⟨-, traffic, -, heq, -⟩
    · rw [hoff] at hon
      cases hon
    · rw [heq]
      refine ⟨rfl, fun b => ?_, hupdates⟩
      by_cases hb : b = a.backend
      · have hone : MonitorCall.attempts b [c] = 1 := by
          simp [MonitorCall.attempts, hreq, hb]
        rw [hone, Backend.refusedTimes_one, hb, setBackend_backends_self]
      · have hzero : MonitorCall.attempts b [c] = 0 := by
          simp [MonitorCall.attempts, hreq, Ne.symm hb]
        rw [hzero, Backend.refusedTimes_zero, setBackend_backends_of_ne _ _ hb]
    · rw [heq, setBackend_monitors, setMonitor_monitors_self] at hafter
      cases hafter

/-- So do any number of them. -/
theorem run_of_inactive {calls : List (MonitorCall β)} (hoff : (f.monitors m).active? = none)
    (hafter : ((f.run (calls.map (·.on m))).1.monitors m).active? = none) :
    (f.run (calls.map (·.on m))).1.monitors = f.monitors ∧
      (∀ b, (f.run (calls.map (·.on m))).1.backends b =
        (f.backends b).refusedTimes (MonitorCall.attempts b calls)) ∧
      f.updates (calls.map (·.on m)) = [] := by
  induction calls generalizing f with
  | nil => exact ⟨rfl, fun b => (Backend.refusedTimes_zero _).symm, rfl⟩
  | cons c calls ih =>
    rw [List.map_cons, run_cons] at hafter ⊢
    -- a monitor that the first call enabled would be enabled in the end
    have hnext : ((f.step (c.on m)).1.monitors m).active? = none := by
      cases hact : ((f.step (c.on m)).1.monitors m).active? with
      | none => rfl
      | some now =>
        have hend := active?_run_of_active hact (calls.map (·.on m))
        exact absurd (hend.symm.trans hafter) (Option.some_ne_none now)
    obtain ⟨hmonitors, hbackends, hupdates⟩ := step_of_inactive hoff hnext
    obtain ⟨hmonitors', hbackends', hupdates'⟩ := ih hnext hafter
    refine ⟨hmonitors'.trans hmonitors, fun b => ?_, ?_⟩
    · have hsplit : MonitorCall.attempts b (c :: calls) =
          MonitorCall.attempts b [c] + MonitorCall.attempts b calls := by
        rw [← List.singleton_append, MonitorCall.attempts, List.countP_append]
        rfl
      rw [hsplit, ← Backend.refusedTimes_add, ← hbackends]
      exact hbackends' b
    · rw [updates_cons, hupdates, hupdates', List.append_nil]

/-! ### Two monitors in the same state -/

omit [DecidableEq μ] in
theorem setBackend_backends_congr (hb : g.backends = h.backends) (b : β) (backend : Backend) :
    (g.setBackend b backend).backends = (h.setBackend b backend).backends := by
  rw [setBackend, setBackend, hb]

/-- The same attempt leads to the same. -/
theorem attempted_withMonitor (hb : g.backends = h.backends) (b : β) (a : Attempt β) :
    (g.attempted m b a).2 = (h.attempted n b a).2 ∧
      (g.attempted m b a).1.monitors m = (h.attempted n b a).1.monitors n ∧
      (g.attempted m b a).1.backends = (h.attempted n b a).1.backends := by
  refine ⟨rfl, ?_, setBackend_backends_congr hb b a.backend⟩
  rw [attempted, attempted, setBackend_monitors, setBackend_monitors, setMonitor_monitors_self,
    setMonitor_monitors_self]

theorem step_withMonitor (hm : g.monitors m = h.monitors n) (hb : g.backends = h.backends)
    (op : Operation Unit β) :
    (g.step (op.withMonitor m)).2 = (h.step (op.withMonitor n)).2 ∧
      (g.step (op.withMonitor m)).1.monitors m = (h.step (op.withMonitor n)).1.monitors n ∧
      (g.step (op.withMonitor m)).1.backends = (h.step (op.withMonitor n)).1.backends := by
  cases op with
  | enable _ b appId bounds =>
    simp only [Operation.withMonitor, step, hm, hb]
    exact attempted_withMonitor hb b _
  | enableWith _ b settings =>
    simp only [Operation.withMonitor, step, hm, hb]
    exact attempted_withMonitor hb b _
  | record _ event now =>
    simp only [Operation.withMonitor]
    cases hact : (h.monitors n).active? with
    | none =>
      rw [step_record_of_inactive hact, step_record_of_inactive (by rw [hm, hact])]
      exact ⟨rfl, hm, hb⟩
    | some a =>
      rw [step_record_of_active hact, step_record_of_active (by rw [hm, hact]), hm, hb]
      refine ⟨rfl, ?_, setBackend_backends_congr hb a.backend _⟩
      rw [setBackend_monitors, setBackend_monitors, setMonitor_monitors_self,
        setMonitor_monitors_self]
  | register b views =>
    simp only [Operation.withMonitor]
    rw [step, step, hb]
    rcases (h.backends b).register views with ⟨_ | err, backend, traffic⟩
    · exact ⟨rfl, hm, setBackend_backends_congr hb b backend⟩
    · exact ⟨rfl, hm, setBackend_backends_congr hb b backend⟩
  | submit b sample =>
    simp only [Operation.withMonitor, step, deliver, hb]
    exact ⟨trivial, hm, setBackend_backends_congr hb b _⟩
  | refuseNext b err =>
    simp only [Operation.withMonitor, step, hb]
    exact ⟨trivial, hm, setBackend_backends_congr hb b _⟩
  | clear b =>
    simp only [Operation.withMonitor, step, hb]
    exact ⟨trivial, hm, setBackend_backends_congr hb b _⟩

theorem run_withMonitor (hm : g.monitors m = h.monitors n) (hb : g.backends = h.backends)
    (ops : List (Operation Unit β)) :
    (g.run (ops.map (·.withMonitor m))).2 = (h.run (ops.map (·.withMonitor n))).2 ∧
      (g.run (ops.map (·.withMonitor m))).1.monitors m =
        (h.run (ops.map (·.withMonitor n))).1.monitors n ∧
      (g.run (ops.map (·.withMonitor m))).1.backends =
        (h.run (ops.map (·.withMonitor n))).1.backends := by
  induction ops generalizing g h with
  | nil => exact ⟨rfl, hm, hb⟩
  | cons op ops ih =>
    obtain ⟨houtcome, hmonitor, hbackends⟩ := step_withMonitor hm hb op
    obtain ⟨houtcomes, hrest⟩ := ih hmonitor hbackends
    exact ⟨congrArg₂ List.cons houtcome houtcomes, hrest⟩

/-- **What happens to a monitor before it is enabled is invisible afterwards.**
Over every sequence of calls on a new monitor that does not become enabled:
no call is made on a metrics recorder, no backend gets a sample, and no actor
type has a total. From there on the monitor answers, and everything goes out,
as with a new monitor on backends in the same states, whatever else happens to
these. An exporting backend is as it was, so that any later attempt on it ends
as if the calls had not been made; a capturing one has counted the attempts on
it, and the first of them used up a refusal that awaited. -/
theorem disabled_past_is_invisible (f : Fleet μ β) (m : μ) (hf : f.monitors m = .fresh)
    (calls : List (MonitorCall β))
    (hoff : ((f.run (calls.map (·.on m))).1.monitors m).isEnabled = false) :
    let g := (f.run (calls.map (·.on m))).1
    f.updates (calls.map (·.on m)) = [] ∧
    (∀ b, (g.backends b).kept? = (f.backends b).kept?) ∧
    (∀ actorType, (g.monitors m).backlog.total? actorType = none) ∧
    (∀ (h : Fleet μ β) (n : μ), h.monitors n = .fresh → h.backends = g.backends →
      ∀ more : List (Operation Unit β),
        (g.run (more.map (·.withMonitor m))).2 = (h.run (more.map (·.withMonitor n))).2 ∧
        (g.run (more.map (·.withMonitor m))).1.monitors m =
          (h.run (more.map (·.withMonitor n))).1.monitors n ∧
        (g.run (more.map (·.withMonitor m))).1.backends =
          (h.run (more.map (·.withMonitor n))).1.backends) ∧
    (∀ b e, f.backends b = .exporter e → g.backends b = .exporter e ∧
      ∀ n op a bounds, op.request? n = some (a, bounds) → a.backend = b →
        (g.step op).2 = (f.step op).2) ∧
    ∀ b c, f.backends b = .capture c → g.backends b = .capture { c with
      registrations := c.registrations + MonitorCall.attempts b calls
      refusal? := if MonitorCall.attempts b calls = 0 then c.refusal? else none } := by
  have hbefore : (f.monitors m).active? = none := by rw [hf]; rfl
  have hafter : ((f.run (calls.map (·.on m))).1.monitors m).active? = none := by
    rwa [Monitor.isEnabled, Option.isSome_eq_false_iff, Option.isNone_iff_eq_none] at hoff
  obtain ⟨hmonitors, hbackends, hupdates⟩ := run_of_inactive hbefore hafter
  have hfresh : (f.run (calls.map (·.on m))).1.monitors m = .fresh := by rw [hmonitors, hf]
  refine ⟨hupdates, fun b => ?_, fun actorType => ?_, fun h n hn hb more => ?_,
    fun b e he => ?_, fun b c hc => ?_⟩
  · rw [hbackends, Backend.kept?_refusedTimes]
  · rw [hfresh]
    rfl
  · exact run_withMonitor (hfresh.trans hn.symm) hb.symm more
  · have hsame : (f.run (calls.map (·.on m))).1.backends b = f.backends b := by
      rw [hbackends, he]
      rfl
    refine ⟨hsame.trans he, fun n op a bounds hreq ha => ?_⟩
    rw [step_of_request hreq, step_of_request hreq, hmonitors, ha, hsame]
    rfl
  · rw [hbackends, hc]
    rfl

/-- The capturing backend refuses since it was told to, as if the monitor were
enabled already, and the exporting one since it holds the name of the last view
of the catalogue. -/
theorem disabled_past_is_invisible_after_both_refuse :
    let latency : View := Instrument.responseLatency.view [.ofNat 1]
    let f : Fleet Unit Bool := ⟨fun _ => .fresh, fun b =>
      if b then .exporter (({} : Exporter).addAll [latency])
      else .capture { refusal? := some .alreadyEnabled }⟩
    let calls : List (MonitorCall Bool) :=
      [.record (.pendingCallsChanged "cart" 3) ⟨0⟩, .enable false "checkout" [.ofNat 1],
        .enable true "checkout" [.ofNat 5], .enableWith true ⟨false, "orders", [.ofNat 1]⟩]
    let past : List (Operation Unit Bool) := calls.map (·.on ())
    let g := (f.run past).1
    let new : Fleet Unit Bool := ⟨fun _ => .fresh, g.backends⟩
    (f.run past).2.map Outcome.answer =
      [.done, .refused .alreadyEnabled, .refused (.duplicateView latency.name), .off] ∧
    f.updates past = [] ∧ (g.monitors ()).backlog.total? "cart" = none ∧
    g.backends true = f.backends true ∧ g.backends false = .capture { registrations := 1 } ∧
    ∀ more : List (Operation Unit Bool),
      (g.run (more.map (·.withMonitor ()))).2 = (new.run (more.map (·.withMonitor ()))).2 := by
  intro latency f calls past g new
  obtain ⟨hupdates, -, htotal, hmore, hexporter, hcapture⟩ :=
    disabled_past_is_invisible f () rfl calls (by decide +kernel)
  exact ⟨by decide +kernel, hupdates, htotal "cart", (hexporter true _ rfl).1,
    hcapture false _ rfl, fun more => (hmore new () rfl rfl more).1⟩

end Fleet
end Telemetry
