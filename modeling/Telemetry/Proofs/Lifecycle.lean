/-
# A monitor is enabled once

Over any run of a fleet, the attempts to enable one monitor that succeed are
listed (`Fleet.enablings`). There is one at most, since a success makes the
monitor an enabled one (`Fleet.active?_step`) and an enabled monitor refuses
every attempt. What the monitor is enabled as is what that one attempt asked
for, and it stays so.

Key definitions: `Fleet.enabledBy`, `Fleet.enablings`, `Fleet.Lifecycle`.
Key theorems: `Fleet.active?_step`, `Fleet.active?_run_of_active`,
`Fleet.enablings_of_inactive`, `Fleet.lifecycle_of_active?`, `Fleet.enabled_once`.
-/
import Mathlib
import Telemetry.Proofs.Holdings

namespace Telemetry
namespace Fleet

variable {μ β : Type} [DecidableEq μ] [DecidableEq β] {f : Fleet μ β} {m : μ}
  {op : Operation μ β} {ops : List (Operation μ β)} {now : Active β}

/-! ### One operation -/

/-- What the operation enables monitor `m` as: what it asks for, if it is an
attempt that is answered with success. -/
def enabledBy (f : Fleet μ β) (m : μ) (op : Operation μ β) : Option (Active β) :=
  if (f.step op).2.answer = .done then (op.request? m).map Prod.fst else none

theorem enabledBy_of_no_request (h : op.request? m = none) : f.enabledBy m op = none := by
  rw [enabledBy, h, Option.map_none, ite_self]

theorem enabledBy_of_refused {err : RegistrationError}
    (h : (f.step op).2.answer = .refused err) : f.enabledBy m op = none := by
  rw [enabledBy, h, if_neg Answer.noConfusion]

theorem enabledBy_of_done {a : Active β} {bounds : List Binary64}
    (hreq : op.request? m = some (a, bounds)) (h : (f.step op).2.answer = .done) :
    f.enabledBy m op = some a := by
  rw [enabledBy, if_pos h, hreq, Option.map_some]

/-- An enabled monitor is not enabled again. -/
theorem enabledBy_of_active (h : (f.monitors m).active? = some now) : f.enabledBy m op = none := by
  cases hreq : op.request? m with
  | none => exact enabledBy_of_no_request hreq
  | some r => exact enabledBy_of_refused (by rw [step_of_enabled hreq h])

/-- An operation leaves an enabled monitor what it is, and makes another one
what it enables it as. -/
theorem active?_step (f : Fleet μ β) (m : μ) (op : Operation μ β) :
    ((f.step op).1.monitors m).active? = (f.monitors m).active?.or (f.enabledBy m op) := by
  cases hreq : op.request? m with
  | none => rw [active?_step_of_no_request hreq, enabledBy_of_no_request hreq, Option.or_none]
  | some r =>
    obtain ⟨a, bounds⟩ := r
    rcases attempt_cases f hreq with
      ⟨now, hon, heq⟩ | ⟨hoff, err, traffic, -, heq, -⟩ | ⟨hoff, traffic, -, heq, -⟩
    · rw [enabledBy_of_active hon, heq, Option.or_none]
    · rw [enabledBy_of_refused (by rw [heq]), heq, setBackend_monitors, Option.or_none]
    · rw [enabledBy_of_done hreq (by rw [heq]), heq, setBackend_monitors,
        setMonitor_monitors_self, hoff, Option.none_or]

theorem active?_step_of_active (h : (f.monitors m).active? = some now) (op : Operation μ β) :
    ((f.step op).1.monitors m).active? = some now := by
  rw [active?_step, h, Option.some_or]

/-! ### Runs -/

/-- What monitor `m` is enabled as by the operations of a run, in order. -/
def enablings (f : Fleet μ β) (m : μ) : List (Operation μ β) → List (Active β)
  | [] => []
  | op :: ops => (f.enabledBy m op).toList ++ (f.step op).1.enablings m ops

theorem enablings_append (f : Fleet μ β) (m : μ) (ops more : List (Operation μ β)) :
    f.enablings m (ops ++ more) = f.enablings m ops ++ (f.run ops).1.enablings m more := by
  induction ops generalizing f with
  | nil => rfl
  | cons op ops ih =>
    rw [List.cons_append, enablings, enablings, ih, List.append_assoc]
    rfl

/-- Nothing takes from a monitor what it is enabled as. -/
theorem active?_run_of_active (h : (f.monitors m).active? = some now)
    (ops : List (Operation μ β)) : ((f.run ops).1.monitors m).active? = some now := by
  induction ops generalizing f with
  | nil => exact h
  | cons op ops ih => exact ih (active?_step_of_active h op)

theorem enablings_of_active (h : (f.monitors m).active? = some now) (ops : List (Operation μ β)) :
    f.enablings m ops = [] := by
  induction ops generalizing f with
  | nil => rfl
  | cons op ops ih =>
    rw [enablings, enabledBy_of_active h, ih (active?_step_of_active h op)]
    rfl

/-- A monitor that is not enabled is enabled once at most, and is then what the
one attempt asked for. -/
theorem enablings_of_inactive (h : (f.monitors m).active? = none) (ops : List (Operation μ β)) :
    f.enablings m ops = ((f.run ops).1.monitors m).active?.toList := by
  induction ops generalizing f with
  | nil =>
    rw [run, h]
    rfl
  | cons op ops ih =>
    have hstep := active?_step f m op
    rw [h, Option.none_or] at hstep
    rw [enablings]
    cases hby : f.enabledBy m op with
    | none =>
      rw [hby] at hstep
      rw [ih hstep]
      rfl
    | some a =>
      rw [hby] at hstep
      rw [enablings_of_active hstep ops]
      exact (congrArg Option.toList (active?_run_of_active hstep ops)).symm

/-! ### The life of a monitor -/

/-- How monitor `m` stands at `g` when `enabled` lists the attempts to enable it
that have succeeded so far. -/
structure Lifecycle (g : Fleet μ β) (m : μ) (enabled : List (Active β)) : Prop where
  /-- One attempt has succeeded at most. -/
  once : enabled.length ≤ 1
  isEnabled : (g.monitors m).isEnabled = !enabled.isEmpty
  appId : (g.monitors m).appId? = enabled.head?.map Active.appId
  /-- Before the success, events go nowhere. -/
  silent : enabled = [] → ∀ event now, g.step (.record m event now) = (g, ⟨.done, .none⟩)
  /-- After it, their samples go to the backend of that attempt and to no other. -/
  delivered : ∀ a ∈ enabled, ∀ event now,
    let sent := (g.backends a.backend).submit ((g.monitors m).record event now).2
    (g.step (.record m event now)).1.backends = replace g.backends a.backend sent.1 ∧
      (g.step (.record m event now)).2 = ⟨.done, sent.2⟩
  /-- Before the success, an attempt is answered as the backend answers. -/
  answered : enabled = [] → ∀ op a bounds, op.request? m = some (a, bounds) →
    (g.step op).2.answer =
      (((g.backends a.backend).register (View.catalogue bounds)).1.elim .done .refused)
  /-- After it, an attempt is refused, and all is left as it is. -/
  repeated : enabled ≠ [] → ∀ op a bounds, op.request? m = some (a, bounds) →
    g.step op = (g, ⟨.refused .alreadyEnabled,
      .log .warn "[SVCMON] Metrics recorder initialized more than once"⟩)
  /-- Settings that have metrics off never do anything. -/
  off : ∀ b settings, settings.enabled = false →
    g.step (.enableWith m b settings) =
      (g, ⟨.off, .log .info s!"[SVCMON] Metrics disabled for `{settings.appId}`"⟩)

/-- The life of a monitor, by what it is enabled as now. -/
theorem lifecycle_of_active? (g : Fleet μ β) (m : μ) :
    Lifecycle g m (g.monitors m).active?.toList where
  once := by cases (g.monitors m).active? <;> simp
  isEnabled := by
    rw [Monitor.isEnabled]
    cases (g.monitors m).active? <;> rfl
  appId := by
    rw [Monitor.appId?]
    cases (g.monitors m).active? <;> rfl
  silent h event now := step_record_of_inactive (Option.toList_eq_nil_iff.mp h) event now
  delivered a ha event now := by
    have hact : (g.monitors m).active? = some a := Option.mem_toList.mp ha
    rw [step_record_of_active hact, Monitor.record, hact]
    exact ⟨rfl, rfl⟩
  answered h op a bounds hreq := by
    have hoff : (g.monitors m).active? = none := Option.toList_eq_nil_iff.mp h
    rcases attempt_cases g hreq with
      ⟨now, hon, -⟩ | ⟨-, err, traffic, hr, heq, -⟩ | ⟨-, traffic, hr, heq, -⟩
    · rw [hoff] at hon
      cases hon
    · rw [heq, hr, Option.elim_some]
    · rw [heq, hr, Option.elim_none]
  repeated h op a bounds hreq := by
    obtain ⟨now, hon⟩ := Option.ne_none_iff_exists'.mp (mt Option.toList_eq_nil_iff.mpr h)
    exact step_of_enabled hreq hon
  off b settings hoff := step_enableWith_of_off hoff

/-- **A monitor is enabled at most once, and for good.** Over every run of a
fleet in which a monitor is new at first, at most one attempt to enable it
succeeds, whether direct or by settings. Until then it is not enabled, has no
application id and answers an attempt as the backend does; from then on it is
what that attempt asked for, every sample goes to that backend, and every
attempt is refused without a touch on the backend it names. -/
theorem enabled_once (f : Fleet μ β) (m : μ) (hf : f.monitors m = .fresh)
    (ops : List (Operation μ β)) :
    Lifecycle (f.run ops).1 m (f.enablings m ops) ∧
    ∀ more, f.enablings m ops ≠ [] → f.enablings m (ops ++ more) = f.enablings m ops := by
  have hoff : (f.monitors m).active? = none := by rw [hf]; rfl
  have hnow := enablings_of_inactive hoff ops
  refine ⟨by rw [hnow]; exact lifecycle_of_active? _ m, fun more hne => ?_⟩
  rw [hnow] at hne
  obtain ⟨a, ha⟩ := Option.ne_none_iff_exists'.mp (mt Option.toList_eq_nil_iff.mpr hne)
  rw [enablings_append, enablings_of_active ha more, List.append_nil]

/-- The capturing backend first refuses as if the monitor were enabled already,
and the exporting one for want of bounds; the third attempt succeeds, and a
fourth is refused. -/
theorem enabled_once_after_two_refusals :
    let f : Fleet Unit Bool := ⟨fun _ => .fresh,
      fun b => if b then .exporter {} else .capture { refusal? := some .alreadyEnabled }⟩
    let ops : List (Operation Unit Bool) :=
      [.record () .componentLoaded ⟨0⟩, .enable () false "checkout" [.ofNat 1],
        .enable () true "checkout" [], .enableWith () true ⟨false, "cart", [.ofNat 1]⟩,
        .enableWith () false ⟨true, "orders", [.ofNat 1]⟩, .enable () true "cart" [.ofNat 1]]
    f.monitors () = .fresh ∧
    (f.run ops).2.map Outcome.answer = [.done, .refused .alreadyEnabled,
      .refused (.invalidAggregation Instrument.responseLatency.name "no bucket bounds"), .off,
      .done, .refused .alreadyEnabled] ∧
    f.enablings () ops = [⟨"orders", false⟩] ∧
    Lifecycle (f.run ops).1 () (f.enablings () ops) ∧
    ∀ more, f.enablings () ops ≠ [] → f.enablings () (ops ++ more) = f.enablings () ops :=
  ⟨rfl, by decide +kernel, by decide +kernel, enabled_once _ () rfl _⟩

end Fleet
end Telemetry
