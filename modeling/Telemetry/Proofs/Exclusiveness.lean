/-
# No two monitors share a backend

A monitor is enabled by a backend that takes the names of the whole catalogue.
No operation takes a name away, so that backend refuses the catalogue from then
on, to this monitor and to every other (`Fleet.Exclusive`). Hence whatever the
monitors of a fleet report to one backend comes from a single one of them.

Key definition: `Fleet.Exclusive`.
Key theorems: `Fleet.enabledBy_eq_some`, `Fleet.Exclusive.step`,
`Fleet.Exclusive.run`, `Fleet.monitors_never_share_backend`.
-/
import Mathlib
import Telemetry.Proofs.Deliveries

namespace Telemetry

namespace Fleet

variable {μ β : Type} [DecidableEq μ] [DecidableEq β] {f : Fleet μ β} {m n : μ} {b : β}
  {a now : Active β} {op : Operation μ β}

/-! ### The invariant -/

/-- The backend of an enabled monitor holds the catalogue, and is the backend
of no other. -/
structure Exclusive (f : Fleet μ β) : Prop where
  held : ∀ m a, (f.monitors m).active? = some a → (f.backends a.backend).HoldsCatalogue
  alone : ∀ m n a now, (f.monitors m).active? = some a → (f.monitors n).active? = some now →
    a.backend = now.backend → m = n

omit [DecidableEq μ] [DecidableEq β] in
theorem exclusive_of_fresh (h : ∀ m, f.monitors m = .fresh) : Exclusive f where
  held m a ha := by
    rw [h m] at ha
    cases ha
  alone m _ a _ ha := by
    rw [h m] at ha
    cases ha

/-- A monitor is enabled on a backend that does not hold the catalogue before,
and does after. -/
theorem enabledBy_eq_some (h : f.enabledBy m op = some a) :
    ¬ (f.backends a.backend).HoldsCatalogue ∧
      ((f.step op).1.backends a.backend).HoldsCatalogue ∧
      ∃ bounds, op.request? m = some (a, bounds) := by
  cases hreq : op.request? m with
  | none =>
    rw [enabledBy_of_no_request hreq] at h
    cases h
  | some r =>
    obtain ⟨asked, bounds⟩ := r
    rcases attempt_cases f hreq with
      ⟨now, hon, -⟩ | ⟨-, err, traffic, -, heq, -⟩ | ⟨-, traffic, -, heq, hnot, hholds, -⟩
    · rw [enabledBy_of_active hon] at h
      cases h
    · rw [enabledBy_of_refused (by rw [heq])] at h
      cases h
    · rw [enabledBy_of_done hreq (by rw [heq]), Option.some.injEq] at h
      subst h
      refine ⟨hnot, ?_, bounds, rfl⟩
      rw [heq, setBackend_backends_self]
      exact hholds

/-- A monitor that is enabled after an operation was so before it, or is
enabled by it. -/
theorem active?_step_cases (h : ((f.step op).1.monitors m).active? = some a) :
    (f.monitors m).active? = some a ∨ f.enabledBy m op = some a := by
  rw [active?_step, Option.or_eq_some_iff] at h
  rcases h with h | ⟨-, h⟩
  · exact Or.inl h
  · exact Or.inr h

/-- One operation keeps backends apart: it cannot enable a monitor on the
backend of another, since that backend holds the catalogue. -/
theorem Exclusive.step (h : Exclusive f) (op : Operation μ β) : Exclusive (f.step op).1 where
  held m a ha := by
    rcases active?_step_cases ha with hold | hnew
    · exact (h.held m a hold).next (f.backends_step op a.backend)
    · exact (enabledBy_eq_some hnew).2.1
  alone m n a now ha hnow hsame := by
    rcases active?_step_cases ha with hm | hm
    · rcases active?_step_cases hnow with hn | hn
      · exact h.alone m n a now hm hn hsame
      · have hheld := h.held m a hm
        rw [hsame] at hheld
        exact absurd hheld (enabledBy_eq_some hn).1
    · rcases active?_step_cases hnow with hn | hn
      · have hheld := h.held n now hn
        rw [← hsame] at hheld
        exact absurd hheld (enabledBy_eq_some hm).1
      · obtain ⟨-, -, _, hreqm⟩ := enabledBy_eq_some hm
        obtain ⟨-, -, _, hreqn⟩ := enabledBy_eq_some hn
        exact Operation.eq_of_request? hreqm hreqn

theorem Exclusive.run (h : Exclusive f) (ops : List (Operation μ β)) :
    Exclusive (f.run ops).1 := by
  induction ops generalizing f with
  | nil => exact h
  | cons op ops ih => exact ih (h.step op)

/-- **No two monitors share a backend.** Over every run of a fleet whose
monitors are all new at first, with operations of any kind on any of them and
on any backends: two monitors that are enabled on the same backend are one.
The backend of an enabled monitor holds the whole catalogue from then on, and
refuses every attempt to enable a monitor on it. So all the samples of events
that are delivered to a backend come from one monitor, under one application
id, and are what an event adds to the samples that a backend keeps. -/
theorem monitors_never_share_backend (f : Fleet μ β) (hf : ∀ m, f.monitors m = .fresh)
    (ops : List (Operation μ β)) :
    let g := (f.run ops).1
    (∀ m n a now, (g.monitors m).active? = some a → (g.monitors n).active? = some now →
      a.backend = now.backend → m = n) ∧
    (∀ m a, (g.monitors m).active? = some a → ∀ more,
      (∀ i : Instrument, i.name ∈ ((g.run more).1.backends a.backend).names) ∧
      ∀ n op asked bounds, op.request? n = some (asked, bounds) → asked.backend = a.backend →
        ∃ err, ((g.run more).1.step op).2.answer = .refused err) ∧
    (∀ d ∈ f.deliveries ops, ∀ e ∈ f.deliveries ops, d.source.backend = e.source.backend →
      d.monitor = e.monitor ∧ d.source = e.source) ∧
    ∀ m event time b, ((g.step (.record m event time)).1.backends b).kept? =
      (g.backends b).kept?.map
        (· ++ Delivery.samplesTo b (g.delivering (.record m event time))) := by
  have hex : Exclusive (f.run ops).1 := (exclusive_of_fresh hf).run ops
  refine ⟨hex.alone, fun m a ha more => ?_, fun d hd e he hsame => ?_, kept?_step_record _⟩
  · have hholds := holdsCatalogue_run (hex.held m a ha) more
    refine ⟨hholds, fun n op asked bounds hreq hsame => ?_⟩
    rcases attempt_cases ((f.run ops).1.run more).1 hreq with
      ⟨now, -, heq⟩ | ⟨-, err, traffic, -, heq, -⟩ | ⟨-, traffic, -, -, hnot, -⟩
    · exact ⟨_, by rw [heq]⟩
    · exact ⟨err, by rw [heq]⟩
    · rw [hsame] at hnot
      exact absurd hholds hnot
  · have hdact := active?_of_mem_deliveries hd
    have heact := active?_of_mem_deliveries he
    have hone := hex.alone d.monitor e.monitor _ _ hdact heact hsame
    rw [hone, heact, Option.some.injEq] at hdact
    exact ⟨hone, hdact.symm⟩

/-- Monitor `true` is refused twice on the backend of monitor `false`, first as
that backend was told to, then since it holds the catalogue though its samples
were forgotten. The third attempt, on the other backend, succeeds. -/
theorem monitors_never_share_backend_after_two_refusals :
    let f : Fleet Bool Bool := ⟨fun _ => .fresh, fun b => if b then .exporter {} else .capture {}⟩
    let ops : List (Operation Bool Bool) :=
      [.enable false false "checkout" [.ofNat 1], .record false .mtlsInitialized ⟨0⟩,
        .clear false, .refuseNext false .alreadyEnabled, .enable true false "orders" [.ofNat 1],
        .enableWith true false ⟨true, "orders", [.ofNat 1]⟩, .enable true true "orders" [.ofNat 1],
        .record true (.actorRebalanced "cart") ⟨0⟩, .record false (.actorRebalanced "cart") ⟨0⟩]
    (∀ m, f.monitors m = .fresh) ∧
    (f.run ops).2.map Outcome.answer = [.done, .done, .done, .done, .refused .alreadyEnabled,
      .refused (.duplicateView Instrument.componentLoaded.name), .done, .done, .done] ∧
    (f.deliveries ops).map (fun d => (d.monitor, d.source)) =
      [(false, ⟨"checkout", false⟩), (true, ⟨"orders", true⟩), (false, ⟨"checkout", false⟩)] ∧
    ∀ d ∈ f.deliveries ops, ∀ e ∈ f.deliveries ops, d.source.backend = e.source.backend →
      d.monitor = e.monitor ∧ d.source = e.source :=
  ⟨fun _ => rfl, by decide +kernel, by decide +kernel,
    (monitors_never_share_backend _ (fun _ => rfl) _).2.2.1⟩

end Fleet
end Telemetry
