/-
# What a backend holds

Either kind of backend takes a batch whole or refuses it. A batch that is taken
has new names only, which are held from then on, and nothing but descriptions
goes out. A batch that is refused leaves the names and the samples as they were
(`Backend.register_cases`). No operation on a fleet takes a name away from a
backend (`Fleet.backends_step`, `Backend.Next.names_prefix`), so a backend that
took the catalogue once refuses it for ever. An attempt to enable a monitor has
one of three ends (`Fleet.attempt_cases`).

Key definitions: `Backend.names`, `Backend.kept?`, `Backend.refused`,
`Backend.addAll`, `Backend.Next`, `Backend.HoldsCatalogue`.
Key theorems: `Backend.register_cases`, `Backend.Next.names_prefix`,
`Backend.HoldsCatalogue.register_catalogue`, `Fleet.backends_step`,
`Fleet.holdsCatalogue_run`, `Fleet.attempt_cases`.
-/
import Mathlib
import Telemetry.Proofs.Offences
import Telemetry.Proofs.Operations

namespace Telemetry

namespace Backend

/-! ### The parts of a backend -/

/-- The names of the views that are held. -/
def names : Backend → List String
  | .capture c => c.views.map View.name
  | .exporter e => e.registered.keys

/-- The samples that are kept; an exporting backend keeps none. -/
def kept? : Backend → Option (List Sample)
  | .capture c => some c.samples
  | .exporter _ => none

/-- The backend after it refused a batch. A capturing one has counted the try,
and a refusal that awaited is used up. -/
def refused : Backend → Backend
  | .capture c => .capture { c with registrations := c.registrations + 1, refusal? := none }
  | .exporter e => .exporter e

/-- The backend after it took a batch. -/
def addAll (b : Backend) (views : List View) : Backend :=
  match b with
  | .capture c =>
    .capture { c with
      views := c.views ++ views, registrations := c.registrations + 1, refusal? := none }
  | .exporter e => .exporter (e.addAll views)

@[simp] theorem names_refused (b : Backend) : b.refused.names = b.names := by cases b <;> rfl

@[simp] theorem kept?_refused (b : Backend) : b.refused.kept? = b.kept? := by cases b <;> rfl

@[simp] theorem kept?_addAll (b : Backend) (views : List View) :
    (b.addAll views).kept? = b.kept? := by cases b <;> rfl

theorem kept?_submit (b : Backend) (samples : List Sample) :
    (b.submit samples).1.kept? = b.kept?.map (· ++ samples) := by cases b <;> rfl

/-- A backend that keeps samples is a capturing one. -/
theorem eq_capture_of_kept? {b : Backend} {samples : List Sample} (h : b.kept? = some samples) :
    ∃ cap : Capture, b = .capture cap ∧ cap.samples = samples := by
  cases b with
  | capture cap => exact ⟨cap, rfl, Option.some.inj h⟩
  | exporter e => cases h

end Backend

/-! ### A batch is taken whole or refused -/

theorem Capture.holds_eq_false_iff {c : Capture} {name : String} :
    c.holds name = false ↔ name ∉ c.views.map View.name := by
  simp [Capture.holds]

/-- A batch is refused when a refusal awaits or one of its names is held. -/
theorem Capture.register_cases (c : Capture) (views : List View) :
    (∃ err, (Backend.capture c).register views =
      (some err, (Backend.capture c).refused, .none)) ∨
    ((∀ v ∈ views, v.name ∉ c.views.map View.name) ∧
      (Backend.capture c).register views = (none, (Backend.capture c).addAll views, .none)) := by
  rw [Backend.register, Capture.register]
  cases hawaits : c.refusal? with
  | some err => exact Or.inl ⟨err, rfl⟩
  | none =>
    cases hdup : c.duplicate? views with
    | some v => exact Or.inl ⟨.duplicateView v.name, rfl⟩
    | none =>
      refine Or.inr ⟨fun v hv => ?_, rfl⟩
      rw [Capture.duplicate?, List.find?_eq_none] at hdup
      rw [← Capture.holds_eq_false_iff]
      simpa using hdup v hv

namespace Backend

/-- A batch is refused, which leaves no trace but in the counts of a capturing
backend, or taken: then its names are new, and only descriptions go out. -/
theorem register_cases (b : Backend) (views : List View) :
    (∃ err, b.register views = (some err, b.refused, .none)) ∨
    ∃ traffic, b.register views = (none, b.addAll views, traffic) ∧
      (∀ v ∈ views, v.name ∉ b.names) ∧ (b.addAll views).names = b.names ++ views.map View.name ∧
      ∀ u ∈ traffic.updates, u.isDescribe = true := by
  cases b with
  | capture c =>
    rcases c.register_cases views with ⟨err, heq⟩ | ⟨hfresh, heq⟩
    · exact Or.inl ⟨err, heq⟩
    · exact Or.inr ⟨.none, heq, hfresh, List.map_append, fun u hu => absurd hu List.not_mem_nil⟩
  | exporter e =>
    rcases e.register_cases views with ⟨_, err, -, heq⟩ | ⟨hacc, heq⟩
    · exact Or.inl ⟨err, by rw [register, heq]; rfl⟩
    · refine Or.inr ⟨_, by rw [register, heq]; rfl, hacc.fresh, Exporter.keys_addAll hacc, ?_⟩
      intro u hu
      obtain ⟨v, -, rfl⟩ := List.mem_map.mp hu
      rfl

/-! ### What an operation can make of a backend -/

/-- The backends that one operation can make of a backend. -/
inductive Next (b : Backend) : Backend → Prop
  | same : Next b b
  | register (views : List View) : Next b (b.register views).2.1
  | submit (samples : List Sample) : Next b (b.submit samples).1
  | refuseNext (err : RegistrationError) : Next b (b.refuseNext err)
  | clear : Next b b.clear

/-- No name is taken away. -/
theorem Next.names_prefix {b next : Backend} (h : b.Next next) : b.names <+: next.names := by
  cases h with
  | same => exact List.prefix_refl _
  | register views =>
    rcases b.register_cases views with ⟨err, heq⟩ | ⟨traffic, heq, -, hnames, -⟩
    · rw [heq, names_refused]
    · rw [heq, hnames]
      exact List.prefix_append _ _
  | submit | refuseNext | clear => cases b <;> exact List.prefix_refl _

/-! ### The catalogue -/

/-- The names of all instruments are held. -/
def HoldsCatalogue (b : Backend) : Prop := ∀ i : Instrument, i.name ∈ b.names

theorem HoldsCatalogue.next {b next : Backend} (h : b.HoldsCatalogue) (hn : b.Next next) :
    next.HoldsCatalogue := fun i => hn.names_prefix.subset (h i)

/-- A backend that took the catalogue holds it. -/
theorem holdsCatalogue_of_names {b : Backend} {names : List String} {bounds : List Binary64}
    (h : b.names = names ++ (View.catalogue bounds).map View.name) : b.HoldsCatalogue := by
  intro i
  rw [h, View.map_name_catalogue]
  exact List.mem_append_right _ (List.mem_map_of_mem (Instrument.mem_all i))

/-- A backend that holds the catalogue refuses it. -/
theorem HoldsCatalogue.register_catalogue {b : Backend} (h : b.HoldsCatalogue)
    (bounds : List Binary64) :
    ∃ err, b.register (View.catalogue bounds) = (some err, b.refused, .none) := by
  rcases b.register_cases (View.catalogue bounds) with hrefused | ⟨_, -, hfresh, -, -⟩
  · exact hrefused
  · have hmem : Instrument.componentLoaded.view bounds ∈ View.catalogue bounds :=
      List.mem_map_of_mem (Instrument.mem_all _)
    exact absurd (h .componentLoaded) (hfresh _ hmem)

end Backend

/-! ### Operations on a fleet -/

namespace Fleet

variable {μ β : Type} [DecidableEq μ] [DecidableEq β]

omit [DecidableEq μ] in
/-- A change of one backend, seen at another or the same. -/
theorem next_setBackend (f : Fleet μ β) {b : β} {backend : Backend}
    (h : (f.backends b).Next backend) (c : β) :
    (f.backends c).Next ((f.setBackend b backend).backends c) := by
  by_cases hc : c = b
  · rw [hc, setBackend_backends_self]
    exact h
  · rw [setBackend_backends_of_ne _ _ hc]
    exact .same

omit [DecidableEq μ] [DecidableEq β] in
theorem next_enable (monitor : Monitor β) (name : β) (backend : Backend) (appId : String)
    (bounds : List Binary64) :
    backend.Next (monitor.enable name backend appId bounds).backend := by
  rw [Monitor.enable]
  split
  · exact .same
  · have hnext : backend.Next (backend.register (View.catalogue bounds)).2.1 := .register _
    rcases hr : backend.register (View.catalogue bounds) with ⟨_ | err, after, traffic⟩
    · rw [hr] at hnext
      simpa only [hr] using hnext
    · rw [hr] at hnext
      simpa only [hr] using hnext

/-- What an operation can make of each backend. -/
theorem backends_step (f : Fleet μ β) (op : Operation μ β) (c : β) :
    (f.backends c).Next ((f.step op).1.backends c) := by
  cases op with
  | enable m b appId bounds =>
    exact next_setBackend (f.setMonitor m _) (next_enable _ _ _ _ _) c
  | enableWith m b settings =>
    cases hon : settings.enabled with
    | false =>
      rw [step_enableWith_of_off hon]
      exact .same
    | true =>
      rw [step, Monitor.enableWith, if_pos hon]
      exact next_setBackend (f.setMonitor m _) (next_enable _ _ _ _ _) c
  | record m event now =>
    cases ha : (f.monitors m).active? with
    | none =>
      rw [step_record_of_inactive ha]
      exact .same
    | some a =>
      rw [step_record_of_active ha]
      exact next_setBackend (f.setMonitor m _) (.submit _) c
  | register b views =>
    rw [(step_register f b views).1]
    exact next_setBackend f (.register views) c
  | submit b sample => exact next_setBackend f (.submit [sample]) c
  | refuseNext b err => exact next_setBackend f (.refuseNext err) c
  | clear b => exact next_setBackend f .clear c

/-- A backend that holds the catalogue holds it from then on. -/
theorem holdsCatalogue_run {f : Fleet μ β} {c : β} (h : (f.backends c).HoldsCatalogue)
    (ops : List (Operation μ β)) : ((f.run ops).1.backends c).HoldsCatalogue := by
  induction ops generalizing f with
  | nil => exact h
  | cons op ops ih => exact ih (h.next (f.backends_step op c))

/-! ### Attempts to enable a monitor -/

variable {m : μ} {op : Operation μ β} {a : Active β} {bounds : List Binary64}

/-- How an attempt can end: the monitor is enabled already and nothing is
touched; or its backend refuses the catalogue and only that backend changes; or
the backend takes the catalogue and the monitor is enabled. -/
theorem attempt_cases (f : Fleet μ β) (h : op.request? m = some (a, bounds)) :
    (∃ now, (f.monitors m).active? = some now ∧
      f.step op = (f, ⟨.refused .alreadyEnabled,
        .log .warn "[SVCMON] Metrics recorder initialized more than once"⟩)) ∨
    ((f.monitors m).active? = none ∧ ∃ err traffic,
      ((f.backends a.backend).register (View.catalogue bounds)).1 = some err ∧
      f.step op = (f.setBackend a.backend (f.backends a.backend).refused,
        ⟨.refused err, traffic⟩) ∧ traffic.updates = []) ∨
    ((f.monitors m).active? = none ∧ ∃ traffic,
      ((f.backends a.backend).register (View.catalogue bounds)).1 = none ∧
      f.step op = ((f.setMonitor m ⟨some a, (f.monitors m).backlog⟩).setBackend a.backend
        ((f.backends a.backend).addAll (View.catalogue bounds)), ⟨.done, traffic⟩) ∧
      ¬ (f.backends a.backend).HoldsCatalogue ∧
      ((f.backends a.backend).addAll (View.catalogue bounds)).HoldsCatalogue ∧
      ∀ u ∈ traffic.updates, u.isDescribe = true) := by
  cases hact : (f.monitors m).active? with
  | some now => exact Or.inl ⟨now, rfl, step_of_enabled h hact⟩
  | none =>
    rcases (f.backends a.backend).register_cases (View.catalogue bounds) with
      ⟨err, hr⟩ | ⟨traffic, hr, -, hnames, hdesc⟩
    · exact Or.inr (Or.inl ⟨rfl, err, _, by rw [hr], step_of_refused h hact hr, rfl⟩)
    · have hnot : ¬ (f.backends a.backend).HoldsCatalogue := fun hholds => by
        obtain ⟨err, hrefused⟩ := hholds.register_catalogue bounds
        rw [hr] at hrefused
        cases hrefused
      refine Or.inr (Or.inr ⟨rfl, _, by rw [hr], step_of_taken h hact hr, hnot,
        Backend.holdsCatalogue_of_names hnames, fun u hu => ?_⟩)
      rw [Traffic.updates_append, Traffic.log, List.append_nil] at hu
      exact hdesc u hu

end Fleet
end Telemetry
