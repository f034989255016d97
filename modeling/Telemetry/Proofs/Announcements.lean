/-
# Every metric is described once, before its first update

The calls that an exporting backend makes on its recorder, over a run of
direct calls: batches of views, taken or refused, and samples, of registered
metrics or not, in any order. The names described so far are the names
registered, and a registered name keeps the target of the kind it was
described with (`Exporter.Traced`). A batch that is refused and a sample that
is dropped make no call; a batch that is taken describes new names only; a
sample that is passed on updates a name that was described, as its kind says.

Key definitions: `DirectCall`, `AnnouncedFirst`, `Exporter.Traced`.
Key theorems: `Exporter.Traced.addAll`, `Exporter.Traced.submit`,
`Fleet.traced_run`, `Fleet.described_once_before_updates`.
-/
import Mathlib
import Telemetry.Proofs.Offences
import Telemetry.Proofs.Operations

namespace Telemetry

/-! ### Direct calls -/

/-- A direct call on a backend, past any monitor. -/
inductive DirectCall
  | register (views : List View)
  | submit (sample : Sample)

/-- The call as an operation on the backend `b` of a fleet. -/
def DirectCall.on {μ β : Type} (b : β) : DirectCall → Operation μ β
  | .register views => .register b views
  | .submit sample => .submit b sample

/-! ### Traces -/

/-- The names that a trace describes, in order. -/
def describedNames (trace : List Update) : List String :=
  (trace.filter Update.isDescribe).map Update.name

/-- Every update comes after a description of the same metric with the same
kind. -/
def AnnouncedFirst (trace : List Update) : Prop :=
  ∀ before u after, trace = before ++ u :: after → u.isDescribe = false →
    ∃ d ∈ before, d.isDescribe = true ∧ d.name = u.name ∧ d.kind = u.kind

theorem describedNames_append (trace more : List Update) :
    describedNames (trace ++ more) = describedNames trace ++ describedNames more := by
  simp [describedNames]

theorem announcedFirst_nil : AnnouncedFirst [] := fun _ _ _ h => by simp at h

/-- Calls that are descriptions, or update what the trace before them
describes, can follow it. -/
theorem AnnouncedFirst.append {trace more : List Update} (h : AnnouncedFirst trace)
    (hmore : ∀ u ∈ more, u.isDescribe = false →
      ∃ d ∈ trace, d.isDescribe = true ∧ d.name = u.name ∧ d.kind = u.kind) :
    AnnouncedFirst (trace ++ more) := by
  intro before u after heq hu
  rcases List.append_eq_append_iff.mp heq with ⟨front, hbefore, hmid⟩ | ⟨front, hbefore, hmid⟩
  · -- the call is one of those that follow
    obtain ⟨d, hd, hrest⟩ := hmore u (by rw [hmid]; simp) hu
    exact ⟨d, by rw [hbefore]; exact List.mem_append_left _ hd, hrest⟩
  · cases front with
    | nil =>
      obtain ⟨d, hd, hrest⟩ := hmore u (by rw [← List.nil_append more, ← hmid]; simp) hu
      exact ⟨d, by rw [← List.append_nil before, ← hbefore]; exact hd, hrest⟩
    | cons c front =>
      rw [List.cons_append, List.cons.injEq] at hmid
      obtain ⟨rfl, -⟩ := hmid
      exact h before u front hbefore hu

/-! ### The backend and its trace -/

/-- The backend has registered what the trace describes, each name once, and
with the target of the kind it is described with. -/
structure Exporter.Traced (e : Exporter) (trace : List Update) : Prop where
  names : describedNames trace = e.registered.keys
  once : e.registered.keys.Nodup
  kinds : ∀ name r, e.registered.get? name = some r →
    ∃ d ∈ trace, d.isDescribe = true ∧ d.name = name ∧ d.kind.target = r.target
  first : AnnouncedFirst trace

namespace Exporter

variable {e : Exporter} {trace : List Update}

theorem traced_empty : Traced {} [] where
  names := rfl
  once := List.nodup_nil
  kinds := fun _ _ h => by simp [Table.get?, Table.find?] at h
  first := announcedFirst_nil

theorem describedNames_map_describe (views : List View) :
    describedNames (views.map View.describe) = views.map View.name := by
  have hall : (views.map View.describe).filter Update.isDescribe = views.map View.describe := by
    apply List.filter_eq_self.mpr
    intro u hu
    obtain ⟨v, -, rfl⟩ := List.mem_map.mp hu
    rfl
  rw [describedNames, hall, List.map_map]
  rfl

/-- A batch that is taken describes new names, each with the kind whose target
is kept. -/
theorem Traced.addAll (h : e.Traced trace) {views : List View}
    (hacc : Acceptable e.registered.keys views) :
    (e.addAll views).Traced (trace ++ views.map View.describe) where
  names := by
    rw [describedNames_append, describedNames_map_describe, h.names, keys_addAll hacc]
  once := by
    rw [keys_addAll hacc]
    refine List.Nodup.append h.once hacc.nodup fun name hold hnew => ?_
    obtain ⟨v, hv, rfl⟩ := List.mem_map.mp hnew
    exact hacc.fresh v hv hold
  kinds name r hr := by
    by_cases hmem : name ∈ views.map View.name
    · obtain ⟨v, hv, rfl⟩ := List.mem_map.mp hmem
      rw [get?_addAll_of_mem e hacc.nodup hv, Option.some.injEq] at hr
      subst hr
      exact ⟨v.describe, List.mem_append_right _ (List.mem_map_of_mem hv), rfl, rfl, rfl⟩
    · rw [get?_addAll_of_notMem hmem] at hr
      obtain ⟨d, hd, hrest⟩ := h.kinds name r hr
      exact ⟨d, List.mem_append_left _ hd, hrest⟩
  first := h.first.append fun u hu hdesc => by
    obtain ⟨v, -, rfl⟩ := List.mem_map.mp hu
    exact absurd hdesc (by simp [View.describe, Update.isDescribe])

theorem kind_update {k : Kind} {target : Target} (h : k.target = target) (s : Sample) :
    (update target s).kind = k ∧ (update target s).name = s.name ∧
      (update target s).isDescribe = false := by
  subst h
  cases k <;> exact ⟨rfl, rfl, rfl⟩

/-- A sample updates a name that is described, or makes no call. -/
theorem Traced.submit (h : e.Traced trace) (s : Sample) :
    e.Traced (trace ++ (e.submit s).updates) := by
  cases hget : e.registered.get? s.name with
  | none =>
    have hsub : (e.submit s).updates = [] := by simp [Exporter.submit, call?, hget, Traffic.log]
    rw [hsub, List.append_nil]
    exact h
  | some r =>
    have hsub : (e.submit s).updates = [update r.target s] := by
      simp [Exporter.submit, call?, hget]
    obtain ⟨d, hd, hdesc, hname, hkind⟩ := h.kinds s.name r hget
    obtain ⟨hk, hn, hu⟩ := kind_update hkind s
    have hnone : describedNames [update r.target s] = [] := by simp [describedNames, hu]
    rw [hsub]
    refine ⟨?_, h.once, fun name r' hr' => ?_, h.first.append fun u hmem _ => ?_⟩
    · rw [describedNames_append, hnone, List.append_nil, h.names]
    · obtain ⟨d', hd', hrest⟩ := h.kinds name r' hr'
      exact ⟨d', List.mem_append_left _ hd', hrest⟩
    · rw [List.mem_singleton.mp hmem, hk, hn]
      exact ⟨d, hd, hdesc, hname, rfl⟩

theorem Traced.submit_updates_eq_nil (h : e.Traced trace) {s : Sample}
    (hs : s.name ∉ describedNames trace) : (e.submit s).updates = [] := by
  have hget : e.registered.get? s.name = none := by
    rw [h.names] at hs
    exact Table.get?_eq_none_iff.mpr hs
  simp [Exporter.submit, call?, hget, Traffic.log]

end Exporter

/-! ### Runs -/

namespace Fleet

variable {μ β : Type} [DecidableEq μ] [DecidableEq β] {f : Fleet μ β} {b : β} {e : Exporter}
  {trace : List Update}

/-- A direct call keeps the backend and its trace together. -/
theorem traced_step (hb : f.backends b = .exporter e) (h : e.Traced trace) (c : DirectCall) :
    ∃ e', (f.step (c.on b)).1.backends b = .exporter e' ∧
      e'.Traced (trace ++ (f.step (c.on b)).2.traffic.updates) := by
  cases c with
  | register views =>
    obtain ⟨hbackend, htraffic⟩ := step_register_of_exporter hb views
    rw [DirectCall.on, hbackend, htraffic, Backend.register]
    rcases e.register_cases views with ⟨_, err, -, heq⟩ | ⟨hacc, heq⟩
    · refine ⟨e, by simp only [heq], ?_⟩
      simp only [heq, Traffic.none, List.append_nil]
      exact h
    · refine ⟨e.addAll views, by simp only [heq], ?_⟩
      simp only [heq]
      exact h.addAll hacc
  | submit s =>
    obtain ⟨hbackend, hupdates⟩ := step_submit_of_exporter hb s
    exact ⟨e, hbackend, by rw [DirectCall.on, hupdates]; exact h.submit s⟩

/-- So does a run of direct calls. -/
theorem traced_run (hb : f.backends b = .exporter e) (h : e.Traced trace)
    (calls : List DirectCall) :
    ∃ e', (f.run (calls.map (·.on b))).1.backends b = .exporter e' ∧
      e'.Traced (trace ++ f.updates (calls.map (·.on b))) := by
  induction calls generalizing f e trace with
  | nil => exact ⟨e, hb, by rw [List.map_nil, updates, run]; simpa using h⟩
  | cons c calls ih =>
    obtain ⟨e₁, hb₁, h₁⟩ := traced_step hb h c
    obtain ⟨e₂, hb₂, h₂⟩ := ih hb₁ h₁
    exact ⟨e₂, hb₂, by rw [List.map_cons, updates_cons, ← List.append_assoc]; exact h₂⟩

/-- **Metrics are described once, and before they are updated.** Over every
run of direct calls on a new exporting backend, no name is described twice,
every update comes after a description of its name with its kind, and a
sample of a name that is not described yet makes no call. -/
theorem described_once_before_updates (f : Fleet μ β) (b : β) (hb : f.backends b = .exporter {})
    (calls : List DirectCall) :
    (describedNames (f.updates (calls.map (·.on b)))).Nodup ∧
    AnnouncedFirst (f.updates (calls.map (·.on b))) ∧
    ∀ s : Sample, s.name ∉ describedNames (f.updates (calls.map (·.on b))) →
      ((f.run (calls.map (·.on b))).1.step (.submit b s)).2.traffic.updates = [] := by
  obtain ⟨e, he, h⟩ := traced_run hb Exporter.traced_empty calls
  rw [List.nil_append] at h
  refine ⟨by rw [h.names]; exact h.once, h.first, fun s hs => ?_⟩
  rw [(step_submit_of_exporter he s).2]
  exact h.submit_updates_eq_nil hs

/-- A sample comes too early, its view is registered, it comes again, and a
batch is refused for its second view. -/
theorem described_once_before_updates_on_retry :
    let f : Fleet Unit Unit := ⟨fun _ => .fresh, fun _ => .exporter {}⟩
    let loaded : Sample := ⟨"runtime/component/loaded", [], .int 1⟩
    let ops := [DirectCall.submit loaded, .register [Instrument.componentLoaded.view []],
      .submit loaded, .register [Instrument.timers.view [], Instrument.componentLoaded.view []]].map
        (·.on ())
    f.backends () = .exporter {} ∧
    f.updates ops = [(Instrument.componentLoaded.view []).describe, .increment loaded.name [] 1] ∧
    (describedNames (f.updates ops)).Nodup ∧ AnnouncedFirst (f.updates ops) ∧
    ∀ s : Sample, s.name ∉ describedNames (f.updates ops) →
      ((f.run ops).1.step (.submit () s)).2.traffic.updates = [] :=
  ⟨rfl, by decide +kernel, described_once_before_updates _ () rfl _⟩

end Fleet

end Telemetry
