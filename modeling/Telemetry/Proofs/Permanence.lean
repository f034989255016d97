/-
# What an exporting backend shows is sound and stays

Whatever is done to a fleet, an exporting backend that was new at first has
taken some batches one after the other, and is what it would be had their views
come as a single batch that can be taken (`Fleet.run_takes`). So the names that
it shows are those of the views taken, in order and each once, the bounds that it
shows are those of a histogram and in order throughout, and whatever is done
later adds to both and changes nothing.

Key definitions: `Operation.batch`, `Fleet.takenBy`, `Fleet.takenViews`,
`Exporter.Shows`.
Key theorems: `acceptable_append`, `Exporter.shows_addAll`, `Fleet.step_takes`,
`Fleet.run_takes`, `Fleet.shown_views_are_sound_and_permanent`.
-/
import Mathlib
import Telemetry.Proofs.Batching
import Telemetry.Proofs.ExactValues
import Telemetry.Proofs.Holdings

namespace Telemetry

/-! ### Batches in a row -/

/-- Two batches can be taken as one when the second can after the first. -/
theorem acceptable_append {taken : List String} {xs ys : List View} :
    Acceptable taken (xs ++ ys) ↔
      Acceptable taken xs ∧ Acceptable (taken ++ xs.map View.name) ys := by
  rw [← View.firstRefusal?_eq_none_iff, View.firstRefusal?_append, Option.or_eq_none_iff,
    View.firstRefusal?_eq_none_iff, View.firstRefusal?_eq_none_iff]

namespace Exporter

theorem acceptable_of_register_eq_none {e : Exporter} {views : List View}
    (h : ((Backend.exporter e).register views).1 = none) :
    Acceptable e.registered.keys views := by
  rcases e.register_cases views with ⟨_, err, -, heq⟩ | ⟨hacc, -⟩
  · rw [Backend.register_of_error heq] at h
    cases h
  · exact hacc

/-- A name that is held keeps what is registered for it when views are added. -/
theorem get?_addAll_of_held {e : Exporter} {views : List View} {name : String}
    (hacc : Acceptable e.registered.keys views) (hname : name ∈ e.registered.keys) :
    (e.addAll views).registered.get? name = e.registered.get? name := by
  refine get?_addAll_of_notMem fun hmem => ?_
  obtain ⟨v, hv, rfl⟩ := List.mem_map.mp hmem
  exact hacc.fresh v hv hname

end Exporter

/-! ### What a backend shows -/

/-- A sound view has bounds exactly when it is one of a histogram. -/
theorem View.Sound.exists_distribution_iff {v : View} (h : v.Sound) :
    (∃ bounds, v.aggregation = .distribution bounds) ↔ v.instrument.kind = .histogram := by
  obtain ⟨hhistogram, hother⟩ := h.bounds?_eq
  constructor
  · rintro ⟨bounds, hagg⟩
    by_contra hkind
    have hnone := hother hkind
    rw [Aggregation.bounds?_eq_some_iff.mpr hagg] at hnone
    cases hnone
  · intro hkind
    obtain ⟨bounds, hagg, -⟩ := hhistogram hkind
    exact ⟨bounds, hagg⟩

/-- The values of good bounds are in order at every pair of positions. -/
theorem GoodBounds.pairwise_exact_lt {bounds : List Binary64} (h : GoodBounds bounds) :
    bounds.Pairwise fun x y => x.exact < y.exact := by
  have hnan : ∀ x ∈ bounds, x.isNaN = false := fun x hx =>
    Binary64.not_isNaN_of_isFinite (h.finite x hx)
  have hincreasing : isIncreasing bounds = true := by
    rw [← Bool.not_eq_false, isIncreasing_eq_false_iff h.finite]
    exact h.increasing
  refine (pairwise_lt_of_isIncreasing hnan hincreasing).imp_of_mem fun hx hy hlt => ?_
  exact (Binary64.lt_iff_exact_lt (hnan _ hx) (hnan _ hy)).mp hlt

namespace Exporter

/-- The backend shows what the given views have and nothing else. The names are
in order and each stands once; there are bounds for histograms only, and they are
finite and in order throughout. -/
structure Shows (e : Exporter) (views : List View) : Prop where
  sorted : e.viewNames.Pairwise (· < ·)
  names : ∀ name, name ∈ e.viewNames ↔ ∃ v ∈ views, v.name = name
  bounds : ∀ name bounds, e.boundsOf name = some bounds ↔
    ∃ v ∈ views, v.name = name ∧ v.aggregation = .distribution bounds
  bounded : ∀ name, (∃ bounds, e.boundsOf name = some bounds) ↔
    ∃ v ∈ views, v.name = name ∧ v.instrument.kind = .histogram
  usable : ∀ name bounds, e.boundsOf name = some bounds →
    bounds ≠ [] ∧ (∀ x ∈ bounds, x.isFinite = true) ∧
      bounds.Pairwise fun x y => x.exact < y.exact

theorem pairwise_lt_viewNames {e : Exporter} (h : e.registered.keys.Nodup) :
    e.viewNames.Pairwise (· < ·) := by
  have hnodup : e.viewNames.Nodup := e.viewNames_perm.nodup_iff.mpr h
  exact (e.pairwise_viewNames.and hnodup).imp fun ⟨hle, hne⟩ => lt_of_le_of_ne hle hne

section New

variable {views : List View} (h : Acceptable [] views)

include h

theorem keys_addAll_new : (addAll {} views).registered.keys = views.map View.name :=
  keys_addAll h

theorem mem_viewNames_addAll_iff {name : String} :
    name ∈ (addAll {} views).viewNames ↔ ∃ v ∈ views, v.name = name := by
  rw [(viewNames_perm _).mem_iff, keys_addAll_new h, List.mem_map]

theorem boundsOf_addAll_new {name : String} {bounds : List Binary64} :
    (addAll {} views).boundsOf name = some bounds ↔
      ∃ v ∈ views, v.name = name ∧ v.aggregation = .distribution bounds :=
  boundsOf_addAll_eq_some_iff boundsOf_new h.nodup h.fresh name bounds

/-- A new backend that has taken views shows them. -/
theorem shows_addAll : (addAll {} views).Shows views where
  sorted := pairwise_lt_viewNames (keys_addAll_new h ▸ h.nodup)
  names _ := mem_viewNames_addAll_iff h
  bounds _ _ := boundsOf_addAll_new h
  bounded name := by
    simp only [boundsOf_addAll_new h]
    constructor
    · rintro ⟨bounds, v, hv, hname, hagg⟩
      exact ⟨v, hv, hname, (h.sound v hv).exists_distribution_iff.mp ⟨bounds, hagg⟩⟩
    · rintro ⟨v, hv, hname, hkind⟩
      obtain ⟨bounds, hagg⟩ := (h.sound v hv).exists_distribution_iff.mpr hkind
      exact ⟨bounds, v, hv, hname, hagg⟩
  usable name bounds hbounds := by
    obtain ⟨v, hv, -, hagg⟩ := (boundsOf_addAll_new h).mp hbounds
    have hgood := (h.sound v hv).bounds bounds hagg
    exact ⟨hgood.ne_nil, hgood.finite, hgood.pairwise_exact_lt⟩

end New

/-- Names and bounds that are shown stay when more views are added. -/
theorem shown_addAll {e : Exporter} {views : List View} (hacc : Acceptable e.registered.keys views)
    {name : String} (hname : name ∈ e.viewNames) :
    name ∈ (e.addAll views).viewNames ∧
      (e.addAll views).boundsOf name = e.boundsOf name := by
  rw [e.viewNames_perm.mem_iff] at hname
  constructor
  · rw [(viewNames_perm _).mem_iff, keys_addAll hacc]
    exact List.mem_append_left _ hname
  · rw [boundsOf, get?_addAll_of_held hacc hname]
    rfl

end Exporter

/-! ### The batches of a run -/

/-- The batch that an operation has for backend `b`: that of a direct call, or the
catalogue for an attempt to enable a monitor there. -/
def Operation.batch {μ β : Type} [DecidableEq β] (b : β) : Operation μ β → List View
  | .register c views => if c = b then views else []
  | .enable _ c _ bounds => if c = b then View.catalogue bounds else []
  | .enableWith _ c settings => if c = b then View.catalogue settings.bounds else []
  | _ => []

namespace Fleet

variable {μ β : Type} [DecidableEq μ] [DecidableEq β] {f : Fleet μ β} {b : β} {e : Exporter}

/-- The views that backend `b` takes by an operation. A batch that is taken is
answered `done`. -/
def takenBy (f : Fleet μ β) (b : β) (op : Operation μ β) : List View :=
  if (f.step op).2.answer = .done then op.batch b else []

/-- The views that backend `b` takes over a run, in order. -/
def takenViews (f : Fleet μ β) (b : β) : List (Operation μ β) → List View
  | [] => []
  | op :: ops => f.takenBy b op ++ (f.step op).1.takenViews b ops

/-- The backend has taken the views of an operation, which it could. -/
def Takes (f : Fleet μ β) (b : β) (e : Exporter) (op : Operation μ β) : Prop :=
  (f.step op).1.backends b = .exporter (e.addAll (f.takenBy b op)) ∧
    Acceptable e.registered.keys (f.takenBy b op)

theorem takes_of_unchanged {op : Operation μ β} (hnone : f.takenBy b op = [])
    (h : (f.step op).1.backends b = .exporter e) : f.Takes b e op := by
  rw [Takes, hnone]
  exact ⟨h, acceptable_nil⟩

/-- Nothing is taken by an operation that is not answered `done`. -/
theorem takes_of_answer_ne_done {op : Operation μ β} (hanswer : (f.step op).2.answer ≠ .done)
    (h : (f.step op).1.backends b = .exporter e) : f.Takes b e op :=
  takes_of_unchanged (if_neg hanswer) h

/-- Nothing is taken by an operation that has no views for the backend. -/
theorem takes_of_batch_eq_nil {op : Operation μ β} (hbatch : op.batch b = [])
    (h : (f.step op).1.backends b = .exporter e) : f.Takes b e op :=
  takes_of_unchanged (by rw [takenBy, hbatch, ite_self]) h

omit [DecidableEq μ] in
/-- A backend that is put in place of another, or of itself unchanged. -/
theorem backends_setBackend_of_keeps (hb : f.backends b = .exporter e) {c : β} {backend : Backend}
    (h : c = b → backend = .exporter e) : (f.setBackend c backend).backends b = .exporter e := by
  by_cases hc : c = b
  · subst hc
    rw [setBackend_backends_self]
    exact h rfl
  · rw [setBackend_backends_of_ne _ _ (Ne.symm hc), hb]

/-- An attempt to enable a monitor has the catalogue taken, or nothing. -/
theorem takes_of_request {op : Operation μ β} {m : μ} {a : Active β} {bounds : List Binary64}
    (hb : f.backends b = .exporter e) (h : op.request? m = some (a, bounds)) :
    f.Takes b e op := by
  have hbatch : op.batch b = if a.backend = b then View.catalogue bounds else [] := by
    rcases Operation.request?_cases h with rfl | rfl
    · rfl
    · rfl
  rcases f.attempt_cases h with
    ⟨now, -, heq⟩ | ⟨-, err, traffic, -, heq, -⟩ | ⟨-, traffic, hr, heq, -⟩
  · refine takes_of_answer_ne_done ?_ ?_
    · rw [heq]
      exact Answer.noConfusion
    · rw [heq, hb]
  · refine takes_of_answer_ne_done ?_ ?_
    · rw [heq]
      exact Answer.noConfusion
    · rw [heq]
      exact backends_setBackend_of_keeps hb fun hc => by rw [hc, hb]; rfl
  · by_cases hc : a.backend = b
    · subst hc
      have htaken : f.takenBy a.backend op = View.catalogue bounds := by
        rw [takenBy, heq, if_pos rfl, hbatch, if_pos rfl]
      rw [Takes, htaken, heq, setBackend_backends_self, hb]
      rw [hb] at hr
      exact ⟨rfl, Exporter.acceptable_of_register_eq_none hr⟩
    · refine takes_of_batch_eq_nil ?_ ?_
      · rw [hbatch, if_neg hc]
      · rw [heq, setBackend_backends_of_ne _ _ (Ne.symm hc), setMonitor_backends, hb]

theorem takes_register (hb : f.backends b = .exporter e) (views : List View) :
    f.Takes b e (.register b views) := by
  rcases e.register_cases views with ⟨_, err, -, heq⟩ | ⟨hacc, heq⟩
  · have hr := Backend.register_of_error heq
    have hstep : f.step (.register b views) =
        (f.setBackend b (.exporter e), ⟨.refused err, .none⟩) := by
      simp only [step, hb, hr]
    refine takes_of_answer_ne_done ?_ ?_
    · rw [hstep]
      exact Answer.noConfusion
    · rw [hstep, setBackend_backends_self]
  · have hr := Backend.register_of_ok heq
    have hdone : (f.step (.register b views)).2.answer = .done := by
      simp only [step, hb, hr]
    have htaken : f.takenBy b (.register b views) = views := by
      rw [takenBy, if_pos hdone, Operation.batch, if_pos rfl]
    rw [Takes, htaken, (step_register_of_exporter hb views).1, hr]
    exact ⟨rfl, hacc⟩

/-- Whatever is done to a fleet, an exporting backend takes the batch that the
operation has for it, or stays as it is. -/
theorem step_takes (hb : f.backends b = .exporter e) (op : Operation μ β) : f.Takes b e op := by
  cases op with
  | enable m c appId bounds =>
    exact takes_of_request hb (Operation.request?_enable m c appId bounds)
  | enableWith m c settings =>
    cases hon : settings.enabled with
    | true =>
      have hreq : (Operation.enableWith m c settings : Operation μ β).request? m =
          some (⟨settings.appId, c⟩, settings.bounds) := if_pos ⟨rfl, hon⟩
      exact takes_of_request hb hreq
    | false =>
      refine takes_of_answer_ne_done ?_ ?_
      · rw [step_enableWith_of_off hon]
        exact Answer.noConfusion
      · rw [step_enableWith_of_off hon, hb]
  | record m event now =>
    refine takes_of_batch_eq_nil rfl ?_
    cases hact : (f.monitors m).active? with
    | none => rw [step_record_of_inactive hact, hb]
    | some a =>
      rw [step_record_of_active hact]
      exact backends_setBackend_of_keeps hb fun hc => by rw [hc, hb]; rfl
  | register c views =>
    by_cases hc : c = b
    · subst hc
      exact takes_register hb views
    · refine takes_of_batch_eq_nil (if_neg hc) ?_
      rw [(step_register f c views).1]
      exact backends_setBackend_of_keeps hb fun h => absurd h hc
  | submit c sample =>
    refine takes_of_batch_eq_nil rfl ?_
    exact backends_setBackend_of_keeps hb fun hc => by rw [hc, hb]
  | refuseNext c err =>
    refine takes_of_batch_eq_nil rfl ?_
    exact backends_setBackend_of_keeps hb fun hc => by rw [hc, hb, Backend.refuseNext]
  | clear c =>
    refine takes_of_batch_eq_nil rfl ?_
    exact backends_setBackend_of_keeps hb fun hc => by rw [hc, hb, Backend.clear]

/-- After any run the backend is as if it had taken all its views at once. -/
theorem run_takes {views : List View} (hb : f.backends b = .exporter (Exporter.addAll {} views))
    (hacc : Acceptable [] views) (ops : List (Operation μ β)) :
    (f.run ops).1.backends b = .exporter (Exporter.addAll {} (views ++ f.takenViews b ops)) ∧
      Acceptable [] (views ++ f.takenViews b ops) := by
  -- the views taken so far grow with the run, so the induction is for any of them
  induction ops generalizing f views with
  | nil =>
    rw [takenViews, List.append_nil]
    exact ⟨hb, hacc⟩
  | cons op ops ih =>
    obtain ⟨hstep, htaken⟩ := step_takes hb op
    rw [Exporter.keys_addAll_new hacc] at htaken
    rw [← Exporter.addAll_append] at hstep
    have hnext := ih hstep (acceptable_append.mpr ⟨hacc, htaken⟩)
    rw [List.append_assoc] at hnext
    exact hnext

/-- **What an exporting backend shows is sound and stays.** Take any run of a
fleet in which an exporting backend is new at first. It then shows the names of
the views that it took, strictly in order; it has bounds for exactly those of
them that are of a histogram, and these are not empty, finite and strictly
increasing at every pair of positions. After any more operations it shows those
names still, with the same bounds. -/
theorem shown_views_are_sound_and_permanent (f : Fleet μ β) (b : β)
    (hb : f.backends b = .exporter {}) (ops : List (Operation μ β)) :
    ∃ e : Exporter, (f.run ops).1.backends b = .exporter e ∧ e.Shows (f.takenViews b ops) ∧
      ∀ more : List (Operation μ β), ∃ e' : Exporter,
        ((f.run ops).1.run more).1.backends b = .exporter e' ∧
        ∀ name ∈ e.viewNames, name ∈ e'.viewNames ∧ e'.boundsOf name = e.boundsOf name := by
  have hnew : f.backends b = .exporter (Exporter.addAll {} []) := hb
  obtain ⟨hrun, hacc⟩ := run_takes hnew acceptable_nil ops
  rw [List.nil_append] at hrun hacc
  refine ⟨_, hrun, Exporter.shows_addAll hacc, fun more => ?_⟩
  obtain ⟨hmore, hacc'⟩ := run_takes hrun hacc more
  rw [Exporter.addAll_append] at hmore
  refine ⟨_, hmore, fun name hname => Exporter.shown_addAll ?_ hname⟩
  rw [Exporter.keys_addAll_new hacc]
  exact (acceptable_append.mp hacc').2

/-- A batch is refused for its second view, and a monitor for the name that is held
by then; what was taken before and between is shown. -/
theorem shown_views_are_sound_and_permanent_after_two_refusals :
    let f : Fleet Unit Unit := ⟨fun _ => .fresh, fun _ => .exporter {}⟩
    let latency : View := Instrument.responseLatency.view [.ofNat 1, .ofNat 2]
    let timers : View := Instrument.timers.view []
    let ops : List (Operation Unit Unit) :=
      [.register () [latency], .register () [timers, latency], .submit () ⟨timers.name, [], .int 1⟩,
        .enable () () "checkout" [.ofNat 5], .register () [timers]]
    f.backends () = .exporter {} ∧ f.takenViews () ops = [latency, timers] ∧
    ∃ e : Exporter, (f.run ops).1.backends () = .exporter e ∧ e.Shows [latency, timers] ∧
      ∀ more, ∃ e' : Exporter, ((f.run ops).1.run more).1.backends () = .exporter e' ∧
        ∀ name ∈ e.viewNames, name ∈ e'.viewNames ∧ e'.boundsOf name = e.boundsOf name := by
  intro f latency timers ops
  have htaken : f.takenViews () ops = [latency, timers] := by decide +kernel
  have hshown := shown_views_are_sound_and_permanent f () rfl ops
  rw [htaken] at hshown
  exact ⟨rfl, htaken, hshown⟩

end Fleet
end Telemetry
