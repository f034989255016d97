/-
# Held names decide before bounds do

The latency histogram stands last in the catalogue and is the only instrument
whose view has bounds. All views before it are sound whatever the bounds are, so
an exporting backend refuses the catalogue for its first name that is held, and
only if none is held for a fault of the bounds (`View.firstRefusal?_catalogue`).
This decides how an attempt to enable a monitor ends, and what is logged of it.

Key definitions: `FirstHeld`, `BoundsRefused`.
Key theorems: `map_reason_boundsFault?_eq_some_iff`, `View.firstRefusal?_catalogue`,
`Fleet.step_enable_of_refusal`, `Fleet.step_enable_of_no_refusal`,
`Fleet.enabling_decided_by_names_then_bounds`.
-/
import Mathlib
import Telemetry.Proofs.StandIn
import Telemetry.Proofs.Startup

namespace Telemetry

/-! ### The rules -/

/-- The name is the first one in the order of the catalogue that is held. -/
def FirstHeld (held : List String) (name : String) : Prop :=
  ∃ before i after, Instrument.all = before ++ i :: after ∧ i.name = name ∧ name ∈ held ∧
    ∀ j ∈ before, j.name ∉ held

/-- Bounds that a distribution cannot have, with the reason: there are none, one
is a NaN or infinite, or all are finite and two neighbours are not in increasing
order. -/
inductive BoundsRefused (bounds : List Binary64) : String → Prop
  | noBounds (hnil : bounds = []) : BoundsRefused bounds "no bucket bounds"
  | notFinite (x : Binary64) (hx : x ∈ bounds)
      (hbad : x.isNaN = true ∨ x.rank = Binary64.infinityRank) :
      BoundsRefused bounds "bucket bounds must be finite"
  | notIncreasing (hfin : ∀ x ∈ bounds, x.isFinite = true) (hdescent : HasDescent bounds) :
      BoundsRefused bounds "bucket bounds must be strictly increasing"

/-! ### The check on the bounds -/

theorem Binary64.isFinite_eq_false_iff (x : Binary64) :
    x.isFinite = false ↔ x.isNaN = true ∨ x.rank = Binary64.infinityRank := by
  simp only [isFinite, isNaN, decide_eq_false_iff_not, decide_eq_true_eq]
  omega

section Bounds

variable {bounds : List Binary64} {reason : String}

/-- The check finds what a rule says. -/
theorem BoundsRefused.map_reason_boundsFault? (h : BoundsRefused bounds reason) :
    (boundsFault? bounds).map AggregationFault.reason = some reason := by
  unfold boundsFault?
  cases h with
  | noBounds hnil =>
    rw [hnil]
    rfl
  | notFinite x hx hbad =>
    have hne : ¬ bounds.isEmpty = true := mt List.isEmpty_iff.mp (List.ne_nil_of_mem hx)
    have hany : (bounds.any fun x => !x.isFinite) = true := by
      rw [List.any_eq_true]
      exact ⟨x, hx, by rw [x.isFinite_eq_false_iff.mpr hbad]; rfl⟩
    rw [if_neg hne, if_pos hany]
    rfl
  | notIncreasing hfin hdescent =>
    have hne : ¬ bounds.isEmpty = true := by
      intro hnil
      rw [List.isEmpty_iff.mp hnil] at hdescent
      exact not_hasDescent_of_length_le_one (by simp) hdescent
    have hany : ¬ (bounds.any fun x => !x.isFinite) = true := by simpa using hfin
    rw [if_neg hne, if_neg hany, (isIncreasing_eq_false_iff hfin).mpr hdescent]
    rfl

/-- The check gives a reason exactly where a rule does. -/
theorem map_reason_boundsFault?_eq_some_iff :
    (boundsFault? bounds).map AggregationFault.reason = some reason ↔
      BoundsRefused bounds reason := by
  refine ⟨fun h => ?_, BoundsRefused.map_reason_boundsFault?⟩
  rcases boundsFault?_cases bounds with
    ⟨hnil, hf⟩ | ⟨⟨x, hx, hinf⟩, hf⟩ | ⟨hfin, hdescent, hf⟩ | ⟨-, hf⟩
  · rw [hf] at h
    cases h
    exact .noBounds hnil
  · rw [hf] at h
    cases h
    exact .notFinite x hx (x.isFinite_eq_false_iff.mp hinf)
  · rw [hf] at h
    cases h
    exact .notIncreasing hfin hdescent
  · rw [hf] at h
    cases h

end Bounds

/-! ### What the catalogue is refused for -/

namespace View

theorem firstHeld?_append (held : List String) (xs ys : List View) :
    firstHeld? held (xs ++ ys) = (firstHeld? held xs).or (firstHeld? held ys) := by
  rw [firstHeld?, List.find?_append, Option.map_or]
  rfl

theorem refusal?_append_of_notMem {v : View} {names : List String} (h : v.name ∉ names)
    (held : List String) : v.refusal? (held ++ names) = v.refusal? held := by
  simp only [refusal?, List.mem_append, h, or_false]

/-- The latency view is refused for its name, or else for its bounds. -/
theorem refusal?_latency (held : List String) (bounds : List Binary64) :
    (Instrument.responseLatency.view bounds).refusal? held =
      (firstHeld? held [Instrument.responseLatency.view bounds]).or
        ((boundsFault? bounds).map fun fault =>
          .invalidAggregation Instrument.responseLatency.name fault.reason) := by
  have hkind : (Instrument.responseLatency.view bounds).instrument.kind = .histogram := rfl
  have hagg : (Instrument.responseLatency.view bounds).aggregation = .distribution bounds := rfl
  by_cases hmem : (Instrument.responseLatency.view bounds).name ∈ held
  · rw [refusal?_of_mem hmem, firstHeld?, List.find?_cons_of_pos (by simpa using hmem)]
    rfl
  · have hfree : firstHeld? held [Instrument.responseLatency.view bounds] = none := by
      rw [firstHeld?, List.find?_cons_of_neg (by simpa using hmem)]
      rfl
    rw [hfree, Option.none_or]
    cases hfault : boundsFault? bounds with
    | none =>
      have htarget : (Instrument.responseLatency.view bounds).target = .ok .histogram := by
        simp only [target, hkind, hagg, hfault]
      exact refusal?_of_sound hmem htarget
    | some fault =>
      have htarget : (Instrument.responseLatency.view bounds).target = .error fault := by
        simp only [target, hkind, hagg, hfault]
      exact refusal?_of_fault hmem htarget

/-- The catalogue is refused for its first name that is held, and if there is
none for a fault of the bounds. -/
theorem firstRefusal?_catalogue (held : List String) (bounds : List Binary64) :
    firstRefusal? held (catalogue bounds) =
      (firstHeld? held (catalogue bounds)).or
        ((boundsFault? bounds).map fun fault =>
          .invalidAggregation Instrument.responseLatency.name fault.reason) := by
  -- the views before the last have no bounds that could be at fault
  let early : List View := Instrument.all.dropLast.map (·.view bounds)
  have hsplit : catalogue bounds = early ++ [Instrument.responseLatency.view bounds] := rfl
  have hkind : ∀ i ∈ Instrument.all.dropLast, i.kind ≠ .histogram := by decide
  have hnodup := nodup_name_catalogue bounds
  rw [hsplit, List.map_append, List.map_singleton, List.nodup_append] at hnodup
  obtain ⟨hearly, -, hne⟩ := hnodup
  have hlast : (Instrument.responseLatency.view bounds).name ∉ early.map View.name :=
    fun hmem => hne _ hmem _ (List.mem_singleton_self _) rfl
  have hwell : WellFormed early := by
    refine ⟨hearly, fun v hv => ?_⟩
    obtain ⟨i, hi, rfl⟩ := List.mem_map.mp hv
    exact i.sound_view_of_histogram fun hhistogram => absurd hhistogram (hkind i hi)
  calc firstRefusal? held (catalogue bounds)
      = (firstHeld? held early).or
          ((Instrument.responseLatency.view bounds).refusal? (held ++ early.map View.name)) := by
        rw [hsplit, firstRefusal?_append, hwell.firstRefusal?_eq, firstRefusal?, firstRefusal?,
          Option.or_none]
    _ = (firstHeld? held early).or ((Instrument.responseLatency.view bounds).refusal? held) := by
        rw [refusal?_append_of_notMem hlast]
    _ = _ := by rw [refusal?_latency, ← Option.or_assoc, ← firstHeld?_append, ← hsplit]

/-- A name for which the catalogue is refused is the first that is held. -/
theorem firstHeld?_catalogue_eq_some_iff {held : List String} {bounds : List Binary64}
    {err : RegistrationError} :
    firstHeld? held (catalogue bounds) = some err ↔
      ∃ name, FirstHeld held name ∧ err = .duplicateView name := by
  have hmap : firstHeld? held (catalogue bounds) =
      (Instrument.all.find? fun i => i.name ∈ held).map fun i => .duplicateView i.name := by
    rw [firstHeld?, catalogue, List.find?_map, Option.map_map]
    rfl
  rw [hmap, Option.map_eq_some_iff]
  constructor
  · rintro ⟨i, hi, rfl⟩
    obtain ⟨hheld, before, after, hall, hbefore⟩ := List.find?_eq_some_iff_append.mp hi
    exact ⟨i.name, ⟨before, i, after, hall, rfl, by simpa using hheld, by simpa using hbefore⟩, rfl⟩
  · rintro ⟨name, ⟨before, i, after, hall, rfl, hheld, hbefore⟩, rfl⟩
    have hfind : (Instrument.all.find? fun i => i.name ∈ held) = some i :=
      List.find?_eq_some_iff_append.mpr
        ⟨by simpa using hheld, before, after, hall, by simpa using hbefore⟩
    exact ⟨i, hfind, rfl⟩

end View

/-- An instrument is held exactly when there is a first one that is. -/
theorem exists_firstHeld_iff {held : List String} :
    (∃ name, FirstHeld held name) ↔ ∃ i : Instrument, i.name ∈ held := by
  constructor
  · rintro ⟨name, _, i, _, -, hname, hheld, -⟩
    exact ⟨i, hname ▸ hheld⟩
  · rintro ⟨i, hi⟩
    cases hfirst : View.firstHeld? held (View.catalogue []) with
    | some err =>
      obtain ⟨name, hname, -⟩ := View.firstHeld?_catalogue_eq_some_iff.mp hfirst
      exact ⟨name, hname⟩
    | none =>
      rw [View.firstHeld?, Option.map_eq_none_iff, List.find?_eq_none] at hfirst
      exact absurd (decide_eq_true hi) (hfirst _ (i.view_mem_catalogue []))

namespace View

variable {held : List String} {bounds : List Binary64}

/-- Which names are held is the same in the order in which they are shown. -/
theorem firstRefusal?_viewNames (e : Exporter) (bounds : List Binary64) :
    firstRefusal? e.viewNames (catalogue bounds) =
      firstRefusal? e.registered.keys (catalogue bounds) := by
  rw [firstRefusal?_catalogue, firstRefusal?_catalogue, firstHeld?_viewNames]

/-- The bounds have no say in whether the catalogue is a duplicate. -/
theorem firstRefusal?_catalogue_eq_duplicate_iff {name : String} :
    firstRefusal? held (catalogue bounds) = some (.duplicateView name) ↔ FirstHeld held name := by
  rw [firstRefusal?_catalogue, Option.or_eq_some_iff, firstHeld?_catalogue_eq_some_iff]
  constructor
  · rintro (⟨other, hother, heq⟩ | ⟨-, hfault⟩)
    · cases heq
      exact hother
    · obtain ⟨fault, -, heq⟩ := Option.map_eq_some_iff.mp hfault
      cases heq
  · intro h
    exact Or.inl ⟨name, h, rfl⟩

section Free

variable (hfree : ∀ i : Instrument, i.name ∉ held)

include hfree

/-- Where no instrument is held, the bounds decide. -/
theorem firstRefusal?_catalogue_of_free :
    firstRefusal? held (catalogue bounds) =
      ((boundsFault? bounds).map AggregationFault.reason).map
        (.invalidAggregation Instrument.responseLatency.name) := by
  have hnone : firstHeld? held (catalogue bounds) = none := by
    rw [Option.eq_none_iff_forall_ne_some]
    intro err herr
    obtain ⟨name, hname, -⟩ := firstHeld?_catalogue_eq_some_iff.mp herr
    obtain ⟨i, hi⟩ := exists_firstHeld_iff.mp ⟨name, hname⟩
    exact hfree i hi
  rw [firstRefusal?_catalogue, hnone, Option.none_or, Option.map_map]
  rfl

theorem firstRefusal?_catalogue_eq_invalid_iff {reason : String} :
    firstRefusal? held (catalogue bounds) =
        some (.invalidAggregation Instrument.responseLatency.name reason) ↔
      BoundsRefused bounds reason := by
  rw [firstRefusal?_catalogue_of_free hfree, ← map_reason_boundsFault?_eq_some_iff,
    Option.map_eq_some_iff]
  simp

theorem firstRefusal?_catalogue_eq_none (hbounds : ∀ reason, ¬ BoundsRefused bounds reason) :
    firstRefusal? held (catalogue bounds) = none := by
  rw [firstRefusal?_catalogue_of_free hfree, Option.map_eq_none_iff,
    Option.eq_none_iff_forall_ne_some]
  intro reason hreason
  exact hbounds reason (map_reason_boundsFault?_eq_some_iff.mp hreason)

end Free

end View

/-! ### How an attempt ends -/

/-- The number of the instruments, as it is written in the log. -/
theorem View.toString_length_catalogue (bounds : List Binary64) :
    toString (View.catalogue bounds).length = "27" := by
  have hlength : (View.catalogue bounds).length = 27 := rfl
  rw [hlength]
  decide

namespace Fleet

variable {μ β : Type} [DecidableEq μ] [DecidableEq β] {f : Fleet μ β} {m : μ} {b : β}
  {e : Exporter} {appId : String} {bounds : List Binary64}

/-- An attempt that the backend refuses changes nothing and logs one error. -/
theorem step_enable_of_refusal {err : RegistrationError} (hoff : (f.monitors m).active? = none)
    (hb : f.backends b = .exporter e)
    (herr : View.firstRefusal? e.registered.keys (View.catalogue bounds) = some err) :
    f.step (.enable m b appId bounds) = (f, ⟨.refused err, .log .error
      s!"[SVCMON] Failed to register metric views for `{appId}`: {err.message}"⟩) := by
  have hreg : e.register (View.catalogue bounds) = .error err := by
    rw [Exporter.register_eq, herr]
  have hback : (f.backends b).register (View.catalogue bounds) =
      (some err, f.backends b, .none) := by
    rw [hb]
    exact Backend.register_of_error hreg
  rw [step_of_refused (Operation.request?_enable m b appId bounds) hoff hback, setBackend_self]
  rfl

/-- An attempt that the backend does not refuse enables the monitor and adds the
catalogue. The backend logs a line and then the monitor another. -/
theorem step_enable_of_no_refusal (hoff : (f.monitors m).active? = none)
    (hb : f.backends b = .exporter e)
    (hnone : View.firstRefusal? e.registered.keys (View.catalogue bounds) = none) :
    f.step (.enable m b appId bounds) =
      ((f.setMonitor m ⟨some ⟨appId, b⟩, (f.monitors m).backlog⟩).setBackend b
          (.exporter (e.addAll (View.catalogue bounds))),
        ⟨.done, { updates := (View.catalogue bounds).map View.describe
                  logs := [⟨.debug, "[SVCMON] Described 27 views on the metrics recorder"⟩,
                    ⟨.info, s!"[SVCMON] Registered 27 metric views for `{appId}`"⟩] }⟩) := by
  have hreg := Exporter.register_of_acceptable (View.firstRefusal?_eq_none_iff.mp hnone)
  have hlength := View.toString_length_catalogue bounds
  have hdescribed :
      toString "[SVCMON] Described " ++ "27" ++ toString " views on the metrics recorder" =
        "[SVCMON] Described 27 views on the metrics recorder" := by decide
  have hregistered : toString "[SVCMON] Registered " ++ "27" ++ toString " metric views for `" =
      "[SVCMON] Registered 27 metric views for `" := by decide
  rw [← hb, hlength, hdescribed] at hreg
  rw [step_of_taken (Operation.request?_enable m b appId bounds) hoff hreg, hlength, hregistered]
  rfl

/-- The answer to an attempt is the refusal of the catalogue, if there is one. -/
theorem answer_enable_eq_refused_iff (hoff : (f.monitors m).active? = none)
    (hb : f.backends b = .exporter e) {err : RegistrationError} :
    (f.step (.enable m b appId bounds)).2.answer = .refused err ↔
      View.firstRefusal? e.viewNames (View.catalogue bounds) = some err := by
  rw [View.firstRefusal?_viewNames]
  cases hr : View.firstRefusal? e.registered.keys (View.catalogue bounds) with
  | some other =>
    rw [step_enable_of_refusal hoff hb hr]
    simp
  | none =>
    rw [step_enable_of_no_refusal hoff hb hr]
    simp

/-- The backend shows the names it showed and those of the instruments. -/
theorem viewNames_addAll_catalogue
    (hnone : View.firstRefusal? e.registered.keys (View.catalogue bounds) = none) :
    (e.addAll (View.catalogue bounds)).viewNames.Perm
      (e.viewNames ++ Instrument.all.map Instrument.name) := by
  have hkeys := Exporter.keys_addAll (View.firstRefusal?_eq_none_iff.mp hnone)
  have hshown := e.viewNames_perm.symm.append_right (Instrument.all.map Instrument.name)
  rw [← View.map_name_catalogue bounds, ← hkeys] at hshown
  rw [← View.map_name_catalogue bounds]
  exact (Exporter.viewNames_perm _).trans hshown

/-- **Held names decide before bounds do.** Take a monitor that is not enabled
and an exporting backend in any state. An attempt to enable the monitor there is
refused as a duplicate exactly when the backend holds the name of an instrument,
whatever the bounds are, and then of the first in the order of the catalogue. If
it holds none, the attempt is refused for the latency histogram exactly when the
bounds cannot be those of a distribution, with the first reason that applies.
Otherwise it succeeds, and the backend holds what it held and the instruments. An
attempt that is refused changes nothing and logs one error; one that succeeds logs
one line at the level `info`, after that of the backend. -/
theorem enabling_decided_by_names_then_bounds (f : Fleet μ β) (m : μ) (b : β) (e : Exporter)
    (appId : String) (bounds : List Binary64) (hoff : (f.monitors m).active? = none)
    (hb : f.backends b = .exporter e) :
    let after := f.step (.enable m b appId bounds)
    ((∃ name, after.2.answer = .refused (.duplicateView name)) ↔
      ∃ i : Instrument, i.name ∈ e.viewNames) ∧
    (∀ name, after.2.answer = .refused (.duplicateView name) ↔ FirstHeld e.viewNames name) ∧
    ((∀ i : Instrument, i.name ∉ e.viewNames) →
      (∀ reason, after.2.answer =
          .refused (.invalidAggregation Instrument.responseLatency.name reason) ↔
        BoundsRefused bounds reason) ∧
      ((∀ reason, ¬ BoundsRefused bounds reason) →
        after.2.answer = .done ∧ ∃ e' : Exporter, after.1.backends b = .exporter e' ∧
          e'.viewNames.Perm (e.viewNames ++ Instrument.all.map Instrument.name))) ∧
    (∀ err, after.2.answer = .refused err →
      after.1 = f ∧ after.2.traffic = .log .error
        s!"[SVCMON] Failed to register metric views for `{appId}`: {err.message}") ∧
    (after.2.answer = .done → after.2.traffic.logs =
      [⟨.debug, "[SVCMON] Described 27 views on the metrics recorder"⟩,
        ⟨.info, s!"[SVCMON] Registered 27 metric views for `{appId}`"⟩]) := by
  intro after
  have hrefused : ∀ err, after.2.answer = .refused err ↔
      View.firstRefusal? e.viewNames (View.catalogue bounds) = some err := fun _ =>
    answer_enable_eq_refused_iff hoff hb
  have hfirst : ∀ name, after.2.answer = .refused (.duplicateView name) ↔
      FirstHeld e.viewNames name := fun name =>
    (hrefused _).trans View.firstRefusal?_catalogue_eq_duplicate_iff
  refine ⟨?_, hfirst, fun hfree => ⟨fun reason => ?_, fun hbounds => ?_⟩, fun err herr => ?_,
    fun hdone => ?_⟩
  · rw [← exists_firstHeld_iff]
    exact exists_congr hfirst
  · exact (hrefused _).trans (View.firstRefusal?_catalogue_eq_invalid_iff hfree)
  · have hnone := View.firstRefusal?_catalogue_eq_none hfree hbounds
    rw [View.firstRefusal?_viewNames] at hnone
    rw [show after = _ from step_enable_of_no_refusal hoff hb hnone]
    exact ⟨rfl, _, setBackend_backends_self _ _ _, viewNames_addAll_catalogue hnone⟩
  · have hr := (hrefused err).mp herr
    rw [View.firstRefusal?_viewNames] at hr
    rw [show after = _ from step_enable_of_refusal hoff hb hr]
    exact ⟨rfl, rfl⟩
  · cases hr : View.firstRefusal? e.registered.keys (View.catalogue bounds) with
    | none => rw [show after = _ from step_enable_of_no_refusal hoff hb hr]
    | some err =>
      rw [show after = _ from step_enable_of_refusal hoff hb hr] at hdone
      cases hdone

/-- The backend has the latency histogram from before. Without bounds, the attempt
is refused for the name and not for the bounds. -/
theorem enabling_decided_by_names_then_bounds_when_latency_is_held :
    let latency : View := Instrument.responseLatency.view [.ofNat 1]
    let f : Fleet Unit Unit :=
      ((⟨fun _ => .fresh, fun _ => .exporter {}⟩ : Fleet Unit Unit).run [.register () [latency]]).1
    let e : Exporter := Exporter.addAll {} [latency]
    (f.monitors ()).active? = none ∧ f.backends () = .exporter e ∧
    BoundsRefused [] "no bucket bounds" ∧
    (f.step (.enable () () "checkout" [])).2.answer = .refused (.duplicateView latency.name) ∧
    FirstHeld e.viewNames latency.name := by
  intro latency f e
  have hoff : (f.monitors ()).active? = none := by decide +kernel
  have hb : f.backends () = .exporter e := by decide +kernel
  have hanswer : (f.step (.enable () () "checkout" [])).2.answer =
      .refused (.duplicateView latency.name) := by decide +kernel
  obtain ⟨-, hfirst, -⟩ := enabling_decided_by_names_then_bounds f () () e "checkout" [] hoff hb
  exact ⟨hoff, hb, .noBounds rfl, hanswer, (hfirst latency.name).mp hanswer⟩

end Fleet
end Telemetry
