/-
# Settings that were built are never refused

Bounds are checked twice, by a draft when settings are built of it and by an
exporting backend when the catalogue is registered. What the first check passes
(`Draft.goodBounds_of_build`), the second does too, so a backend that holds
none of the instruments takes the catalogue with the bounds of any settings that
were built of choices or loaded from a document
(`View.acceptable_catalogue`). The simulated runtime starts with such
settings on an empty backend, and reporting events logs nothing of a level above
`debug` (`Fleet.logs_run_recordings`); so it never tells of going on without
metrics.

Key definitions: `Settings.Obtained`.
Key theorems: `Settings.Obtained.goodBounds`, `View.acceptable_catalogue`,
`Fleet.logs_run_recordings`, `Fleet.obtained_settings_never_refused`.
-/
import Mathlib
import Telemetry.Program
import Telemetry.Proofs.Choices
import Telemetry.Proofs.Mirror

namespace Telemetry

/-! ### Settings that can be obtained -/

/-- Settings that there can be on a host of the given name: built of choices in
any order, or loaded from a document. -/
inductive Settings.Obtained (host : String) (s : Settings) : Prop
  | built (choices : List Choice) (h : (Draft.ofChoices choices).build host = .ok s)
  | loaded (document : String) (h : Settings.load host document = .ok s)

theorem Settings.Obtained.goodBounds {host : String} {s : Settings} (h : s.Obtained host) :
    GoodBounds s.bounds := by
  cases h with
  | built choices h => exact Draft.goodBounds_of_build h
  | loaded document h =>
    unfold Settings.load at h
    split at h
    · cases h
    · split at h
      · cases h
      next hd =>
        cases h
        exact Draft.goodBounds_of_build hd

/-- What the options of a run give can be obtained. -/
theorem Options.obtained_of_settings {o : Options} {host : String} {document? : Option String}
    {s : Settings} (h : o.settings host document? = .ok s) : s.Obtained host := by
  unfold settings at h
  split at h
  · split at h
    · cases h
    next document => exact .loaded document (mapError_eq_ok_iff.mp h)
  · exact .built o.choices (mapError_eq_ok_iff.mp h)

/-! ### The catalogue with such bounds -/

/-- With good bounds, the catalogue can be taken wherever its names are free. -/
theorem View.acceptable_catalogue {taken : List String} {bounds : List Binary64}
    (h : GoodBounds bounds) (hfree : ∀ i : Instrument, i.name ∉ taken) :
    Acceptable taken (View.catalogue bounds) where
  nodup := View.nodup_name_catalogue bounds
  fresh v hv := by
    obtain ⟨i, -, rfl⟩ := List.mem_map.mp hv
    exact hfree i
  sound v hv := by
    obtain ⟨i, -, rfl⟩ := List.mem_map.mp hv
    exact i.sound_view h

namespace Fleet

variable {μ β : Type} [DecidableEq μ] [DecidableEq β] {f : Fleet μ β} {m : μ} {b : β}
  {e : Exporter} {s : Settings}

/-- Settings with good bounds enable a monitor on a backend that holds no
instrument. -/
theorem step_enableWith_of_good (hon : s.enabled = true) (hgood : GoodBounds s.bounds)
    (hoff : (f.monitors m).active? = none) (hb : f.backends b = .exporter e)
    (hfree : ∀ i : Instrument, i.name ∉ e.registered.keys) :
    ∃ traffic, f.step (.enableWith m b s) =
        ((f.setMonitor m ⟨some ⟨s.appId, b⟩, (f.monitors m).backlog⟩).setBackend b
          (.exporter (e.addAll (View.catalogue s.bounds))), ⟨.done, traffic⟩) ∧
      ∀ l ∈ traffic.logs, l.level ≠ .error := by
  have hreq : (Operation.enableWith m b s).request? m = some (⟨s.appId, b⟩, s.bounds) :=
    if_pos ⟨rfl, hon⟩
  have hr := Exporter.register_of_acceptable (View.acceptable_catalogue hgood hfree)
  rw [← hb] at hr
  refine ⟨_, step_of_taken hreq hoff hr, ?_⟩
  intro l hl
  rcases List.mem_append.mp hl with hl | hl
  · rw [List.mem_singleton.mp hl]
    exact Level.noConfusion
  · rw [List.mem_singleton.mp hl]
    exact Level.noConfusion

/-! ### What events log -/

end Fleet

/-- Samples that are dropped are told of at the level `debug`, and nothing else
is logged. -/
theorem Backend.level_of_mem_submit (b : Backend) (samples : List Sample) :
    ∀ l ∈ (b.submit samples).2.logs, l.level = .debug := by
  intro l hl
  cases b with
  | capture c => cases hl
  | exporter e =>
    obtain ⟨t, ht, hl⟩ := List.mem_flatMap.mp hl
    obtain ⟨s, -, rfl⟩ := List.mem_map.mp ht
    unfold Exporter.submit at hl
    split at hl
    · cases hl
    · rw [List.mem_singleton.mp hl]

namespace Fleet

variable {μ β : Type} [DecidableEq μ] [DecidableEq β]

theorem level_of_mem_step_record (f : Fleet μ β) (m : μ) (event : RuntimeEvent) (now : Instant) :
    ∀ l ∈ (f.step (.record m event now)).2.traffic.logs, l.level = .debug := by
  cases hact : (f.monitors m).active? with
  | none =>
    rw [step_record_of_inactive hact]
    exact fun l hl => absurd hl List.not_mem_nil
  | some a =>
    rw [step_record_of_active hact]
    exact Backend.level_of_mem_submit _ _

theorem logs_run_recordings (f : Fleet μ β) (m : μ) (events : List (RuntimeEvent × Instant)) :
    ∀ o ∈ (f.run (recordings m events)).2, ∀ l ∈ o.traffic.logs, l.level = .debug := by
  induction events generalizing f with
  | nil => exact fun o ho => absurd ho List.not_mem_nil
  | cons e events ih =>
    refine List.forall_mem_cons.mpr ⟨f.level_of_mem_step_record m e.1 e.2, ?_⟩
    exact ih (f.step (.record m e.1 e.2)).1

theorem level_of_mem_work (f : Fleet μ β) (m : μ) (workers : List Worker) (schedule : List ℕ) :
    ∀ l ∈ (f.work m workers schedule).2.traffic.logs, l.level = .debug := by
  unfold work
  split
  · exact fun l hl => absurd hl List.not_mem_nil
  · exact Backend.level_of_mem_submit _ _

end Fleet

/-! ### The simulated runtime -/

namespace Simulation

theorem level_of_mem_report (f : Site) (now : Instant) (events : List RuntimeEvent) :
    ∀ l ∈ (report f now events).2.logs, l.level = .debug := by
  intro l hl
  obtain ⟨t, ht, hl⟩ := List.mem_flatMap.mp hl
  obtain ⟨o, ho, rfl⟩ := List.mem_map.mp ht
  have hops : events.map (fun e => (.record () e now : Operation Unit Unit)) =
      Fleet.recordings () (events.map fun e => (e, now)) := by
    rw [Fleet.recordings, List.map_map]
    rfl
  rw [hops] at ho
  exact f.logs_run_recordings () _ o ho l hl

/-- What a run logs up to the snapshot: on enabling its monitor, what came of
that, and then nothing above the level `debug`. -/
theorem before_run (s : Settings) (calls : ℕ) (schedule : List ℕ) (start now : Instant) :
    ∃ logs : List LogLine,
      (run s calls schedule start now).before =
        ((site.step (.enableWith () () s)).2.traffic.logs ++
          verdict s (site.step (.enableWith () () s)).2.answer :: logs).filter isShown ∧
      ∀ l ∈ logs, l.level = .debug := by
  unfold run
  rcases site.step (.enableWith () () s) with ⟨f, enabled⟩
  refine ⟨_, rfl, ?_⟩
  intro l hl
  simp only [Traffic.logs_append, List.mem_append] at hl
  rcases hl with ((hl | hl) | hl) | hl
  · exact level_of_mem_report f start startup l hl
  · exact Fleet.level_of_mem_work _ () (workers start calls) schedule l hl
  · exact level_of_mem_report _ now (downstream start) l hl
  · exact level_of_mem_report _ now shutdown l hl

/-- The simulated runtime starts with good bounds, or with metrics off. -/
theorem level_of_mem_before {s : Settings} (h : GoodBounds s.bounds) (calls : ℕ)
    (schedule : List ℕ) (start now : Instant) :
    ∀ l ∈ (run s calls schedule start now).before, l.level ≠ .error := by
  obtain ⟨logs, hbefore, hlogs⟩ := before_run s calls schedule start now
  have hstart : (∀ l ∈ (site.step (.enableWith () () s)).2.traffic.logs, l.level ≠ .error) ∧
      (verdict s (site.step (.enableWith () () s)).2.answer).level ≠ .error := by
    cases hon : s.enabled with
    | false =>
      rw [Fleet.step_enableWith_of_off hon]
      refine ⟨fun l hl => ?_, Level.noConfusion⟩
      rw [List.mem_singleton.mp hl]
      exact Level.noConfusion
    | true =>
      obtain ⟨traffic, hstep, hlevel⟩ :=
        Fleet.step_enableWith_of_good (f := site) (m := ()) (b := ()) hon h rfl rfl
          fun i => List.not_mem_nil
      rw [hstep]
      exact ⟨hlevel, Level.noConfusion⟩
  intro l hl
  rw [hbefore] at hl
  rcases List.mem_append.mp (List.mem_of_mem_filter hl) with hl | hl
  · exact hstart.1 l hl
  · rcases List.mem_cons.mp hl with rfl | hl
    · exact hstart.2
    · rw [hlogs l hl]
      exact Level.noConfusion

end Simulation

/-- A run of the program that comes to its end had settings that can be
obtained. -/
theorem Program.run_eq_finished {args : List String} {host : String}
    {readFile : String → Option String} {start now : Instant} {report : Simulation.Report}
    (h : run args host readFile start now = .finished report) :
    ∃ (s : Settings) (calls : ℕ) (schedule : List ℕ), s.Obtained host ∧
      report = Simulation.run s calls schedule start now := by
  unfold run at h
  split at h
  · cases h
  · cases h
  · cases h
  next options _ =>
    split at h
    · cases h
    next s hs =>
      cases h
      exact ⟨s, options.calls, _, Options.obtained_of_settings hs, rfl⟩

namespace Fleet

variable {μ β : Type} [DecidableEq μ] [DecidableEq β]

/-- **Settings that were built are never refused.** Take settings that were
built of choices or loaded from a document, a monitor that is not enabled and an
exporting backend that holds none of the instruments. An attempt to enable the
monitor by these settings is not refused. If they have metrics on, the monitor is
enabled with their application id, the backend holds the instruments after what
it held before, and has the bounds of the settings for latencies; if not, nothing
changes. So no run of the simulated runtime with these settings, and no run of
the program at all, tells of going on without metrics. -/
theorem obtained_settings_never_refused (f : Fleet μ β) (m : μ) (b : β) (e : Exporter)
    (host : String) (s : Settings) (hs : s.Obtained host)
    (hoff : (f.monitors m).active? = none) (hb : f.backends b = .exporter e)
    (hfree : ∀ i : Instrument, i.name ∉ e.registered.keys) :
    let after := f.step (.enableWith m b s)
    (∀ err, after.2.answer ≠ .refused err) ∧
    (s.enabled = true →
      after.2.answer = .done ∧ (after.1.monitors m).isEnabled = true ∧
      (after.1.monitors m).appId? = some s.appId ∧
      ∃ e' : Exporter, after.1.backends b = .exporter e' ∧
        e'.registered.keys = e.registered.keys ++ Instrument.all.map Instrument.name ∧
        (∀ name ∈ e.registered.keys, e'.registered.get? name = e.registered.get? name) ∧
        e'.boundsOf Instrument.responseLatency.name = some s.bounds) ∧
    (s.enabled = false → after.2.answer = .off ∧ after.1 = f) ∧
    (∀ calls schedule start now err,
      Simulation.verdict s (.refused err) ∉ (Simulation.run s calls schedule start now).before) ∧
    ∀ args readFile start now report,
      Program.run args host readFile start now = .finished report →
        ∀ err, Simulation.verdict s (.refused err) ∉ report.before := by
  have hgood := hs.goodBounds
  have hquiet : ∀ {s' : Settings}, s'.Obtained host → ∀ calls schedule start now err,
      Simulation.verdict s (.refused err) ∉ (Simulation.run s' calls schedule start now).before :=
    fun hs' calls schedule start now err hmem =>
      Simulation.level_of_mem_before hs'.goodBounds calls schedule start now _ hmem rfl
  intro after
  have hprogram : ∀ args readFile start now report,
      Program.run args host readFile start now = .finished report →
        ∀ err, Simulation.verdict s (.refused err) ∉ report.before := by
    intro args readFile start now report hrun err
    obtain ⟨s', calls, schedule, hs', rfl⟩ := Program.run_eq_finished hrun
    exact hquiet hs' calls schedule start now err
  cases hon : s.enabled with
  | false =>
    have hafter : after = (f, ⟨.off, _⟩) := step_enableWith_of_off hon
    rw [hafter]
    exact ⟨fun _ => Answer.noConfusion, fun h => Bool.noConfusion h, fun _ => ⟨rfl, rfl⟩,
      hquiet hs, hprogram⟩
  | true =>
    obtain ⟨traffic, hafter, -⟩ := step_enableWith_of_good hon hgood hoff hb hfree
    have hkeys := Exporter.keys_addAll (View.acceptable_catalogue hgood hfree)
    have hlatency := Exporter.get?_addAll_of_mem e (View.nodup_name_catalogue s.bounds)
      (Instrument.responseLatency.view_mem_catalogue s.bounds)
    rw [View.map_name_catalogue] at hkeys
    have hold : ∀ name ∈ e.registered.keys,
        (e.addAll (View.catalogue s.bounds)).registered.get? name = e.registered.get? name := by
      intro name hname
      refine Exporter.get?_addAll_of_notMem fun hmem => ?_
      obtain ⟨v, hv, rfl⟩ := List.mem_map.mp hmem
      exact (View.acceptable_catalogue hgood hfree).fresh v hv hname
    rw [show after = _ from hafter]
    refine ⟨fun _ => Answer.noConfusion, fun _ => ⟨rfl, ?_, ?_, _, setBackend_backends_self _ _ _,
      hkeys, hold, Exporter.boundsOf_eq hlatency⟩, fun h => Bool.noConfusion h, hquiet hs, hprogram⟩
    · rw [setBackend_monitors, setMonitor_monitors_self]
      rfl
    · rw [setBackend_monitors, setMonitor_monitors_self]
      rfl

/-- Bounds out of order are refused, and then come those of a document, which are
fractions in part. -/
theorem obtained_settings_never_refused_after_a_refusal :
    let new : Fleet Unit Unit := ⟨fun _ => .fresh, fun _ => .exporter {}⟩
    let attempt : Operation Unit Unit := .enable () () "shop" [.ofNat 5, .ofNat 1]
    let f := (new.step attempt).1
    let document := "\x7b\"latencyBucketsMs\": [0.5, 1e3], \"appId\": \"checkout\"\x7d"
    let bounds : List Binary64 := [⟨0x3FE0000000000000⟩, .ofNat 1000]
    let s : Settings := ⟨true, "checkout", bounds⟩
    (new.step attempt).2.answer = .refused (.invalidAggregation Instrument.responseLatency.name
      "bucket bounds must be strictly increasing") ∧
    Settings.load "host" document = .ok s ∧ (f.monitors ()).active? = none ∧
    f.backends () = .exporter {} ∧
    (f.step (.enableWith () () s)).2.answer = .done ∧
    ((f.step (.enableWith () () s)).1.monitors ()).appId? = some "checkout" ∧
    ∃ e : Exporter, (f.step (.enableWith () () s)).1.backends () = .exporter e ∧
      e.boundsOf Instrument.responseLatency.name = some bounds := by
  intro new attempt f document bounds s
  have hrefused : (new.step attempt).2.answer = .refused
      (.invalidAggregation Instrument.responseLatency.name
        "bucket bounds must be strictly increasing") := by decide +kernel
  have hload : Settings.load "host" document = .ok s := by decide +kernel
  have hoff : (f.monitors ()).active? = none := by decide +kernel
  have hnew : f.backends () = .exporter {} := by decide +kernel
  obtain ⟨-, hon, -⟩ := obtained_settings_never_refused f () () {} "host" s
    (.loaded document hload) hoff hnew fun _ => List.not_mem_nil
  obtain ⟨hanswer, -, happId, e, he, -, -, hbounds⟩ := hon rfl
  exact ⟨hrefused, hload, hoff, hnew, hanswer, happId, e, he, hbounds⟩

end Fleet
end Telemetry
