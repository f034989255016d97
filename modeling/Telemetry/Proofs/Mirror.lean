/-
# The exporting backend mirrors the capturing one

Two monitors are enabled with the same application id and bounds, one on a
new capturing backend and one on a new exporting backend, and the same events
are reported to both. The calls on the metrics recorder are then the image of
the captured samples, one for one and in order. An event samples instruments
of the catalogue only (`RuntimeEvent.samples_ofInstrument`), enabling registers
all of them, each with the target of its kind (`Exporter.Covers`), and no
event changes what is registered. An integer is handed over as the nearest
binary64 number, and a float as it is (`Value.ReadAs`).

Key definitions: `Value.ReadAs`, `Mirrors`, `Exporter.Covers`, `Twins`.
Key theorems: `RuntimeEvent.samples_ofInstrument`, `Exporter.Covers.submit`,
`Twins.step`, `Twins.run`, `Fleet.exporter_mirrors_capture`.
-/
import Mathlib
import Telemetry.Proofs.NearestValues
import Telemetry.Proofs.Offences
import Telemetry.Proofs.Operations

namespace Telemetry

/-- The binary64 number that a value is read as: the one that an integer is rounded
to, and a float itself. -/
inductive Value.ReadAs : Value → Binary64 → Prop
  | int (n : Int64) : ReadAs (.int n) (.ofInt n.toInt)
  | float (x : Binary64) : ReadAs (.float x) x

theorem Value.readAs_iff {v : Value} {x : Binary64} : v.ReadAs x ↔ v.toBinary64 = x := by
  constructor
  · rintro (n | x)
    · rfl
    · rfl
  · rintro rfl
    cases v with
    | int n => exact .int n
    | float x => exact .float x

/-- Every integer of 64 bits is rounded to the nearest number. -/
theorem Value.nearest_ofInt_toInt (n : Int64) : (Binary64.ofInt n.toInt).Nearest n.toInt := by
  have hlo := n.le_toInt
  have hhi := n.toInt_lt
  exact Binary64.nearest_ofInt (by omega)

/-- The call that is the image of a sample: one more of what a counter counts,
and the value, as a binary64 number, that a gauge is set to or a histogram
records. -/
inductive Mirrors : Sample → Update → Prop
  | counter (i : Instrument) (hi : i.kind = .counter) (tags : List Tag) :
      Mirrors ⟨i.name, tags, .int 1⟩ (.increment i.name tags 1)
  | gauge (i : Instrument) (hi : i.kind = .gauge) (tags : List Tag) {value : Value}
      {x : Binary64} (hx : value.ReadAs x) : Mirrors ⟨i.name, tags, value⟩ (.set i.name tags x)
  | histogram (i : Instrument) (hi : i.kind = .histogram) (tags : List Tag) {value : Value}
      {x : Binary64} (hx : value.ReadAs x) : Mirrors ⟨i.name, tags, value⟩ (.record i.name tags x)

/-! ### What events sample -/

/-- A sample of an instrument of the catalogue; a counter goes up by one. -/
def Sample.OfInstrument (s : Sample) : Prop :=
  ∃ i : Instrument, s.name = i.name ∧ (i.kind = .counter → s.value = .int 1)

theorem Measurement.ofInstrument_count (i : Instrument) (tagValues : List String) :
    (count i tagValues).sample.OfInstrument :=
  ⟨i, rfl, fun _ => rfl⟩

theorem Measurement.ofInstrument_sample {i : Instrument} (hi : i.kind ≠ .counter)
    (tagValues : List String) (value : Value) :
    (Measurement.mk i tagValues value).sample.OfInstrument :=
  ⟨i, rfl, fun h => absurd h hi⟩

theorem RuntimeEvent.samples_ofInstrument (appId : String) (now : Instant) (backlog : Backlog)
    (event : RuntimeEvent) : ∀ s ∈ event.samples appId now backlog, s.OfInstrument := by
  intro s hs
  obtain ⟨r, hr, rfl⟩ := List.mem_map.mp hs
  cases event
  case remindersSet | timersSet | pendingCallsChanged =>
    rw [List.mem_singleton.mp hr]
    exact Measurement.ofInstrument_sample (by decide) _ _
  case responseReceived =>
    rcases List.mem_cons.mp hr with rfl | hr
    · exact Measurement.ofInstrument_count _ _
    · rw [List.mem_singleton.mp hr]
      exact Measurement.ofInstrument_sample (by decide) _ _
  all_goals
    rw [List.mem_singleton.mp hr]
    exact Measurement.ofInstrument_count _ _

/-! ### A backend that covers the catalogue -/

/-- Every instrument is registered, with the target of its kind. -/
def Exporter.Covers (e : Exporter) : Prop :=
  ∀ i : Instrument, ∃ r, e.registered.get? i.name = some r ∧ r.target = i.kind.target

theorem View.nodup_name_catalogue (bounds : List Binary64) :
    ((View.catalogue bounds).map View.name).Nodup := by
  rw [View.map_name_catalogue]
  exact Instrument.nodup_all.map fun _ _ h => Instrument.name_injective h

theorem Instrument.view_mem_catalogue (i : Instrument) (bounds : List Binary64) :
    i.view bounds ∈ View.catalogue bounds :=
  List.mem_map_of_mem (Instrument.mem_all i)

namespace Exporter

/-- The views of the catalogue are all there once they are added. -/
theorem covers_addAll_catalogue (e : Exporter) (bounds : List Binary64) :
    (e.addAll (View.catalogue bounds)).Covers := by
  intro i
  have hget := get?_addAll_of_mem e (View.nodup_name_catalogue bounds)
    (i.view_mem_catalogue bounds)
  exact ⟨(i.view bounds).registered, hget, rfl⟩

/-- A sample of an instrument makes the call that is its image. -/
theorem Covers.call?_eq {e : Exporter} (h : e.Covers) {s : Sample} (hs : s.OfInstrument) :
    ∃ u, e.call? s = some u ∧ Mirrors s u := by
  obtain ⟨i, hname, hcounter⟩ := hs
  obtain ⟨r, hr, htarget⟩ := h i
  have hcall : e.call? s = some (update i.kind.target s) := by
    rw [call?, hname, hr, Option.map_some, htarget]
  obtain ⟨name, tags, value⟩ := s
  simp only at hname hcounter
  subst hname
  cases hkind : i.kind with
  | counter =>
    rw [hcounter hkind, hkind] at hcall
    rw [hcounter hkind]
    exact ⟨_, hcall, .counter i hkind tags⟩
  | gauge =>
    rw [hkind] at hcall
    exact ⟨_, hcall, .gauge i hkind tags (Value.readAs_iff.mpr rfl)⟩
  | histogram =>
    rw [hkind] at hcall
    exact ⟨_, hcall, .histogram i hkind tags (Value.readAs_iff.mpr rfl)⟩

/-- Samples of instruments make a call each and are not logged. -/
theorem Covers.submit {e : Exporter} (h : e.Covers) : ∀ samples : List Sample,
    (∀ s ∈ samples, s.OfInstrument) →
      List.Forall₂ Mirrors samples ((Backend.exporter e).submit samples).2.updates ∧
        ((Backend.exporter e).submit samples).2.logs = []
  | [], _ => ⟨.nil, rfl⟩
  | s :: samples, hs => by
    obtain ⟨u, hcall, hu⟩ := h.call?_eq (hs s (by simp))
    obtain ⟨hrest, hlogs⟩ := h.submit samples fun t ht => hs t (List.mem_cons_of_mem _ ht)
    have hone : e.submit s = ⟨[u], []⟩ := by rw [Exporter.submit, hcall]
    simp only [Backend.submit, List.map_cons, Traffic.concat_cons, Traffic.updates_append,
      Traffic.logs_append, hone] at hrest hlogs ⊢
    exact ⟨.cons hu hrest, hlogs⟩

end Exporter

/-! ### Two monitors with the same events -/

/-- Monitors `m` and `n` of two fleets are enabled with the same application
id and have the same backlog, one on a capturing backend and the other on an
exporting one that covers the catalogue. -/
structure Twins {μ β ν γ : Type} (f : Fleet μ β) (m : μ) (b : β) (g : Fleet ν γ) (n : ν) (c : γ)
    (appId : String) (cap : Capture) (e : Exporter) : Prop where
  left : (f.monitors m).active? = some ⟨appId, b⟩
  right : (g.monitors n).active? = some ⟨appId, c⟩
  backlog : (f.monitors m).backlog = (g.monitors n).backlog
  capture : f.backends b = .capture cap
  exporter : g.backends c = .exporter e
  covers : e.Covers

section Twins

variable {μ β ν γ : Type} [DecidableEq μ] [DecidableEq β] [DecidableEq ν] [DecidableEq γ]
  {f : Fleet μ β} {m : μ} {b : β} {g : Fleet ν γ} {n : ν} {c : γ} {appId : String}
  {cap : Capture} {e : Exporter}

/-- One event: the samples captured and the calls made are images of each
other, and nothing is logged. -/
theorem Twins.step (h : Twins f m b g n c appId cap e) (event : RuntimeEvent) (now : Instant) :
    ∃ samples, Twins (f.step (.record m event now)).1 m b (g.step (.record n event now)).1 n c
        appId (cap.submit samples) e ∧
      List.Forall₂ Mirrors samples (g.step (.record n event now)).2.traffic.updates ∧
      (f.step (.record m event now)).2.traffic.logs = [] ∧
      (g.step (.record n event now)).2.traffic.logs = [] := by
  obtain ⟨hleft, hright, hbacklog, hcap, hexp, hcov⟩ := h
  have hf := Fleet.step_record_of_active hleft event now
  have hg := Fleet.step_record_of_active hright event now
  rw [← hbacklog] at hg
  set backlog := event.updateBacklog (f.monitors m).backlog
  set samples := event.samples appId now backlog
  obtain ⟨hmirror, hlogs⟩ :=
    hcov.submit samples (RuntimeEvent.samples_ofInstrument appId now backlog event)
  simp only [hcap] at hf
  simp only [hexp] at hg
  refine ⟨samples, ?_, ?_, ?_, ?_⟩
  · rw [hf, hg]
    refine ⟨?_, ?_, ?_, ?_, ?_, hcov⟩
    · simp
    · simp
    · simp
    · simp [Backend.submit, samples]
    · simp [Backend.submit]
  · rw [hg]
    exact hmirror
  · rw [hf]
    rfl
  · rw [hg]
    exact hlogs

/-- Any number of events. -/
theorem Twins.run (h : Twins f m b g n c appId cap e) (events : List (RuntimeEvent × Instant)) :
    ∃ samples, Twins (f.run (Fleet.recordings m events)).1 m b
        (g.run (Fleet.recordings n events)).1 n c appId (cap.submit samples) e ∧
      List.Forall₂ Mirrors samples (g.updates (Fleet.recordings n events)) ∧
      (∀ o ∈ (f.run (Fleet.recordings m events)).2, o.traffic.logs = []) ∧
      (∀ o ∈ (g.run (Fleet.recordings n events)).2, o.traffic.logs = []) := by
  induction events generalizing f g cap with
  | nil =>
    have hcap : cap.submit [] = cap := by simp [Capture.submit]
    refine ⟨[], ?_, .nil, ?_, ?_⟩
    · rw [hcap]
      exact h
    · simp [Fleet.recordings, Fleet.run]
    · simp [Fleet.recordings, Fleet.run]
  | cons event events ih =>
    obtain ⟨now, h₁, hmirror₁, hflogs, hglogs⟩ := h.step event.1 event.2
    obtain ⟨later, h₂, hmirror₂, hfrest, hgrest⟩ := ih h₁
    have hcap : cap.submit (now ++ later) = (cap.submit now).submit later := by
      simp [Capture.submit]
    refine ⟨now ++ later, ?_, ?_, ?_, ?_⟩
    · rw [hcap]
      exact h₂
    · rw [Fleet.recordings_cons, Fleet.updates_cons]
      exact List.rel_append hmirror₁ hmirror₂
    · exact List.forall_mem_cons.mpr ⟨hflogs, hfrest⟩
    · exact List.forall_mem_cons.mpr ⟨hglogs, hgrest⟩

/-- A new capturing backend takes the catalogue. -/
theorem Backend.register_new_capture (views : List View) :
    (Backend.capture {}).register views =
      (none, .capture { views := views, registrations := 1 }, .none) := by
  have hdup : Capture.duplicate? {} views = none := by simp [Capture.duplicate?, Capture.holds]
  simp [Backend.register, Capture.register, hdup]

/-- If a new exporting backend takes the catalogue, it covers it. -/
theorem Backend.register_new_exporter_cases (bounds : List Binary64) :
    (∃ err traffic, (Backend.exporter {}).register (View.catalogue bounds) =
      (some err, .exporter {}, traffic)) ∨
    ∃ e traffic, (Backend.exporter {}).register (View.catalogue bounds) =
      (none, .exporter e, traffic) ∧ e.Covers := by
  rcases Exporter.register_cases {} (View.catalogue bounds) with ⟨_, err, -, heq⟩ | ⟨-, heq⟩
  · exact Or.inl ⟨err, .none, by rw [Backend.register]; simp only [heq]⟩
  · exact Or.inr ⟨_, _, by rw [Backend.register]; simp only [heq]; rfl,
      Exporter.covers_addAll_catalogue {} bounds⟩

/-- Monitors that were just enabled are twins. -/
theorem Twins.start {bounds : List Binary64} (hf : f.monitors m = .fresh)
    (hg : g.monitors n = .fresh) (hfb : f.backends b = .capture {})
    (hgc : g.backends c = .exporter {})
    (hdone : (g.step (.enable n c appId bounds)).2.answer = .done) :
    ∃ cap e, cap.samples = [] ∧ Twins (f.step (.enable m b appId bounds)).1 m b
      (g.step (.enable n c appId bounds)).1 n c appId cap e := by
  have hfm : (f.monitors m).active? = none := by rw [hf]; rfl
  have hgn : (g.monitors n).active? = none := by rw [hg]; rfl
  have hfstep := Fleet.step_of_taken (Operation.request?_enable m b appId bounds) hfm
    (by rw [hfb]; exact Backend.register_new_capture (View.catalogue bounds))
  have hask := Operation.request?_enable n c appId bounds
  rcases Backend.register_new_exporter_cases bounds with ⟨err, traffic, hr⟩ | ⟨e, traffic, hr, hcov⟩
  · rw [Fleet.step_of_refused hask hgn (by rw [hgc]; exact hr)] at hdone
    exact Answer.noConfusion hdone
  · have hgstep := Fleet.step_of_taken hask hgn (by rw [hgc]; exact hr)
    rw [hfstep, hgstep]
    refine ⟨_, e, ?_, ?_, ?_, ?_, Fleet.setBackend_backends_self _ _ _,
      Fleet.setBackend_backends_self _ _ _, hcov⟩
    · rfl
    · simp
    · simp
    · simp only [Fleet.setBackend_monitors, Fleet.setMonitor_monitors_self, hf, hg]
      rfl

/-- **The exporting backend mirrors the capturing one.** Two new monitors are
enabled alike, one on a new capturing backend, which always takes it, and the
other on a new exporting backend, which did. Whatever the events, the calls on
the metrics recorder are the images of the captured samples, one for one and
in order, and no event is logged. In these images the binary64 number for an
integer is the nearest one. -/
theorem Fleet.exporter_mirrors_capture (f : Fleet μ β) (m : μ) (b : β) (g : Fleet ν γ) (n : ν)
    (c : γ) (appId : String) (bounds : List Binary64) (hf : f.monitors m = .fresh)
    (hg : g.monitors n = .fresh) (hfb : f.backends b = .capture {})
    (hgc : g.backends c = .exporter {})
    (hdone : (g.step (.enable n c appId bounds)).2.answer = .done)
    (events : List (RuntimeEvent × Instant)) :
    ∃ cap : Capture,
      ((f.step (.enable m b appId bounds)).1.run (recordings m events)).1.backends b =
        .capture cap ∧
      List.Forall₂ Mirrors cap.samples
        ((g.step (.enable n c appId bounds)).1.updates (recordings n events)) ∧
      (∀ k : Int64, (Binary64.ofInt k.toInt).Nearest k.toInt) ∧
      (∀ o ∈ ((f.step (.enable m b appId bounds)).1.run (recordings m events)).2,
        o.traffic.logs = []) ∧
      ∀ o ∈ ((g.step (.enable n c appId bounds)).1.run (recordings n events)).2,
        o.traffic.logs = [] := by
  obtain ⟨cap, e, hnone, htwins⟩ := Twins.start hf hg hfb hgc hdone
  obtain ⟨samples, hrun, hmirror, hflogs, hglogs⟩ := htwins.run events
  have hsamples : (cap.submit samples).samples = samples := by
    rw [Capture.submit, hnone, List.nil_append]
  exact ⟨cap.submit samples, hrun.capture, by rw [hsamples]; exact hmirror,
    Value.nearest_ofInt_toInt, hflogs, hglogs⟩

/-- A gauge that is set to an integer past 2^53, two reports of pending calls and a
response, with one bound of one millisecond. The integer lies in the middle between
two numbers, and the even one is taken. -/
theorem Fleet.exporter_mirrors_capture_of_four :
    let f : Fleet Unit Unit := ⟨fun _ => .fresh, fun _ => .capture {}⟩
    let g : Fleet Unit Unit := ⟨fun _ => .fresh, fun _ => .exporter {}⟩
    let enable : Operation Unit Unit := .enable () () "checkout" [.ofNat 1]
    let events : List (RuntimeEvent × Instant) :=
      [(.timersSet "cart" 9007199254740993, ⟨0⟩), (.pendingCallsChanged "cart" 1, ⟨0⟩),
        (.pendingCallsChanged "cart" (-2), ⟨0⟩), (.responseReceived "orders" 200 ⟨0⟩, ⟨5000000⟩)]
    let tags : List Tag := [⟨.appId, "checkout"⟩, ⟨.actorType, "cart"⟩]
    (g.step enable).2.answer = .done ∧
    ((g.step enable).1.updates (recordings () events)).take 3 =
      [.set Instrument.timers.name tags ⟨0x4340000000000000⟩,
        .set Instrument.pendingCalls.name tags (.ofNat 1),
        .set Instrument.pendingCalls.name tags (Binary64.ofNat 1).neg] ∧
    ∃ cap : Capture, ((f.step enable).1.run (recordings () events)).1.backends () = .capture cap ∧
      List.Forall₂ Mirrors cap.samples ((g.step enable).1.updates (recordings () events)) ∧
      ((g.step enable).1.updates (recordings () events)).length = 5 ∧
      (∀ o ∈ ((f.step enable).1.run (recordings () events)).2, o.traffic.logs = []) ∧
      ∀ o ∈ ((g.step enable).1.run (recordings () events)).2, o.traffic.logs = [] := by
  intro f g enable events tags
  have hdone : (g.step enable).2.answer = .done := by decide +kernel
  obtain ⟨cap, hcap, hmirror, -, hflogs, hglogs⟩ :=
    exporter_mirrors_capture f () () g () () "checkout" [.ofNat 1] rfl rfl rfl rfl hdone events
  exact ⟨hdone, by decide +kernel, cap, hcap, hmirror, by decide +kernel, hflogs, hglogs⟩

end Twins

end Telemetry
