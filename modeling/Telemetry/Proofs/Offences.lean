/-
# A batch of views is decided by its first offending view

The exporting backend checks a batch view by view. A view offends when its
name is taken, by a registered view or by one before it in the batch; if not,
when its aggregation does not go with its kind; if it does, when its bounds
are empty, not finite or not increasing. The error is that of the first view
that offends, and then nothing at all has changed. If none offends, the
metrics are described in order and every view is kept.

Key definitions: `View.Sound`, `View.Offends`, `OffendsAt`, `FirstOffence`,
`Acceptable`.
Key theorems: `Exporter.accept_cases`, `Exporter.register_cases`,
`Exporter.register_of_acceptable`, `Backend.register_decided_by_first_offence`.
-/
import Mathlib
import Telemetry.Backend
import Telemetry.Proofs.BucketBounds

namespace Telemetry

/-! ### What makes a view offend -/

/-- The aggregation that goes with a kind. -/
def Kind.Fits : Kind → Aggregation → Prop
  | .counter, .count => True
  | .gauge, .lastValue => True
  | .histogram, .distribution _ => True
  | _, _ => False

/-- The target that goes with a kind. -/
def Kind.target : Kind → Target
  | .counter => .counter
  | .gauge => .gauge
  | .histogram => .histogram

/-- A view whose aggregation goes with its kind and can be used. -/
structure View.Sound (v : View) : Prop where
  fits : v.instrument.kind.Fits v.aggregation
  bounds : ∀ bounds, v.aggregation = .distribution bounds → GoodBounds bounds

/-- Only the view of a histogram can be at fault, and that only for its bounds. -/
theorem Instrument.sound_view_of_histogram (i : Instrument) {bounds : List Binary64}
    (h : i.kind = .histogram → GoodBounds bounds) : (i.view bounds).Sound := by
  have hfits : i.kind.Fits (i.kind.aggregation bounds) := by cases i.kind <;> trivial
  have hbounds : ∀ bs, i.kind.aggregation bounds = .distribution bs → GoodBounds bs := by
    intro bs hbs
    cases hkind : i.kind with
    | counter | gauge =>
      rw [hkind] at hbs
      cases hbs
    | histogram =>
      rw [hkind] at hbs
      exact Aggregation.distribution.inj hbs ▸ h hkind
  exact ⟨hfits, hbounds⟩

/-- The view of an instrument is sound if the bounds are good. -/
theorem Instrument.sound_view (i : Instrument) {bounds : List Binary64} (h : GoodBounds bounds) :
    (i.view bounds).Sound :=
  i.sound_view_of_histogram fun _ => h

/-- The view offends with the error when the given names are taken. A taken
name comes before a mismatch, and that before the bounds. -/
inductive View.Offends (taken : List String) (v : View) : RegistrationError → Prop
  | duplicate (h : v.name ∈ taken) : Offends taken v (.duplicateView v.name)
  | mismatch (h : v.name ∉ taken) (hfits : ¬ v.instrument.kind.Fits v.aggregation) :
      Offends taken v (.invalidAggregation v.name
        s!"{v.instrument.kind.text} cannot be aggregated as {v.aggregation.text}")
  | noBounds (h : v.name ∉ taken) (hkind : v.instrument.kind = .histogram)
      (hagg : v.aggregation = .distribution []) :
      Offends taken v (.invalidAggregation v.name "no bucket bounds")
  | infinite {bounds : List Binary64} (h : v.name ∉ taken)
      (hkind : v.instrument.kind = .histogram) (hagg : v.aggregation = .distribution bounds)
      (hinf : ∃ x ∈ bounds, x.isFinite = false) :
      Offends taken v (.invalidAggregation v.name "bucket bounds must be finite")
  | unsorted {bounds : List Binary64} (h : v.name ∉ taken)
      (hkind : v.instrument.kind = .histogram) (hagg : v.aggregation = .distribution bounds)
      (hfin : ∀ x ∈ bounds, x.isFinite = true) (hdesc : HasDescent bounds) :
      Offends taken v (.invalidAggregation v.name "bucket bounds must be strictly increasing")

theorem View.Offends.mem_or_not_sound {taken : List String} {v : View} {err : RegistrationError}
    (h : v.Offends taken err) : v.name ∈ taken ∨ ¬ v.Sound := by
  cases h with
  | duplicate h => exact Or.inl h
  | mismatch _ hfits =>
    right
    intro hs
    exact hfits hs.fits
  | noBounds _ _ hagg =>
    right
    intro hs
    exact (hs.bounds _ hagg).ne_nil rfl
  | infinite _ _ hagg hinf =>
    right
    intro hs
    obtain ⟨x, hx, hinf⟩ := hinf
    have hfin : x.isFinite = true := (hs.bounds _ hagg).finite x hx
    rw [hfin] at hinf
    exact Bool.noConfusion hinf
  | unsorted _ _ hagg _ hdesc =>
    right
    intro hs
    exact (hs.bounds _ hagg).increasing hdesc

/-- What a view gives when its target is looked for: that of its kind if it is
sound, and if not a fault with which it offends once its name is free. -/
def View.TargetDecided (v : View) : Prop :=
  (v.Sound ∧ v.target = .ok v.instrument.kind.target) ∨
  (¬ v.Sound ∧ ∃ fault, v.target = .error fault ∧ ∀ taken, v.name ∉ taken →
    v.Offends taken (.invalidAggregation v.name fault.reason))

theorem View.targetDecided_of_distribution {v : View} {bounds : List Binary64}
    (hkind : v.instrument.kind = .histogram) (hagg : v.aggregation = .distribution bounds) :
    v.TargetDecided := by
  rcases boundsFault?_cases bounds with ⟨rfl, hb⟩ | ⟨hinf, hb⟩ | ⟨hfin, hdesc, hb⟩ | ⟨hgood, hb⟩
  · have hoff : ∀ taken, v.name ∉ taken → v.Offends taken _ := fun _ h => .noBounds h hkind hagg
    exact Or.inr ⟨fun hs => (hs.bounds _ hagg).ne_nil rfl, .noBounds,
      by simp [target, hkind, hagg, hb], hoff⟩
  · have hoff : ∀ taken, v.name ∉ taken → v.Offends taken _ := fun _ h =>
      .infinite h hkind hagg hinf
    refine Or.inr ⟨fun hs => ?_, .infiniteBound, by simp [target, hkind, hagg, hb], hoff⟩
    exact (hoff [] List.not_mem_nil).mem_or_not_sound.elim List.not_mem_nil (· hs)
  · have hoff : ∀ taken, v.name ∉ taken → v.Offends taken _ := fun _ h =>
      .unsorted h hkind hagg hfin hdesc
    exact Or.inr ⟨fun hs => (hs.bounds _ hagg).increasing hdesc, .unsortedBounds,
      by simp [target, hkind, hagg, hb], hoff⟩
  · have hbounds : ∀ b, v.aggregation = .distribution b → GoodBounds b := fun b h => by
      rw [hagg] at h
      exact Aggregation.distribution.inj h ▸ hgood
    exact Or.inl ⟨⟨by rw [hkind, hagg]; trivial, hbounds⟩,
      by simp [target, hkind, hagg, hb, Kind.target]⟩

theorem View.targetDecided_of_not_fits {v : View}
    (hfits : ¬ v.instrument.kind.Fits v.aggregation) : v.TargetDecided := by
  refine Or.inr ⟨fun hs => hfits hs.fits, .mismatch v.instrument.kind v.aggregation, ?_,
    fun _ h => .mismatch h hfits⟩
  unfold target
  split <;> simp_all [Kind.Fits]

theorem View.targetDecided (v : View) : v.TargetDecided := by
  by_cases hfits : v.instrument.kind.Fits v.aggregation
  · cases hkind : v.instrument.kind <;> cases hagg : v.aggregation <;>
      simp only [hkind, hagg, Kind.Fits] at hfits
    · have hs : v.Sound := ⟨by rw [hkind, hagg]; trivial, by simp [hagg]⟩
      exact Or.inl ⟨hs, by simp [target, hkind, hagg, Kind.target]⟩
    · have hs : v.Sound := ⟨by rw [hkind, hagg]; trivial, by simp [hagg]⟩
      exact Or.inl ⟨hs, by simp [target, hkind, hagg, Kind.target]⟩
    · exact targetDecided_of_distribution hkind hagg
  · exact targetDecided_of_not_fits hfits

theorem View.exists_offends_iff {taken : List String} {v : View} :
    (∃ err, v.Offends taken err) ↔ v.name ∈ taken ∨ ¬ v.Sound := by
  constructor
  · rintro ⟨err, h⟩
    exact h.mem_or_not_sound
  · intro h
    by_cases hmem : v.name ∈ taken
    · exact ⟨_, .duplicate hmem⟩
    · rcases v.targetDecided with ⟨hs, -⟩ | ⟨-, fault, -, hoff⟩
      · exact absurd hs (h.resolve_left hmem)
      · exact ⟨_, hoff taken hmem⟩

/-! ### The first offence of a batch -/

/-- View `i` of the batch offends: the names before it are taken too. -/
def OffendsAt (taken : List String) (views : List View) (i : ℕ) (err : RegistrationError) : Prop :=
  ∃ v, views[i]? = some v ∧ v.Offends (taken ++ (views.take i).map View.name) err

/-- View `i` offends and none before it. -/
def FirstOffence (taken : List String) (views : List View) (i : ℕ) (err : RegistrationError) :
    Prop :=
  OffendsAt taken views i err ∧ ∀ j < i, ∀ other, ¬ OffendsAt taken views j other

/-- A batch that can be taken when the given names are. -/
structure Acceptable (taken : List String) (views : List View) : Prop where
  nodup : (views.map View.name).Nodup
  fresh : ∀ v ∈ views, v.name ∉ taken
  sound : ∀ v ∈ views, v.Sound

section Batch

variable {taken : List String} {v : View} {vs : List View} {i : ℕ} {err : RegistrationError}

theorem offendsAt_zero : OffendsAt taken (v :: vs) 0 err ↔ v.Offends taken err := by
  simp [OffendsAt]

theorem offendsAt_succ :
    OffendsAt taken (v :: vs) (i + 1) err ↔ OffendsAt (taken ++ [v.name]) vs i err := by
  simp [OffendsAt]

theorem FirstOffence.zero (h : v.Offends taken err) : FirstOffence taken (v :: vs) 0 err :=
  ⟨offendsAt_zero.mpr h, fun _ hj => absurd hj (Nat.not_lt_zero _)⟩

theorem FirstOffence.succ (hv : ∀ other, ¬ v.Offends taken other)
    (h : FirstOffence (taken ++ [v.name]) vs i err) : FirstOffence taken (v :: vs) (i + 1) err := by
  refine ⟨offendsAt_succ.mpr h.1, fun j hj other hoff => ?_⟩
  cases j with
  | zero => exact hv other (offendsAt_zero.mp hoff)
  | succ j => exact h.2 j (by omega) other (offendsAt_succ.mp hoff)

theorem acceptable_nil : Acceptable taken [] := ⟨List.nodup_nil, by simp, by simp⟩

theorem acceptable_cons :
    Acceptable taken (v :: vs) ↔ v.name ∉ taken ∧ v.Sound ∧ Acceptable (taken ++ [v.name]) vs := by
  constructor
  · rintro ⟨hnodup, hfresh, hsound⟩
    rw [List.map_cons, List.nodup_cons] at hnodup
    refine ⟨hfresh v (by simp), hsound v (by simp), hnodup.2, fun w hw => ?_, fun w hw => ?_⟩
    · have hne : w.name ≠ v.name := fun h => hnodup.1 (h ▸ List.mem_map_of_mem hw)
      simpa [hne] using hfresh w (List.mem_cons_of_mem _ hw)
    · exact hsound w (List.mem_cons_of_mem _ hw)
  · rintro ⟨hv, hs, hnodup, hfresh, hsound⟩
    have hvs : ∀ w ∈ vs, w.name ∉ taken ∧ w.name ≠ v.name := fun w hw => by
      simpa using hfresh w hw
    refine ⟨?_, ?_, ?_⟩
    · rw [List.map_cons, List.nodup_cons]
      refine ⟨fun h => ?_, hnodup⟩
      obtain ⟨w, hw, hwv⟩ := List.mem_map.mp h
      exact (hvs w hw).2 hwv
    · exact List.forall_mem_cons.mpr ⟨hv, fun w hw => (hvs w hw).1⟩
    · exact List.forall_mem_cons.mpr ⟨hs, hsound⟩

theorem not_offends_iff : (∀ other, ¬ v.Offends taken other) ↔ v.name ∉ taken ∧ v.Sound := by
  rw [← not_exists, View.exists_offends_iff, not_or, not_not]

/-- A batch can be taken exactly when no view of it offends. -/
theorem acceptable_iff_not_offendsAt : ∀ {views : List View} {taken : List String},
    Acceptable taken views ↔ ∀ i err, ¬ OffendsAt taken views i err
  | [], _ => by simp [acceptable_nil, OffendsAt]
  | v :: vs, taken => by
    rw [acceptable_cons, acceptable_iff_not_offendsAt, ← and_assoc, ← not_offends_iff]
    constructor
    · rintro ⟨hv, hvs⟩ i err hoff
      cases i with
      | zero => exact hv err (offendsAt_zero.mp hoff)
      | succ i => exact hvs i err (offendsAt_succ.mp hoff)
    · intro h
      constructor
      · intro err hoff
        exact h 0 err (offendsAt_zero.mpr hoff)
      · intro i err hoff
        exact h (i + 1) err (offendsAt_succ.mpr hoff)

end Batch

/-! ### The check of the exporting backend -/

/-- What a sound view is accepted with. -/
def View.entry (v : View) : String × Target := (v.name, v.instrument.kind.target)

/-- What is kept of a sound view. -/
def View.registered (v : View) : Registered := ⟨v.instrument.kind.target, v.aggregation.bounds?⟩

namespace Exporter

variable {registered : Table String Registered} {accepted : List (String × Target)}
  {v : View} {vs : List View}

/-- The names that are taken when some views of a batch are accepted. -/
def taken (registered : Table String Registered) (accepted : List (String × Target)) :
    List String :=
  registered.keys ++ accepted.map Prod.fst

theorem isTaken_iff :
    (registered.contains v.name || accepted.any fun a => a.1 == v.name) = true ↔
      v.name ∈ taken registered accepted := by
  rw [Bool.or_eq_true, Table.contains_iff, taken, List.mem_append]
  simp

theorem accept_of_mem (h : v.name ∈ taken registered accepted) :
    accept registered accepted (v :: vs) = .error (.duplicateView v.name) := by
  rw [accept, if_pos (isTaken_iff.mpr h)]

theorem accept_of_fault {fault : AggregationFault} (h : v.name ∉ taken registered accepted)
    (ht : v.target = .error fault) :
    accept registered accepted (v :: vs) = .error (.invalidAggregation v.name fault.reason) := by
  rw [accept, if_neg (mt isTaken_iff.mp h), ht]

theorem accept_of_sound (h : v.name ∉ taken registered accepted)
    (ht : v.target = .ok v.instrument.kind.target) :
    accept registered accepted (v :: vs) = accept registered (accepted ++ [v.entry]) vs := by
  rw [accept, if_neg (mt isTaken_iff.mp h), ht]
  rfl

theorem taken_append_entry :
    taken registered (accepted ++ [v.entry]) = taken registered accepted ++ [v.name] := by
  simp [taken, View.entry]

/-- The check finds the first offence, or accepts each view with the target
of its kind. -/
theorem accept_cases (registered : Table String Registered) :
    ∀ (views : List View) (accepted : List (String × Target)),
    (∃ i err, FirstOffence (taken registered accepted) views i err ∧
      accept registered accepted views = .error err) ∨
    (Acceptable (taken registered accepted) views ∧
      accept registered accepted views = .ok (accepted ++ views.map View.entry))
  | [], accepted => Or.inr ⟨acceptable_nil, by simp [accept]⟩
  | v :: vs, accepted => by
    by_cases hmem : v.name ∈ taken registered accepted
    · exact Or.inl ⟨0, _, .zero (.duplicate hmem), accept_of_mem hmem⟩
    rcases v.targetDecided with ⟨hs, ht⟩ | ⟨-, fault, ht, hoff⟩
    · have hv : ∀ other, ¬ v.Offends (taken registered accepted) other :=
        not_offends_iff.mpr ⟨hmem, hs⟩
      rw [accept_of_sound hmem ht]
      rcases accept_cases registered vs (accepted ++ [v.entry]) with
        ⟨i, err, hfirst, heq⟩ | ⟨hacc, heq⟩
      · rw [taken_append_entry] at hfirst
        exact Or.inl ⟨i + 1, err, hfirst.succ hv, heq⟩
      · rw [taken_append_entry] at hacc
        refine Or.inr ⟨acceptable_cons.mpr ⟨hmem, hs, hacc⟩, ?_⟩
        rw [heq, List.append_assoc]
        rfl
    · exact Or.inl ⟨0, _, .zero (hoff _ hmem), accept_of_fault hmem ht⟩

/-! ### The views that are kept -/

/-- The names and the targets of a batch line up with its views, so that each
view is kept as it is. -/
theorem foldl_keep_zip : ∀ (views : List View) (registered : Table String Registered),
    (views.zip (views.map View.entry)).foldl keep registered =
      views.foldl (fun t v => t.put v.name v.registered) registered
  | [], _ => rfl
  | v :: vs, registered => foldl_keep_zip vs (registered.put v.name v.registered)

/-- The backend with the views of a batch added. -/
def addAll (e : Exporter) (views : List View) : Exporter :=
  ⟨views.foldl (fun t v => t.put v.name v.registered) e.registered⟩

theorem addAll_cons (e : Exporter) (v : View) (vs : List View) :
    e.addAll (v :: vs) = addAll ⟨e.registered.put v.name v.registered⟩ vs := rfl

theorem get?_addAll_of_notMem : ∀ {views : List View} {e : Exporter} {name : String},
    name ∉ views.map View.name → (e.addAll views).registered.get? name = e.registered.get? name
  | [], _, _, _ => rfl
  | v :: vs, e, name, h => by
    rw [List.map_cons, List.mem_cons, not_or] at h
    rw [addAll_cons, get?_addAll_of_notMem h.2, Table.get?_put, if_neg h.1]

theorem get?_addAll_of_mem : ∀ {views : List View} (e : Exporter) {v : View},
    (views.map View.name).Nodup → v ∈ views →
      (e.addAll views).registered.get? v.name = some v.registered
  | w :: vs, e, v, hnodup, hv => by
    rw [List.map_cons, List.nodup_cons] at hnodup
    rw [addAll_cons]
    rcases List.mem_cons.mp hv with rfl | hv
    · rw [get?_addAll_of_notMem hnodup.1, Table.get?_put_self]
    · exact get?_addAll_of_mem _ hnodup.2 hv

theorem keys_addAll : ∀ {views : List View} {e : Exporter}, Acceptable e.registered.keys views →
    (e.addAll views).registered.keys = e.registered.keys ++ views.map View.name
  | [], e, _ => (List.append_nil _).symm
  | v :: vs, e, h => by
    obtain ⟨hv, -, hvs⟩ := acceptable_cons.mp h
    have hkeys := Table.keys_put_of_notMem v.registered hv
    rw [addAll_cons, keys_addAll (by rw [hkeys]; exact hvs), hkeys, List.append_assoc]
    rfl

/-- A batch is refused for its first offence, or taken whole. -/
theorem register_cases (e : Exporter) (views : List View) :
    (∃ i err, FirstOffence e.registered.keys views i err ∧ e.register views = .error err) ∨
    (Acceptable e.registered.keys views ∧
      e.register views = .ok (e.addAll views, views.map View.describe)) := by
  have htaken : taken e.registered [] = e.registered.keys := List.append_nil _
  rcases accept_cases e.registered views [] with ⟨i, err, hfirst, heq⟩ | ⟨hacc, heq⟩
  · rw [htaken] at hfirst
    exact Or.inl ⟨i, err, hfirst, by rw [register, heq]⟩
  · rw [htaken] at hacc
    refine Or.inr ⟨hacc, ?_⟩
    rw [register, heq, List.nil_append]
    simp only [foldl_keep_zip, addAll]

/-- A batch that can be taken is taken. -/
theorem register_of_acceptable {e : Exporter} {views : List View}
    (h : Acceptable e.registered.keys views) :
    (Backend.exporter e).register views = (none, .exporter (e.addAll views),
      ⟨views.map View.describe,
        [⟨.debug, s!"[SVCMON] Described {views.length} views on the metrics recorder"⟩]⟩) := by
  rcases e.register_cases views with ⟨i, err, hfirst, -⟩ | ⟨-, heq⟩
  · exact absurd hfirst.1 (acceptable_iff_not_offendsAt.mp h i err)
  · rw [Backend.register]
    simp only [heq]

theorem boundsOf_eq {e : Exporter} {name : String} {r : Registered}
    (h : e.registered.get? name = some r) : e.boundsOf name = r.bounds? := by
  rw [boundsOf, h]
  rfl

end Exporter

theorem Aggregation.bounds?_eq_some_iff {a : Aggregation} {bounds : List Binary64} :
    a.bounds? = some bounds ↔ a = .distribution bounds := by
  cases a <;> simp [Aggregation.bounds?]

/-- A new backend has no bounds. -/
theorem Exporter.boundsOf_new (name : String) (bounds : List Binary64) :
    boundsOf {} name = some bounds ↔
      ∃ v ∈ ([] : List View), v.name = name ∧ v.aggregation = .distribution bounds := by
  have hnone : boundsOf {} name = none := rfl
  simp [hnone]

/-- If the bounds are those of some views, then with views of other names added they
are those of all these views. -/
theorem Exporter.boundsOf_addAll_eq_some_iff {e : Exporter} {held views : List View}
    (hheld : ∀ name bounds, e.boundsOf name = some bounds ↔
      ∃ v ∈ held, v.name = name ∧ v.aggregation = .distribution bounds)
    (hnodup : (views.map View.name).Nodup) (hfresh : ∀ v ∈ views, v.name ∉ held.map View.name)
    (name : String) (bounds : List Binary64) :
    (e.addAll views).boundsOf name = some bounds ↔
      ∃ v ∈ held ++ views, v.name = name ∧ v.aggregation = .distribution bounds := by
  by_cases hmem : name ∈ views.map View.name
  · obtain ⟨v, hv, rfl⟩ := List.mem_map.mp hmem
    rw [boundsOf_eq (get?_addAll_of_mem e hnodup hv)]
    refine Aggregation.bounds?_eq_some_iff.trans ⟨fun h => ?_, ?_⟩
    · exact ⟨v, List.mem_append_right _ hv, rfl, h⟩
    · rintro ⟨w, hw, hname, h⟩
      rcases List.mem_append.mp hw with hold | hnew
      · exact absurd (hname ▸ List.mem_map_of_mem hold) (hfresh v hv)
      · rw [← List.inj_on_of_nodup_map hnodup hnew hv hname]
        exact h
  · have hsame : (e.addAll views).boundsOf name = e.boundsOf name := by
      rw [boundsOf, get?_addAll_of_notMem hmem]
      rfl
    rw [hsame, hheld]
    refine exists_congr fun v => and_congr_left fun h => ?_
    rw [List.mem_append, or_iff_left]
    rintro hv
    exact hmem (h.1 ▸ List.mem_map_of_mem hv)

/-- The bounds of a sound view are those of its distribution, and only a
histogram has any. -/
theorem View.Sound.bounds?_eq {v : View} (h : v.Sound) :
    (v.instrument.kind = .histogram →
      ∃ bounds, v.aggregation = .distribution bounds ∧ v.aggregation.bounds? = some bounds) ∧
    (v.instrument.kind ≠ .histogram → v.aggregation.bounds? = none) := by
  have hfits := h.fits
  cases hkind : v.instrument.kind <;> cases hagg : v.aggregation <;>
    simp_all [Kind.Fits, Aggregation.bounds?]

/-- **A batch is decided by its first offending view, and is all or nothing.**
A refusal carries the error of that view and leaves no trace. Otherwise each
metric is described once, in order, every old entry stays, and exactly the
views of the batch are added. -/
theorem Backend.register_decided_by_first_offence (e : Exporter) (views : List View) :
    (∃ i err, FirstOffence e.registered.keys views i err ∧
      (Backend.exporter e).register views = (some err, .exporter e, .none)) ∨
    ((∀ i err, ¬ OffendsAt e.registered.keys views i err) ∧ ∃ e' : Exporter,
      (Backend.exporter e).register views = (none, .exporter e',
        { updates := views.map fun v =>
            .describe v.instrument.kind v.instrument.name v.instrument.measure
              v.instrument.description
          logs := [⟨.debug,
            s!"[SVCMON] Described {views.length} views on the metrics recorder"⟩] }) ∧
      e'.registered.keys = e.registered.keys ++ views.map View.name ∧
      (∀ name r, e.registered.get? name = some r → e'.registered.get? name = some r) ∧
      ∀ v ∈ views,
        e'.registered.get? v.name = some ⟨v.instrument.kind.target, v.aggregation.bounds?⟩ ∧
        (v.instrument.kind = .histogram →
          ∃ bounds, v.aggregation = .distribution bounds ∧ e'.boundsOf v.name = some bounds) ∧
        (v.instrument.kind ≠ .histogram → e'.boundsOf v.name = none)) := by
  rcases e.register_cases views with ⟨i, err, hfirst, heq⟩ | ⟨hacc, heq⟩
  · exact Or.inl ⟨i, err, hfirst, by rw [register]; simp only [heq]⟩
  refine Or.inr ⟨acceptable_iff_not_offendsAt.mp hacc, e.addAll views, ?_,
    Exporter.keys_addAll hacc, fun name r hr => ?_, fun v hv => ?_⟩
  · rw [register]
    simp only [heq]
    rfl
  · have hmem : name ∈ e.registered.keys := Table.contains_iff.mp (by rw [Table.contains, hr]; rfl)
    have hnot : name ∉ views.map View.name := fun h => by
      obtain ⟨v, hv, rfl⟩ := List.mem_map.mp h
      exact hacc.fresh v hv hmem
    rw [Exporter.get?_addAll_of_notMem hnot, hr]
  · have hget := Exporter.get?_addAll_of_mem e hacc.nodup hv
    rw [Exporter.boundsOf_eq hget]
    exact ⟨hget, (hacc.sound v hv).bounds?_eq⟩

end Telemetry
