/-
# Batches joined, divided and reordered

A name is taken, for a view of a batch, by a registered view or by one before
it in the batch, and these are looked for in two places. Why a batch is refused
depends on the taken names as a whole (`View.firstRefusal?`), so it does not
matter in which of the two places a name is found: a batch is refused, if at
all, as its parts would be that are registered one after the other
(`Exporter.register_append`). Whether a batch can be taken depends on the set of
its views alone, and so do the names and bounds that are held afterwards
(`Exporter.sameHoldings_addAll_of_perm`).

Key definitions: `View.refusal?`, `View.firstRefusal?`, `Exporter.SameHoldings`.
Key theorems: `View.firstRefusal?_append`, `Exporter.register_eq`,
`Exporter.register_append`, `Acceptable.perm`, `Backend.refusal_register_append`,
`Backend.batching_is_immaterial`.
-/
import Mathlib
import Telemetry.Proofs.Offences

namespace Telemetry

/-! ### Why a batch is refused -/

namespace View

/-- Why a view is refused when the given names are taken. -/
def refusal? (taken : List String) (v : View) : Option RegistrationError :=
  if v.name ∈ taken then some (.duplicateView v.name)
  else
    match v.target with
    | .error fault => some (.invalidAggregation v.name fault.reason)
    | .ok _ => none

/-- Why a batch is refused: as its first view that is, where the names of those
before it are taken too. -/
def firstRefusal? (taken : List String) : List View → Option RegistrationError
  | [] => none
  | v :: vs => (v.refusal? taken).or (firstRefusal? (taken ++ [v.name]) vs)

theorem refusal?_of_mem {taken : List String} {v : View} (h : v.name ∈ taken) :
    v.refusal? taken = some (.duplicateView v.name) := if_pos h

theorem refusal?_of_fault {taken : List String} {v : View} {fault : AggregationFault}
    (h : v.name ∉ taken) (ht : v.target = .error fault) :
    v.refusal? taken = some (.invalidAggregation v.name fault.reason) := by
  rw [refusal?, if_neg h, ht]

theorem refusal?_of_sound {taken : List String} {v : View} (h : v.name ∉ taken)
    (ht : v.target = .ok v.instrument.kind.target) : v.refusal? taken = none := by
  rw [refusal?, if_neg h, ht]

theorem refusal?_eq_none_iff {taken : List String} {v : View} :
    v.refusal? taken = none ↔ v.name ∉ taken ∧ v.Sound := by
  by_cases hmem : v.name ∈ taken
  · simp [refusal?_of_mem hmem, hmem]
  · rcases v.targetDecided with ⟨hs, ht⟩ | ⟨hs, fault, ht, -⟩
    · simp [refusal?_of_sound hmem ht, hmem, hs]
    · simp [refusal?_of_fault hmem ht, hs]

/-- No view of the batch is refused exactly when the batch can be taken. -/
theorem firstRefusal?_eq_none_iff : ∀ {views : List View} {taken : List String},
    firstRefusal? taken views = none ↔ Acceptable taken views
  | [], _ => by simp [firstRefusal?, acceptable_nil]
  | v :: vs, taken => by
    rw [firstRefusal?, Option.or_eq_none_iff, refusal?_eq_none_iff, firstRefusal?_eq_none_iff,
      acceptable_cons, and_assoc]

/-- The second part of a batch is looked at with the names of the first taken. -/
theorem firstRefusal?_append : ∀ (xs ys : List View) (taken : List String),
    firstRefusal? taken (xs ++ ys) =
      (firstRefusal? taken xs).or (firstRefusal? (taken ++ xs.map View.name) ys)
  | [], ys, taken => by simp [firstRefusal?]
  | v :: xs, ys, taken => by
    have ih := firstRefusal?_append xs ys (taken ++ [v.name])
    rw [List.append_assoc, List.singleton_append] at ih
    rw [List.cons_append, firstRefusal?, ih, firstRefusal?, Option.or_assoc, List.map_cons]

end View

namespace Exporter

/-- The check of a batch, by why the batch is refused. -/
theorem accept_eq (registered : Table String Registered) :
    ∀ (views : List View) (accepted : List (String × Target)),
    accept registered accepted views =
      match View.firstRefusal? (taken registered accepted) views with
      | some err => .error err
      | none => .ok (accepted ++ views.map View.entry)
  | [], accepted => by simp [accept, View.firstRefusal?]
  | v :: vs, accepted => by
    rw [View.firstRefusal?]
    by_cases hmem : v.name ∈ taken registered accepted
    · rw [accept_of_mem hmem, View.refusal?_of_mem hmem]
      rfl
    rcases v.targetDecided with ⟨-, ht⟩ | ⟨-, fault, ht, -⟩
    · rw [accept_of_sound hmem ht, View.refusal?_of_sound hmem ht, Option.none_or,
        accept_eq registered vs, taken_append_entry, List.append_assoc]
      rfl
    · rw [accept_of_fault hmem ht, View.refusal?_of_fault hmem ht]
      rfl

/-- A batch is taken unless there is a reason to refuse it. -/
theorem register_eq (e : Exporter) (views : List View) :
    e.register views =
      match View.firstRefusal? e.registered.keys views with
      | some err => .error err
      | none => .ok (e.addAll views, views.map View.describe) := by
  have htaken : taken e.registered [] = e.registered.keys := List.append_nil _
  rw [register, accept_eq, htaken]
  cases View.firstRefusal? e.registered.keys views with
  | some err => rfl
  | none => simp only [List.nil_append, foldl_keep_zip, addAll]

theorem addAll_append (e : Exporter) (xs ys : List View) :
    e.addAll (xs ++ ys) = (e.addAll xs).addAll ys := by
  simp only [addAll, List.foldl_append]

/-- A joined batch is registered as its two parts are, one after the other: the
first refusal stands, and otherwise the backend and the descriptions are the
same. -/
theorem register_append (e : Exporter) (xs ys : List View) :
    e.register (xs ++ ys) = e.register xs >>= fun r =>
      (r.1.register ys).map fun s => (s.1, r.2 ++ s.2) := by
  rw [register_eq e (xs ++ ys), register_eq e xs, View.firstRefusal?_append]
  cases hxs : View.firstRefusal? e.registered.keys xs with
  | some err => rfl
  | none =>
    have hkeys := keys_addAll (View.firstRefusal?_eq_none_iff.mp hxs)
    show _ = ((e.addAll xs).register ys).map fun s => (s.1, xs.map View.describe ++ s.2)
    rw [Option.none_or, register_eq, hkeys]
    cases View.firstRefusal? (e.registered.keys ++ xs.map View.name) ys with
    | some err => rfl
    | none =>
      rw [addAll_append, List.map_append]
      rfl

theorem register_append_of_ok {e middle last : Exporter} {xs ys : List View}
    {updates updates' : List Update} (hxs : e.register xs = .ok (middle, updates))
    (hys : middle.register ys = .ok (last, updates')) :
    e.register (xs ++ ys) = .ok (last, updates ++ updates') := by
  rw [register_append, hxs]
  show (middle.register ys).map _ = _
  rw [hys]
  rfl

end Exporter

/-! ### The order of a batch -/

theorem Acceptable.perm {taken : List String} {xs zs : List View} (h : Acceptable taken xs)
    (hp : zs.Perm xs) : Acceptable taken zs where
  nodup := ((hp.map View.name).nodup_iff).mpr h.nodup
  fresh := fun v hv => h.fresh v (hp.mem_iff.mp hv)
  sound := fun v hv => h.sound v (hp.mem_iff.mp hv)

namespace Exporter

/-- Two backends that show the same names and bounds. -/
structure SameHoldings (e e' : Exporter) : Prop where
  names : e.viewNames = e'.viewNames
  bounds : ∀ name, e.boundsOf name = e'.boundsOf name

theorem SameHoldings.refl (e : Exporter) : e.SameHoldings e := ⟨rfl, fun _ => rfl⟩

theorem pairwise_viewNames (e : Exporter) : e.viewNames.Pairwise (· ≤ ·) :=
  List.pairwise_mergeSort' _ _

theorem viewNames_perm (e : Exporter) : e.viewNames.Perm e.registered.keys :=
  List.mergeSort_perm _ _

/-- Names in order do not show in which order they were registered. -/
theorem viewNames_eq_of_perm {e e' : Exporter} (h : e.registered.keys.Perm e'.registered.keys) :
    e.viewNames = e'.viewNames :=
  ((e.viewNames_perm.trans h).trans e'.viewNames_perm.symm).eq_of_pairwise'
    e.pairwise_viewNames e'.pairwise_viewNames

/-- The views of a batch are held alike in whichever order they are added. -/
theorem sameHoldings_addAll_of_perm {e : Exporter} {xs zs : List View}
    (h : Acceptable e.registered.keys xs) (hp : zs.Perm xs) :
    (e.addAll zs).SameHoldings (e.addAll xs) := by
  have hz : Acceptable e.registered.keys zs := h.perm hp
  have hnames : (zs.map View.name).Perm (xs.map View.name) := hp.map View.name
  have hget : ∀ name, (e.addAll zs).registered.get? name = (e.addAll xs).registered.get? name := by
    intro name
    by_cases hmem : name ∈ zs.map View.name
    · obtain ⟨v, hv, rfl⟩ := List.mem_map.mp hmem
      rw [get?_addAll_of_mem e hz.nodup hv, get?_addAll_of_mem e h.nodup (hp.mem_iff.mp hv)]
    · rw [get?_addAll_of_notMem hmem, get?_addAll_of_notMem (mt hnames.mem_iff.mpr hmem)]
  constructor
  · apply viewNames_eq_of_perm
    rw [keys_addAll hz, keys_addAll h]
    exact hnames.append_left _
  · intro name
    rw [boundsOf, boundsOf, hget]

/-- A batch in another order is refused, or taken, as the batch is. -/
theorem register_of_perm (e : Exporter) {xs zs : List View} (hp : zs.Perm xs) :
    (∃ err err', e.register zs = .error err ∧ e.register xs = .error err') ∨
    ∃ e₁ e₂ updates updates', e.register zs = .ok (e₁, updates) ∧
      e.register xs = .ok (e₂, updates') ∧ e₁.SameHoldings e₂ := by
  rw [register_eq, register_eq]
  cases hxs : View.firstRefusal? e.registered.keys xs with
  | none =>
    have hacc := View.firstRefusal?_eq_none_iff.mp hxs
    rw [View.firstRefusal?_eq_none_iff.mpr (hacc.perm hp)]
    exact Or.inr ⟨_, _, _, _, rfl, rfl, sameHoldings_addAll_of_perm hacc hp⟩
  | some err =>
    cases hzs : View.firstRefusal? e.registered.keys zs with
    | some err' => exact Or.inl ⟨_, _, rfl, rfl⟩
    | none =>
      have hacc := (View.firstRefusal?_eq_none_iff.mp hzs).perm hp.symm
      rw [View.firstRefusal?_eq_none_iff.mpr hacc] at hxs
      cases hxs

end Exporter

/-! ### The answers of the backend -/

namespace Backend

theorem register_of_error {e : Exporter} {views : List View} {err : RegistrationError}
    (h : e.register views = .error err) :
    (Backend.exporter e).register views = (some err, .exporter e, .none) := by
  rw [register]
  simp only [h]

theorem register_of_ok {e e' : Exporter} {views : List View} {updates : List Update}
    (h : e.register views = .ok (e', updates)) :
    (Backend.exporter e).register views = (none, .exporter e', ⟨updates,
      [⟨.debug, s!"[SVCMON] Described {views.length} views on the metrics recorder"⟩]⟩) := by
  rw [register]
  simp only [h]

theorem exists_of_register_eq_none {e : Exporter} {views : List View}
    (h : ((Backend.exporter e).register views).1 = none) :
    ∃ e' updates, e.register views = .ok (e', updates) := by
  cases hviews : e.register views with
  | error err =>
    rw [register_of_error hviews] at h
    cases h
  | ok r => exact ⟨r.1, r.2, rfl⟩

/-- What refuses a joined batch is what refuses its first part, or else its
second. -/
theorem refusal_register_append (e : Exporter) (xs ys : List View) :
    ((Backend.exporter e).register (xs ++ ys)).1 =
      ((Backend.exporter e).register xs).1.or
        (((Backend.exporter e).register xs).2.1.register ys).1 := by
  cases hxs : e.register xs with
  | error err =>
    have hjoined : e.register (xs ++ ys) = .error err := by
      rw [e.register_append, hxs]
      rfl
    rw [register_of_error hxs, register_of_error hjoined]
    rfl
  | ok r =>
    obtain ⟨middle, updates⟩ := r
    rw [register_of_ok hxs, Option.none_or]
    cases hys : middle.register ys with
    | error err =>
      have hjoined : e.register (xs ++ ys) = .error err := by
        rw [e.register_append, hxs]
        show (middle.register ys).map _ = _
        rw [hys]
        rfl
      rw [register_of_error hjoined, register_of_error hys]
    | ok s => rw [register_of_ok (e.register_append_of_ok hxs hys), register_of_ok hys]

/-- **How views are put into batches does not matter.** A joined batch is taken
exactly when its two parts are, registered one after the other, and then leaves
the same backend and has described the same metrics in the same order; the error
that refuses it is that of the first part that is refused. A batch in another
order is taken exactly when the batch is, and the same names and bounds are held
afterwards. -/
theorem batching_is_immaterial (e : Exporter) (xs ys : List View) :
    let joined := (Backend.exporter e).register (xs ++ ys)
    let first := (Backend.exporter e).register xs
    let second := first.2.1.register ys
    (joined.1 = none ↔ first.1 = none ∧ second.1 = none) ∧
    (joined.1 = none → ∃ e' : Exporter, joined.2.1 = .exporter e' ∧ second.2.1 = .exporter e' ∧
      joined.2.2.updates = first.2.2.updates ++ second.2.2.updates) ∧
    (joined.1 ≠ none → joined.1 = if first.1 = none then second.1 else first.1) ∧
    ∀ zs : List View, zs.Perm xs →
      let reordered := (Backend.exporter e).register zs
      (reordered.1 = none ↔ first.1 = none) ∧
      ∃ e₁ e₂ : Exporter, reordered.2.1 = .exporter e₁ ∧ first.2.1 = .exporter e₂ ∧
        e₁.SameHoldings e₂ := by
  intro joined first second
  have hrefusal : joined.1 = first.1.or second.1 := refusal_register_append e xs ys
  have hnone : joined.1 = none ↔ first.1 = none ∧ second.1 = none := by
    rw [hrefusal, Option.or_eq_none_iff]
  refine ⟨hnone, fun htaken => ?_, fun _ => ?_, fun zs hp => ?_⟩
  · obtain ⟨hfirst, hsecond⟩ := hnone.mp htaken
    obtain ⟨middle, updates, hxs⟩ := exists_of_register_eq_none hfirst
    have hmiddle : first = _ := register_of_ok hxs
    have hthen : second = (Backend.exporter middle).register ys := by
      show first.2.1.register ys = _
      rw [hmiddle]
    rw [hthen] at hsecond
    obtain ⟨last, updates', hys⟩ := exists_of_register_eq_none hsecond
    have hlast : second = _ := hthen.trans (register_of_ok hys)
    have hjoined : joined = _ := register_of_ok (e.register_append_of_ok hxs hys)
    rw [hjoined, hmiddle, hlast]
    exact ⟨last, rfl, rfl, rfl⟩
  · rw [hrefusal]
    by_cases hfirst : first.1 = none
    · rw [if_pos hfirst, hfirst, Option.none_or]
    · rw [if_neg hfirst]
      exact Option.or_of_isSome (Option.isSome_iff_ne_none.mpr hfirst)
  · rcases e.register_of_perm hp with ⟨err, err', hzs, hxs⟩ | ⟨e₁, e₂, _, _, hzs, hxs, hsame⟩
    · have hfirst : first = _ := register_of_error hxs
      rw [register_of_error hzs, hfirst]
      exact ⟨by simp, e, e, rfl, rfl, .refl e⟩
    · have hfirst : first = _ := register_of_ok hxs
      rw [register_of_ok hzs, hfirst]
      exact ⟨by simp, e₁, e₂, rfl, rfl, hsame⟩

/-- Two views and then the first of them again: joined they are refused as the
second of the two batches is. The two views are taken in either order. -/
theorem batching_is_immaterial_for_repeated_view :
    let loaded := Instrument.componentLoaded.view []
    let timers := Instrument.timers.view []
    let first := (Backend.exporter {}).register [loaded, timers]
    let reordered := (Backend.exporter {}).register [timers, loaded]
    ((Backend.exporter {}).register ([loaded, timers] ++ [loaded])).1 =
        some (.duplicateView "runtime/component/loaded") ∧
      first.1 = none ∧ (first.2.1.register [loaded]).1 ≠ none ∧
      [timers, loaded].Perm [loaded, timers] ∧ reordered.1 = none ∧
      ∃ e₁ e₂ : Exporter, reordered.2.1 = .exporter e₁ ∧ first.2.1 = .exporter e₂ ∧
        e₁.SameHoldings e₂ := by
  intro loaded timers first reordered
  obtain ⟨hboth, -, hrefused, hperm⟩ := batching_is_immaterial {} [loaded, timers] [loaded]
  have hfirst : first.1 = none := by decide +kernel
  have hsecond : (first.2.1.register [loaded]).1 =
      some (.duplicateView "runtime/component/loaded") := by decide +kernel
  have hne : (first.2.1.register [loaded]).1 ≠ none := by
    rw [hsecond]
    exact Option.some_ne_none _
  have hjoined : ((Backend.exporter {}).register ([loaded, timers] ++ [loaded])).1 =
      some (.duplicateView "runtime/component/loaded") := by
    rw [hrefused fun hnone => hne (hboth.mp hnone).2, if_pos hfirst, hsecond]
  obtain ⟨hiff, hsame⟩ := hperm [timers, loaded] (.swap ..)
  exact ⟨hjoined, hfirst, hne, .swap .., hiff.mpr hfirst, hsame⟩

end Backend

end Telemetry
