/-
# The capturing backend stands in for the exporting one

A capturing backend looks for duplicates in a list of views, an exporting one in
a table of names and among the views before, and only the latter looks at
aggregations. On batches that are well formed the difference does not show:
either refuses a batch for its first view whose name is held
(`WellFormed.firstRefusal?_eq`), and they hold the same names with the same
bounds (`Alike`). One batch keeps them so (`Alike.register`), and so do any
number of batches, some of which are refused (`Alike.registerAll`).

Key definitions: `WellFormed`, `View.firstHeld?`, `Alike`, `Backend.registerAll`.
Key theorems: `WellFormed.firstRefusal?_eq`, `Alike.register`, `Alike.registerAll`,
`Backend.capture_stands_in`.
-/
import Mathlib
import Telemetry.Proofs.Batching

namespace Telemetry

/-- A batch in which each name stands once and every aggregation goes with its
kind and can be used. -/
structure WellFormed (views : List View) : Prop where
  nodup : (views.map View.name).Nodup
  sound : ∀ v ∈ views, v.Sound

/-- The refusal of the first view whose name is held. -/
def View.firstHeld? (held : List String) (views : List View) : Option RegistrationError :=
  (views.find? fun v => v.name ∈ held).map fun v => .duplicateView v.name

theorem View.firstHeld?_congr {held held' : List String} (h : ∀ name, name ∈ held ↔ name ∈ held')
    (views : List View) : View.firstHeld? held views = View.firstHeld? held' views := by
  simp only [firstHeld?, h]

namespace WellFormed

theorem tail {v : View} {vs : List View} (h : WellFormed (v :: vs)) : WellFormed vs :=
  ⟨(List.nodup_cons.mp h.nodup).2, fun w hw => h.sound w (List.mem_cons_of_mem _ hw)⟩

theorem name_ne {v w : View} {vs : List View} (h : WellFormed (v :: vs)) (hw : w ∈ vs) :
    w.name ≠ v.name := by
  intro heq
  have hnot : v.name ∉ vs.map View.name := (List.nodup_cons.mp h.nodup).1
  rw [← heq] at hnot
  exact hnot (List.mem_map_of_mem hw)

/-- All that a well-formed batch can be refused for is a name that is held. -/
theorem firstRefusal?_eq : ∀ {views : List View}, WellFormed views → ∀ taken : List String,
    View.firstRefusal? taken views = View.firstHeld? taken views
  | [], _, _ => rfl
  | v :: vs, h, taken => by
    rw [View.firstRefusal?, View.firstHeld?]
    by_cases hmem : v.name ∈ taken
    · rw [View.refusal?_of_mem hmem, List.find?_cons_of_pos (by simpa using hmem)]
      rfl
    · have hnone : v.refusal? taken = none :=
        View.refusal?_eq_none_iff.mpr ⟨hmem, h.sound v (List.mem_cons_self ..)⟩
      -- no later view has the name of this one
      have hsame : ∀ w ∈ vs, decide (w.name ∈ taken ++ [v.name]) = decide (w.name ∈ taken) := by
        intro w hw
        simp [h.name_ne hw]
      rw [hnone, Option.none_or, firstRefusal?_eq h.tail, View.firstHeld?,
        List.find?_congr hsame, List.find?_cons_of_neg (by simpa using hmem)]

end WellFormed

/-! ### Backends that hold the same -/

/-- A capturing backend, on which no refusal awaits, and an exporting one hold
the same names, each once, with the same bounds. -/
structure Alike (c : Capture) (e : Exporter) : Prop where
  ready : c.refusal? = none
  nodup : (c.views.map View.name).Nodup
  names : e.viewNames.Perm (c.views.map View.name)
  bounds : ∀ name bounds, e.boundsOf name = some bounds ↔
    ∃ v ∈ c.views, v.name = name ∧ v.aggregation = .distribution bounds

theorem alike_new : Alike {} {} where
  ready := rfl
  nodup := List.nodup_nil
  names := (Exporter.viewNames_perm {}).trans (.refl [])
  bounds := Exporter.boundsOf_new

section Step

variable {c : Capture} {e : Exporter} {views : List View}

theorem Alike.duplicate?_eq (h : Alike c e) (views : List View) :
    (c.duplicate? views).map (fun v => RegistrationError.duplicateView v.name) =
      View.firstHeld? e.viewNames views := by
  have hholds : ∀ v : View, c.holds v.name = decide (v.name ∈ e.viewNames) := by
    intro v
    rw [Bool.eq_iff_iff, decide_eq_true_iff, h.names.mem_iff]
    simp [Capture.holds]
  simp only [Capture.duplicate?, View.firstHeld?, hholds]

theorem View.firstHeld?_viewNames (e : Exporter) (views : List View) :
    View.firstHeld? e.viewNames views = View.firstHeld? e.registered.keys views :=
  View.firstHeld?_congr (fun _ => e.viewNames_perm.mem_iff) views

/-- Two backends that hold the same do so after both have taken a batch. -/
theorem Alike.addAll (h : Alike c e) (hacc : Acceptable e.registered.keys views) (n : ℕ) :
    Alike { c with views := c.views ++ views, registrations := n } (e.addAll views) where
  ready := h.ready
  nodup := by
    rw [List.map_append]
    refine List.Nodup.append h.nodup hacc.nodup fun name hold hnew => ?_
    obtain ⟨v, hv, rfl⟩ := List.mem_map.mp hnew
    exact hacc.fresh v hv (e.viewNames_perm.mem_iff.mp (h.names.mem_iff.mpr hold))
  names := by
    have hkeys := Exporter.keys_addAll hacc
    have hold : e.registered.keys.Perm (c.views.map View.name) :=
      e.viewNames_perm.symm.trans h.names
    refine (e.addAll views).viewNames_perm.trans ?_
    rw [hkeys, List.map_append]
    exact hold.append_right _
  bounds := by
    refine Exporter.boundsOf_addAll_eq_some_iff h.bounds hacc.nodup fun v hv hheld => ?_
    rw [← h.names.mem_iff, e.viewNames_perm.mem_iff] at hheld
    exact hacc.fresh v hv hheld

/-- Both take a well-formed batch, or both refuse it for its first name that is
held, and they hold the same afterwards. -/
theorem Alike.register (h : Alike c e) (hw : WellFormed views) :
    ∃ c' e' traffic traffic', Alike c' e' ∧
      (Backend.capture c).register views =
        (View.firstHeld? e.viewNames views, .capture c', traffic) ∧
      (Backend.exporter e).register views =
        (View.firstHeld? e.viewNames views, .exporter e', traffic') ∧
      (View.firstHeld? e.viewNames views = none → c'.views = c.views ++ views) ∧
      (View.firstHeld? e.viewNames views ≠ none → c'.views = c.views ∧ e' = e) := by
  have hdup := h.duplicate?_eq views
  have hrefusal := hw.firstRefusal?_eq e.registered.keys
  rw [← View.firstHeld?_viewNames] at hrefusal
  cases hheld : View.firstHeld? e.viewNames views with
  | some err =>
    rw [hheld] at hdup hrefusal
    obtain ⟨v, hv, rfl⟩ := Option.map_eq_some_iff.mp hdup
    refine ⟨{ c with registrations := c.registrations + 1 }, e, .none, .none,
      ⟨h.ready, h.nodup, h.names, h.bounds⟩, ?_, ?_, nofun, fun _ => ⟨rfl, rfl⟩⟩
    · simp [Backend.register, Capture.register, h.ready, hv]
    · apply Backend.register_of_error
      rw [Exporter.register_eq, hrefusal]
  | none =>
    rw [hheld] at hdup hrefusal
    have hacc := View.firstRefusal?_eq_none_iff.mp hrefusal
    refine ⟨_, _, .none, _, h.addAll hacc (c.registrations + 1), ?_,
      Exporter.register_of_acceptable hacc, fun _ => rfl, fun hne => absurd rfl hne⟩
    rw [Option.map_eq_none_iff] at hdup
    simp [Backend.register, Capture.register, h.ready, hdup]

end Step

/-! ### Any number of batches -/

/-- The backend after it was given batches in order, whether it took or refused
them. -/
def Backend.registerAll (b : Backend) : List (List View) → Backend
  | [] => b
  | views :: batches => registerAll (b.register views).2.1 batches

theorem Backend.registerAll_append (b : Backend) (batches more : List (List View)) :
    b.registerAll (batches ++ more) = (b.registerAll batches).registerAll more := by
  induction batches generalizing b with
  | nil => rfl
  | cons views batches ih => exact ih _

theorem Alike.registerAll {batches : List (List View)} {c : Capture} {e : Exporter}
    (h : Alike c e) (hb : ∀ views ∈ batches, WellFormed views) :
    ∃ c' e', Alike c' e' ∧ (Backend.capture c).registerAll batches = .capture c' ∧
      (Backend.exporter e).registerAll batches = .exporter e' := by
  induction batches generalizing c e with
  | nil => exact ⟨c, e, h, rfl, rfl⟩
  | cons views batches ih =>
    obtain ⟨hviews, hb⟩ := List.forall_mem_cons.mp hb
    obtain ⟨c₁, e₁, _, _, h₁, hcapture, hexporter, -⟩ := h.register hviews
    rw [Backend.registerAll, Backend.registerAll, hcapture, hexporter]
    exact ih h₁ hb

/-- **The capturing backend stands in for the exporting one.** Both are new and
are given the same well-formed batches, any number of them. Then they hold the
same names with the same bounds. Whatever well-formed batch comes next, either
no name of it is held and both add its views, or both refuse it as a duplicate
of its first name that is held and hold what they held; and they hold the same
again. -/
theorem Backend.capture_stands_in {batches : List (List View)}
    (hb : ∀ views ∈ batches, WellFormed views) {next : List View} (hn : WellFormed next) :
    ∃ c c' e e', (Backend.capture {}).registerAll batches = .capture c ∧
      (Backend.exporter {}).registerAll batches = .exporter e ∧ Alike c e ∧
      ((Backend.capture c).register next).1 = View.firstHeld? e.viewNames next ∧
      ((Backend.exporter e).register next).1 = View.firstHeld? e.viewNames next ∧
      (Backend.capture {}).registerAll (batches ++ [next]) = .capture c' ∧
      (Backend.exporter {}).registerAll (batches ++ [next]) = .exporter e' ∧ Alike c' e' ∧
      (View.firstHeld? e.viewNames next = none → c'.views = c.views ++ next) ∧
      (View.firstHeld? e.viewNames next ≠ none → c'.views = c.views ∧ e' = e) := by
  obtain ⟨c, e, h, hcapture, hexporter⟩ := alike_new.registerAll hb
  obtain ⟨c', e', _, _, h', hcapture', hexporter', hadded, hkept⟩ := h.register hn
  refine ⟨c, c', e, e', hcapture, hexporter, h, ?_, ?_, ?_, ?_, h', hadded, hkept⟩
  · rw [hcapture']
  · rw [hexporter']
  · rw [Backend.registerAll_append, hcapture, registerAll, hcapture', registerAll]
  · rw [Backend.registerAll_append, hexporter, registerAll, hexporter', registerAll]

/-- After a batch that was taken and one that was refused, the latencies have their
bounds. Then comes a third batch, whose second name is held. -/
theorem Backend.capture_stands_in_for_three_batches :
    let views := fun is : List Instrument => is.map fun i => i.view [.ofNat 5]
    let batches := [views [.timers, .responseLatency], views [.responseLatency, .reminders]]
    let next := views [.reminders, .timers]
    (∀ b ∈ batches, WellFormed b) ∧ WellFormed next ∧
    ∃ c c' e e', (Backend.capture {}).registerAll batches = .capture c ∧
      (Backend.exporter {}).registerAll batches = .exporter e ∧ Alike c e ∧
      e.boundsOf Instrument.responseLatency.name = some [.ofNat 5] ∧
      ((Backend.capture c).register next).1 = some (.duplicateView "runtime/actor/timers") ∧
      ((Backend.exporter e).register next).1 = some (.duplicateView "runtime/actor/timers") ∧
      (Backend.capture {}).registerAll (batches ++ [next]) = .capture c' ∧
      (Backend.exporter {}).registerAll (batches ++ [next]) = .exporter e' ∧ Alike c' e' ∧
      c'.views = c.views ∧ e' = e := by
  intro views batches next
  have hgood : GoodBounds [.ofNat 5] :=
    ⟨by simp, by decide +kernel, not_hasDescent_of_length_le_one (by simp)⟩
  have hsound : ∀ is, ∀ v ∈ views is, v.Sound := by
    intro is v hv
    obtain ⟨i, -, rfl⟩ := List.mem_map.mp hv
    exact i.sound_view hgood
  have hb : ∀ b ∈ batches, WellFormed b := by
    intro b hmem
    rcases List.mem_pair.mp hmem with rfl | rfl
    · exact ⟨by decide, hsound _⟩
    · exact ⟨by decide, hsound _⟩
  have hn : WellFormed next := ⟨by decide, hsound _⟩
  obtain ⟨c, c', e, e', hc, he, h, hcn, hen, hc', he', h', -, hkept⟩ := capture_stands_in hb hn
  have hheld : ((Backend.capture c).register next).1 =
      some (.duplicateView "runtime/actor/timers") := by
    rw [← hc]
    decide +kernel
  have hne : View.firstHeld? e.viewNames next ≠ none := by
    rw [← hcn, hheld]
    exact Option.some_ne_none _
  have hviews : c = ⟨views [.timers, .responseLatency], [], 2, none⟩ :=
    Backend.capture.inj (hc.symm.trans (by decide +kernel))
  have hbounds : e.boundsOf Instrument.responseLatency.name = some [.ofNat 5] := by
    refine (h.bounds _ _).mpr ⟨Instrument.responseLatency.view [.ofNat 5], ?_, rfl, rfl⟩
    rw [hviews]
    decide +kernel
  exact ⟨hb, hn, c, c', e, e', hc, he, h, hbounds, hheld, by rw [hen, ← hcn, hheld], hc', he', h',
    hkept hne⟩

end Telemetry
