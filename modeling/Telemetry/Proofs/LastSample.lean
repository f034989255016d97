/-
# What the gauge of pending calls shows when all is quiet

A report reads the new total back in the action that adds the change, and sends
it in a later one. Between the two another worker may add a change of its own
and send the larger total first, so samples need not be sent in the order in
which the changes were added. The gauge then stays behind the total, also when
no report is going on any more (`gauge_stays_behind`).

What the gauge does show is the total as of the report that sent its sample
last. It lacks what was added after that report, and nothing else
(`Monitor.gauge_shows_total_as_of_last_sender`).

Key definitions: `gauge?`, `Workload.isQuiet`, `ShowsTotals`, `LastSent`.
Key theorems: `gauge?_append`, `Workload.Linear.quiet`,
`Workload.Linear.gauge_cases`, `gauge_stays_behind`,
`Monitor.gauge_shows_total_as_of_last_sender`.
-/
import Mathlib
import Telemetry.Proofs.Linearization
import Telemetry.Proofs.RunningTotals

namespace Telemetry

/-! ### The gauge -/

/-- What the gauge of the actor type shows after the samples: the value of the
last one for it. -/
def gauge? (actorType : String) (samples : List Sample) : Option Value :=
  (samples.filterMap (Sample.pendingTotal? actorType)).getLast?

section Gauge

variable {a : String}

theorem gauge?_append (a : String) (xs ys : List Sample) :
    gauge? a (xs ++ ys) = (gauge? a ys).or (gauge? a xs) := by
  rw [gauge?, List.filterMap_append, List.getLast?_append]
  rfl

theorem gauge?_eq_none_iff {samples : List Sample} :
    gauge? a samples = none ↔ ∀ s ∈ samples, s.pendingTotal? a = none := by
  rw [gauge?, List.getLast?_eq_none_iff, List.filterMap_eq_nil_iff]

theorem gauge?_singleton (a : String) (s : Sample) : gauge? a [s] = s.pendingTotal? a := by
  rw [gauge?]
  cases h : s.pendingTotal? a with
  | none => rw [List.filterMap_cons_none h]; rfl
  | some value => rw [List.filterMap_cons_some h]; rfl

theorem Emission.pendingTotal?_sample (appId : String) (x : Emission) :
    (x.sample appId).pendingTotal? a =
      if x.actorType = a then some (.int x.total.toInt64) else none :=
  RuntimeEvent.pendingTotal?_pendingSample appId x.actorType a x.total

/-- The gauge shows the total that was sent last for its actor type. -/
theorem gauge?_of_last (appId : String) {front back : List (ℕ × Emission)} {i : ℕ} {x : Emission}
    (hx : x.actorType = a) (hback : ∀ p ∈ back, p.2.actorType ≠ a) :
    gauge? a ((front ++ (i, x) :: back).map fun p => p.2.sample appId) =
      some (.int x.total.toInt64) := by
  have hlast : gauge? a [x.sample appId] = some (.int x.total.toInt64) := by
    rw [gauge?_singleton, Emission.pendingTotal?_sample, if_pos hx]
  have hrest : gauge? a (back.map fun p => p.2.sample appId) = none := by
    rw [gauge?_eq_none_iff]
    intro s hs
    obtain ⟨p, hp, rfl⟩ := List.mem_map.mp hs
    rw [Emission.pendingTotal?_sample, if_neg (hback p hp)]
  rw [← List.singleton_append, List.map_append, List.map_append, gauge?_append, gauge?_append,
    hrest, List.map_singleton, hlast]
  rfl

end Gauge

/-- The last of the entries that satisfy a condition, if any does. -/
theorem exists_last {α : Type} (P : α → Prop) (xs : List α) :
    (∀ x ∈ xs, ¬ P x) ∨ ∃ front x back, xs = front ++ x :: back ∧ P x ∧ ∀ y ∈ back, ¬ P y := by
  induction xs using List.reverseRecOn with
  | nil => exact Or.inl fun x hx => absurd hx List.not_mem_nil
  | append_singleton xs y ih =>
    by_cases hy : P y
    · exact Or.inr ⟨xs, y, [], rfl, hy, fun z hz => absurd hz List.not_mem_nil⟩
    · rcases ih with hnone | ⟨front, x, back, rfl, hx, hback⟩
      · refine Or.inl fun x hx => ?_
        rcases List.mem_append.mp hx with hx | hx
        · exact hnone x hx
        · rw [List.mem_singleton.mp hx]
          exact hy
      · refine Or.inr ⟨front, x, back ++ [y], by simp, hx, fun z hz => ?_⟩
        rcases List.mem_append.mp hz with hz | hz
        · exact hback z hz
        · rw [List.mem_singleton.mp hz]
          exact hy

theorem toInt64_inj {m n : Int32} : m.toInt64 = n.toInt64 ↔ m = n := by
  constructor
  · intro h
    have hback := congrArg Int64.toInt32 h
    rwa [Int32.toInt32_toInt64, Int32.toInt32_toInt64] at hback
  · exact congrArg Int32.toInt64

/-! ### Quiet workloads -/

/-- Whether no worker is inside a report: none has still to insert its change
or to send the total it read back. -/
def Workload.isQuiet (w : Workload) : Bool :=
  w.workers.all fun worker =>
    match worker.actions with
    | .insert _ _ :: _ => false
    | .publish _ :: _ => false
    | _ => true

/-- The gauge of every actor type shows its total. -/
def ShowsTotals {β : Type} (m : Monitor β) (samples : List Sample) : Prop :=
  ∀ a, gauge? a samples = (m.backlog.total? a).map fun total => .int total.toInt64

/-- **The gauge stays behind.** Of two workers who each report one more pending
call, the first adds its change, the second adds and sends, and only then the
first sends. All is quiet, the total is 2, and the gauge shows 1. -/
theorem gauge_stays_behind :
    ¬ ∀ (threads : List (List Change)) (schedule : List ℕ),
      let m : Monitor Unit := ⟨some ⟨"checkout", ()⟩, {}⟩
      let after := m.work (threads.map Worker.reporting) schedule
      ((Workload.reporting m.backlog threads).run "checkout" schedule).isQuiet = true →
        ShowsTotals after.1 after.2 := by
  intro h
  have hcart := h [[⟨"cart", 1⟩], [⟨"cart", 1⟩]] [0, 0, 1, 1, 0] (by decide +kernel) "cart"
  exact absurd hcart (by decide +kernel)

namespace Workload

variable {appId : String} {b : Backlog} {threads : List (List Change)} {w : Workload}
  {order : List (ℕ × Change)} {emitted : List (ℕ × Emission)}

/-- In a quiet workload the totals that were read back are all sent. -/
theorem Linear.quiet (h : Linear appId b threads w order emitted) (hquiet : w.isQuiet = true)
    (i : ℕ) : ofWorker i emitted = ofWorker i (emissions b order) := by
  obtain ⟨rest, owed, hphase, -, howed⟩ := h.workers i
  suffices hnone : owed = [] by
    rw [howed, hnone, List.append_nil]
  generalize hw : w.workers[i]? = slot at hphase
  cases hphase with
  | absent => rfl
  | ready _ total => rfl
  | missed c changes total => rfl
  | owing x changes =>
    obtain ⟨hi, hworker⟩ := Array.getElem?_eq_some_iff.mp hw
    rw [isQuiet, Array.all_eq_true] at hquiet
    have hidle := hquiet i hi
    rw [hworker] at hidle
    cases hidle

end Workload

/-- Of the changes that were added in the given order, that of worker `i` for
actor type `a` is the one whose total `x` was sent last for `a`. It was added
before `later`. -/
structure LastSent (b : Backlog) (order : List (ℕ × Change)) (emitted : List (ℕ × Emission))
    (a : String) (i : ℕ) (x : Emission) (later : List (ℕ × Change)) : Prop where
  actorType : x.actorType = a
  /-- The same report of the worker adds the change and sends the total: it has
  the same number among the reports of the worker in both orders. -/
  same : ∃ before c front back, order = before ++ (i, c) :: later ∧ c.actorType = a ∧
    emitted = front ++ (i, x) :: back ∧ (∀ p ∈ back, p.2.actorType ≠ a) ∧
    (ofWorker i before).length = (ofWorker i front).length ∧
    x.total = b.total a + net a (before.map Prod.snd ++ [c])

namespace Workload

variable {appId : String} {b : Backlog} {threads : List (List Change)} {w : Workload}
  {order : List (ℕ × Change)} {emitted : List (ℕ × Emission)}

/-- In a quiet workload each total that was sent is that of a change, of the
same number among those of its worker. -/
theorem Linear.lastSent (h : Linear appId b threads w order emitted) (hquiet : w.isQuiet = true)
    {a : String} {i : ℕ} {x : Emission} {front back : List (ℕ × Emission)}
    (hsent : emitted = front ++ (i, x) :: back) (hx : x.actorType = a)
    (hback : ∀ p ∈ back, p.2.actorType ≠ a) :
    ∃ later, LastSent b order emitted a i x later := by
  have hown : ofWorker i (emissions b order) = ofWorker i front ++ x :: ofWorker i back := by
    rw [← h.quiet hquiet i, hsent, ofWorker_append, ofWorker_cons_self]
  obtain ⟨before', later', hsplit, hfront⟩ := split_of_ofWorker hown
  obtain ⟨before, c, later, horder, hbefore, hxc⟩ := split_of_emissions hsplit
  have htype : c.actorType = a := by
    rw [← hx, hxc]
  refine ⟨later, hx, before, c, front, back, horder, htype, hsent, hback, ?_, ?_⟩
  · rw [← length_ofWorker_emissions i before b, ← hbefore, hfront]
  · rw [hxc, htype]

/-- The total after the changes is the one that was sent last and what the
changes since then come to. -/
theorem Linear.total?_of_lastSent (h : Linear appId b threads w order emitted) {a : String} {i : ℕ}
    {x : Emission} {later : List (ℕ × Change)} (hlast : LastSent b order emitted a i x later) :
    w.backlog.total? a = some (x.total + net a (later.map Prod.snd)) := by
  obtain ⟨before, c, front, back, horder, hc, -, -, -, hx⟩ := hlast.same
  have hmem : a ∈ (order.map Prod.snd).map Change.actorType := by
    rw [horder, ← hc]
    simp
  have hnet : net a (order.map Prod.snd) =
      net a (before.map Prod.snd ++ [c]) + net a (later.map Prod.snd) := by
    rw [horder, ← net_append]
    simp
  rw [h.backlog, Backlog.total?_addAll_of_mem b hmem, hnet, ← Int32.add_assoc, hx]

/-- In a quiet workload the gauge of an actor type shows the total that was sent
last for it; if none was, its total is as it was at first. -/
theorem Linear.gauge_cases (h : Linear appId b threads w order emitted) (hquiet : w.isQuiet = true)
    (a : String) :
    (gauge? a w.samples.toList = none ∧ w.backlog.total? a = b.total? a) ∨
      ∃ i x later, LastSent b order emitted a i x later ∧
        gauge? a w.samples.toList = some (.int x.total.toInt64) := by
  rcases exists_last (fun p : ℕ × Emission => p.2.actorType = a) emitted with
    hnone | ⟨front, ⟨i, x⟩, back, hsent, hx, hback⟩
  · refine Or.inl ⟨?_, ?_⟩
    · rw [h.samples, gauge?_eq_none_iff]
      intro s hs
      obtain ⟨p, hp, rfl⟩ := List.mem_map.mp hs
      rw [Emission.pendingTotal?_sample, if_neg (hnone p hp)]
    · -- a change that was added would have been sent
      rw [h.backlog]
      refine Backlog.total?_addAll_of_notMem b fun hmem => ?_
      obtain ⟨c, hc, rfl⟩ := List.mem_map.mp hmem
      obtain ⟨⟨i, d⟩, hd, rfl⟩ := List.mem_map.mp hc
      obtain ⟨before, later, rfl⟩ := List.append_of_mem hd
      have hperm : emitted.Perm (emissions b (before ++ (i, d) :: later)) :=
        perm_of_ofWorker_eq (h.quiet hquiet)
      rw [emissions_append_cons] at hperm
      exact hnone _ (hperm.mem_iff.mpr (List.mem_append_right _ List.mem_cons_self)) rfl
  · obtain ⟨later, hlast⟩ := h.lastSent hquiet hsent hx hback
    refine Or.inr ⟨i, x, later, hlast, ?_⟩
    rw [h.samples, hsent]
    exact gauge?_of_last appId hx hback

end Workload

/-- **The gauge shows the total as of the last sender.** Any number of workers
report changes to an enabled monitor, in any interleaving, and at some point no
report is going on. For an actor type, either nothing was sent, and its total is
as it was before; or some report sent its total last, and the gauge shows that.
It is the sum up to and including the change of this report, so the total is
what the gauge shows and the changes that were added after it. The gauge shows
the total exactly if these come to nothing, as they do when the report that sent
last was also the last to add. -/
theorem Monitor.gauge_shows_total_as_of_last_sender {β : Type} (m : Monitor β) (active : Active β)
    (hm : m.active? = some active) (threads : List (List Change)) (schedule : List ℕ)
    (hquiet : ((Workload.reporting m.backlog threads).run active.appId schedule).isQuiet = true)
    (a : String) :
    let order := (Workload.reporting m.backlog threads).along active.appId Workload.adds schedule
    let emitted := (Workload.reporting m.backlog threads).sent active.appId schedule
    let after := m.work (threads.map Worker.reporting) schedule
    (gauge? a after.2 = none ∧ after.1.backlog.total? a = m.backlog.total? a) ∨
      ∃ i x later, LastSent m.backlog order emitted a i x later ∧
        gauge? a after.2 = some (.int x.total.toInt64) ∧
        after.1.backlog.total? a = some (x.total + net a (later.map Prod.snd)) ∧
        (gauge? a after.2 = (after.1.backlog.total? a).map (fun total => .int total.toInt64) ↔
          net a (later.map Prod.snd) = 0) ∧
        ((∀ p ∈ later, p.2.actorType ≠ a) →
          gauge? a after.2 = (after.1.backlog.total? a).map fun total => .int total.toInt64) := by
  have hlinear := Workload.linear_run
    (Workload.linear_reporting active.appId m.backlog threads) schedule
  rw [List.nil_append, List.nil_append] at hlinear
  intro order emitted after
  have hwork : after = _ := m.work_reporting hm threads schedule
  rw [hwork]
  rcases hlinear.gauge_cases hquiet a with hnone | ⟨i, x, later, hlast, hgauge⟩
  · exact Or.inl hnone
  have htotal := hlinear.total?_of_lastSent hlast
  have hiff : some (Value.int x.total.toInt64) =
      (some (x.total + net a (later.map Prod.snd))).map (fun total => .int total.toInt64) ↔
        net a (later.map Prod.snd) = 0 := by
    rw [Option.map_some, Option.some.injEq, Value.int.injEq, toInt64_inj, eq_comm,
      Int32.add_eq_left]
  refine Or.inr ⟨i, x, later, hlast, hgauge, htotal, ?_, fun hlater => ?_⟩
  · rw [hgauge, htotal]
    exact hiff
  · rw [hgauge, htotal]
    refine hiff.mpr (net_of_ne a fun c hc => ?_)
    obtain ⟨p, hp, rfl⟩ := List.mem_map.mp hc
    exact hlater p hp

/-- The second worker adds and sends between the addition of the first and its
sample, and is then in the middle of nothing: it has yet to report a change of
another actor type. -/
theorem Monitor.gauge_shows_total_as_of_last_sender_when_overtaken :
    let m : Monitor Unit := ⟨some ⟨"checkout", ()⟩, {}⟩
    let threads : List (List Change) := [[⟨"cart", 1⟩], [⟨"cart", 1⟩, ⟨"order", -3⟩]]
    let schedule := [0, 0, 1, 1, 0]
    let start := Workload.reporting m.backlog threads
    let after := m.work (threads.map Worker.reporting) schedule
    m.active? = some ⟨"checkout", ()⟩ ∧ (start.run "checkout" schedule).isQuiet = true ∧
    gauge? "cart" after.2 = some (.int 1) ∧ after.1.backlog.total? "cart" = some 2 ∧
    ∃ i x later, LastSent m.backlog (start.along "checkout" Workload.adds schedule)
        (start.sent "checkout" schedule) "cart" i x later ∧
      gauge? "cart" after.2 = some (.int x.total.toInt64) ∧
      after.1.backlog.total? "cart" = some (x.total + net "cart" (later.map Prod.snd)) := by
  intro m threads schedule start after
  have hactive : m.active? = some ⟨"checkout", ()⟩ := rfl
  have hquiet : (start.run "checkout" schedule).isQuiet = true := by decide +kernel
  have hgauge : gauge? "cart" after.2 = some (.int 1) := by decide +kernel
  rcases m.gauge_shows_total_as_of_last_sender _ hactive threads schedule hquiet "cart" with
    ⟨hnone, -⟩ | ⟨i, x, later, hlast, hshown, htotal, -⟩
  · rw [hgauge] at hnone
    cases hnone
  · exact ⟨hactive, hquiet, hgauge, by decide +kernel, i, x, later, hlast, hshown, htotal⟩

end Telemetry
