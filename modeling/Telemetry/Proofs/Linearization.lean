/-
# Concurrent reports of pending calls take effect in one order

Workers report changes of the pending calls to one monitor. A report looks up
the total of its actor type; if there is none it comes back later to insert
one, and other workers may have done so by then. Still each report adds its
change in one action, whichever it is, and reads the total back in the same
action. So in every interleaving the reports take effect one after the other,
in the order in which they add (`Workload.Linear`), and no change is lost or
counted twice.

Key definitions: `Change.actions`, `Workload.adds`, `Workload.sends`, `Phase`,
`Workload.Linear`, `Linearizes`.
Key theorems: `Phase.turn`, `Workload.Linear.step`, `Workload.linear_run`,
`Monitor.reports_linearize`.
-/
import Mathlib
import Telemetry.Interleaving
import Telemetry.Proofs.Totals

namespace Telemetry

/-- The actions of a report of a change. -/
def Change.actions (c : Change) : List Action := Action.report c.actorType c.delta

/-- A worker that reports changes one after the other. -/
def Worker.reporting (changes : List Change) : Worker := ⟨changes.flatMap Change.actions, 0⟩

/-- The sample that carries an emitted total: the integer itself, for the gauge of
pending calls, with the application id and the actor type. -/
def Emission.sample (appId : String) (x : Emission) : Sample :=
  ⟨Instrument.pendingCalls.name, [⟨.appId, appId⟩, ⟨.actorType, x.actorType⟩],
    .int x.total.toInt64⟩

/-- A worker that has read a total back sends the sample that carries it. -/
theorem RuntimeEvent.pendingSample_eq (appId actorType : String) (total : Int32) :
    pendingSample appId actorType total = Emission.sample appId ⟨actorType, total⟩ := rfl

namespace Workload

variable {appId : String} {w : Workload} {i j : ℕ}

/-! ### One turn -/

/-- The change that the next action of worker `i` adds to the totals. -/
def adds (w : Workload) (i : ℕ) : List (ℕ × Change) :=
  match w.workers[i]? with
  | some ⟨.look actorType delta :: _, _⟩ =>
    if (w.backlog.total? actorType).isSome then [(i, ⟨actorType, delta⟩)] else []
  | some ⟨.insert actorType delta :: _, _⟩ => [(i, ⟨actorType, delta⟩)]
  | _ => []

/-- The total that the next action of worker `i` sends. -/
def sends (w : Workload) (i : ℕ) : List (ℕ × Emission) :=
  match w.workers[i]? with
  | some ⟨.publish actorType :: _, total⟩ => [(i, ⟨actorType, total⟩)]
  | _ => []

/-- What the turns of a schedule give, in order. -/
def along {α : Type} (appId : String) (give : Workload → ℕ → List α) (w : Workload) :
    List ℕ → List α
  | [] => []
  | i :: schedule => give w i ++ along appId give (w.step appId i) schedule

/-- The totals that the workers send over a schedule, each with its worker. -/
def sent (appId : String) (w : Workload) (schedule : List ℕ) : List (ℕ × Emission) :=
  w.along appId sends schedule

theorem mem_adds {p : ℕ × Change} (h : p ∈ w.adds i) : p.1 = i := by
  unfold adds at h
  split at h
  · split at h
    · rw [List.mem_singleton.mp h]
    · exact absurd h List.not_mem_nil
  · rw [List.mem_singleton.mp h]
  · exact absurd h List.not_mem_nil

theorem mem_sends {p : ℕ × Emission} (h : p ∈ w.sends i) : p.1 = i := by
  unfold sends at h
  split at h
  · rw [List.mem_singleton.mp h]
  · exact absurd h List.not_mem_nil

theorem workers_perform (total : Int32) (rest : List Action) (action : Action) :
    (w.perform appId total rest action).1.workers = w.workers := by
  cases action <;> unfold perform <;> dsimp only <;> split <;> rfl

theorem step_of_none (h : w.workers[i]? = none) : w.step appId i = w := by
  rw [step, h]

theorem step_of_nil {total : Int32} (h : w.workers[i]? = some ⟨[], total⟩) :
    w.step appId i = w := by
  rw [step, h]

theorem step_of_cons (appId : String) {action : Action} {rest : List Action} {total : Int32}
    (h : w.workers[i]? = some ⟨action :: rest, total⟩) :
    w.step appId i =
      { (w.perform appId total rest action).1 with
        workers := w.workers.setIfInBounds i (w.perform appId total rest action).2 } := by
  rw [step, h]
  simp only [workers_perform]

/-- A turn of one worker leaves the others where they are. -/
theorem workers_step_of_ne (h : j ≠ i) : (w.step appId i).workers[j]? = w.workers[j]? := by
  cases hw : w.workers[i]? with
  | none => rw [step_of_none hw]
  | some worker =>
    obtain ⟨_ | ⟨action, rest⟩, total⟩ := worker
    · rw [step_of_nil hw]
    · rw [step_of_cons appId hw, Array.getElem?_setIfInBounds_ne h.symm]

theorem workers_step_self (appId : String) {action : Action} {rest : List Action} {total : Int32}
    (h : w.workers[i]? = some ⟨action :: rest, total⟩) :
    (w.step appId i).workers[i]? = some (w.perform appId total rest action).2 := by
  obtain ⟨hi, -⟩ := Array.getElem?_eq_some_iff.mp h
  rw [step_of_cons appId h, Array.getElem?_setIfInBounds, if_pos rfl, if_pos hi]

end Workload

/-! ### Where a worker stands -/

/-- Where a worker stands who reports changes: which of them are still to be
added, and which total it has read back but not sent yet. -/
inductive Phase : Option Worker → List Change → List Emission → Prop
  | absent : Phase none [] []
  | ready (changes : List Change) (total : Int32) :
      Phase (some ⟨changes.flatMap Change.actions, total⟩) changes []
  /-- The look-up found no total, so the change is still to be added. -/
  | missed (c : Change) (changes : List Change) (total : Int32) :
      Phase (some ⟨.insert c.actorType c.delta :: .publish c.actorType ::
        changes.flatMap Change.actions, total⟩) (c :: changes) []
  | owing (x : Emission) (changes : List Change) :
      Phase (some ⟨.publish x.actorType :: changes.flatMap Change.actions, x.total⟩) changes [x]

/-- What a turn does to a worker who reports changes, and to what is shared: a
change moves from those to be added to those added, with its total owed, and
a total that is owed is sent. -/
structure Phase.Turn (appId : String) (w : Workload) (i : ℕ) (rest : List Change)
    (owed : List Emission) (rest' : List Change) (owed' : List Emission) : Prop where
  phase : Phase (w.step appId i).workers[i]? rest' owed'
  added : rest = ofWorker i (w.adds i) ++ rest'
  emitted : owed ++ ofWorker i (emissions w.backlog (w.adds i)) = ofWorker i (w.sends i) ++ owed'
  backlog : (w.step appId i).backlog = w.backlog.addAll (w.adds i)
  samples : (w.step appId i).samples.toList =
    w.samples.toList ++ (w.sends i).map fun p => p.2.sample appId

section Turn

variable {appId : String} {w : Workload} {i : ℕ} {rest : List Change} {owed : List Emission}

/-- A turn in which nothing is added or sent. -/
theorem Phase.Turn.of_idle (h : Phase w.workers[i]? rest owed) (hstep : w.step appId i = w)
    (hadds : w.adds i = []) (hsends : w.sends i = []) :
    Phase.Turn appId w i rest owed rest owed := by
  refine ⟨by rw [hstep]; exact h, ?_, ?_, ?_, ?_⟩
  · rw [hadds]
    rfl
  · rw [hadds, hsends]
    exact List.append_nil _
  · rw [hstep, hadds]
    rfl
  · rw [hstep, hsends, List.map_nil, List.append_nil]

/-- A turn in which a change is added and its total read back. -/
theorem Phase.Turn.of_add {c : Change} {changes : List Change} (hadds : w.adds i = [(i, c)])
    (hsends : w.sends i = [])
    (hworker : (w.step appId i).workers[i]? =
      some ⟨.publish c.actorType :: changes.flatMap Change.actions,
        w.backlog.total c.actorType + c.delta⟩)
    (hbacklog : (w.step appId i).backlog = w.backlog.add c.actorType c.delta)
    (hsamples : (w.step appId i).samples = w.samples) :
    Phase.Turn appId w i (c :: changes) [] changes
      [⟨c.actorType, w.backlog.total c.actorType + c.delta⟩] := by
  refine ⟨?_, ?_, ?_, ?_, ?_⟩
  · rw [hworker]
    exact .owing ⟨c.actorType, w.backlog.total c.actorType + c.delta⟩ changes
  · rw [hadds, ofWorker_cons_self]
    rfl
  · rw [hadds, hsends, emissions, ofWorker_cons_self]
    rfl
  · rw [hbacklog, hadds]
    rfl
  · rw [hsamples, hsends, List.map_nil, List.append_nil]

/-- A worker whose change finds a total adds it at once, and one whose change
finds none is left with an insertion. -/
theorem Phase.turn_of_look {c : Change} {changes : List Change} {total : Int32}
    (hw : w.workers[i]? = some ⟨(c :: changes).flatMap Change.actions, total⟩) :
    ∃ rest' owed', Phase.Turn appId w i (c :: changes) [] rest' owed' := by
  have hlook : w.workers[i]? = some ⟨.look c.actorType c.delta :: .publish c.actorType ::
      changes.flatMap Change.actions, total⟩ := hw
  have hworker := Workload.workers_step_self appId hlook
  have hstep := Workload.step_of_cons appId hlook
  have hsends : w.sends i = [] := by simp [Workload.sends, hlook]
  cases htotal : w.backlog.total? c.actorType with
  | none =>
    have hadds : w.adds i = [] := by simp [Workload.adds, hlook, htotal]
    simp only [Workload.perform, htotal] at hworker hstep
    refine ⟨c :: changes, [], ⟨?_, ?_, ?_, ?_, ?_⟩⟩
    · rw [hworker]
      exact .missed c changes total
    · rw [hadds]
      rfl
    · rw [hadds, hsends]
      rfl
    · rw [hstep, hadds]
      rfl
    · rw [hstep, hsends, List.map_nil, List.append_nil]
  | some old =>
    have hadds : w.adds i = [(i, c)] := by simp [Workload.adds, hlook, htotal]
    have hold : w.backlog.total c.actorType = old := by rw [Backlog.total, htotal]; rfl
    simp only [Workload.perform, htotal] at hworker hstep
    exact ⟨_, _, .of_add hadds hsends (by rw [hworker, hold]) (by rw [hstep]) (by rw [hstep])⟩

theorem Phase.turn_of_insert {c : Change} {changes : List Change} {total : Int32}
    (hw : w.workers[i]? = some ⟨.insert c.actorType c.delta :: .publish c.actorType ::
      changes.flatMap Change.actions, total⟩) :
    ∃ rest' owed', Phase.Turn appId w i (c :: changes) [] rest' owed' := by
  have hworker := Workload.workers_step_self appId hw
  have hstep := Workload.step_of_cons appId hw
  have hadds : w.adds i = [(i, c)] := by simp [Workload.adds, hw]
  have hsends : w.sends i = [] := by simp [Workload.sends, hw]
  exact ⟨_, _, .of_add hadds hsends (by rw [hworker]; rfl) (by rw [hstep]; rfl)
    (by rw [hstep]; rfl)⟩

theorem Phase.turn_of_publish {x : Emission} {changes : List Change}
    (hw : w.workers[i]? = some ⟨.publish x.actorType :: changes.flatMap Change.actions, x.total⟩) :
    Phase.Turn appId w i changes [x] changes [] := by
  have hworker := Workload.workers_step_self appId hw
  have hstep := Workload.step_of_cons appId hw
  have hadds : w.adds i = [] := by simp [Workload.adds, hw]
  have hsends : w.sends i = [(i, x)] := by simp [Workload.sends, hw]
  refine ⟨?_, ?_, ?_, ?_, ?_⟩
  · rw [hworker]
    exact .ready changes x.total
  · rw [hadds]
    rfl
  · rw [hadds, hsends, ofWorker_cons_self]
    rfl
  · rw [hstep, hadds]
    rfl
  · rw [hstep, hsends]
    simp [Workload.perform, RuntimeEvent.pendingSample_eq]

/-- Every turn of a worker who reports changes is such a turn. -/
theorem Phase.turn (appId : String) (h : Phase w.workers[i]? rest owed) :
    ∃ rest' owed', Phase.Turn appId w i rest owed rest' owed' := by
  have hphase := h
  generalize hw : w.workers[i]? = slot at h
  cases h with
  | absent =>
    exact ⟨_, _, .of_idle hphase (Workload.step_of_none hw) (by simp [Workload.adds, hw])
      (by simp [Workload.sends, hw])⟩
  | ready _ total =>
    cases rest with
    | nil =>
      have hnil : w.workers[i]? = some ⟨[], total⟩ := hw
      exact ⟨_, _, .of_idle hphase (Workload.step_of_nil hnil) (by simp [Workload.adds, hnil])
        (by simp [Workload.sends, hnil])⟩
    | cons c changes => exact turn_of_look hw
  | missed c changes total => exact turn_of_insert hw
  | owing x changes => exact ⟨_, _, turn_of_publish hw⟩

end Turn

/-! ### Runs -/

namespace Workload

/-- The workers have added the changes of `order` and sent `emitted`: the
totals are those after the changes in that order, and each worker has added
its changes in its own order, up to where it stands, and sent the totals that
it read back, up to one that it owes. -/
structure Linear (appId : String) (b : Backlog) (threads : List (List Change)) (w : Workload)
    (order : List (ℕ × Change)) (emitted : List (ℕ × Emission)) : Prop where
  backlog : w.backlog = b.addAll order
  samples : w.samples.toList = emitted.map fun p => p.2.sample appId
  workers : ∀ i, ∃ rest owed, Phase w.workers[i]? rest owed ∧
    threads.getD i [] = ofWorker i order ++ rest ∧
    ofWorker i (emissions b order) = ofWorker i emitted ++ owed

variable {appId : String} {b : Backlog} {threads : List (List Change)} {w : Workload}
  {order : List (ℕ × Change)} {emitted : List (ℕ × Emission)}

/-- Workers about to report their changes. -/
def reporting (b : Backlog) (threads : List (List Change)) : Workload :=
  { backlog := b, workers := (threads.map Worker.reporting).toArray }

theorem linear_reporting (appId : String) (b : Backlog) (threads : List (List Change)) :
    Linear appId b threads (reporting b threads) [] [] where
  backlog := rfl
  samples := rfl
  workers i := by
    refine ⟨threads.getD i [], [], ?_, rfl, rfl⟩
    have hget : (reporting b threads).workers[i]? = threads[i]?.map Worker.reporting := by
      simp [reporting]
    rw [hget, List.getD_eq_getElem?_getD]
    cases threads[i]? with
    | none => exact .absent
    | some changes => exact .ready changes 0

/-- A turn of any worker adds its change at the end of the order. -/
theorem Linear.step (h : Linear appId b threads w order emitted) (i : ℕ) :
    Linear appId b threads (w.step appId i) (order ++ w.adds i) (emitted ++ w.sends i) := by
  obtain ⟨rest, owed, hphase, hthread, howed⟩ := h.workers i
  obtain ⟨rest', owed', hturn⟩ := hphase.turn appId
  refine ⟨?_, ?_, fun j => ?_⟩
  · rw [hturn.backlog, Backlog.addAll_append, h.backlog]
  · rw [hturn.samples, h.samples, List.map_append]
  by_cases hj : j = i
  · subst hj
    refine ⟨rest', owed', hturn.phase, ?_, ?_⟩
    · rw [hthread, hturn.added, ofWorker_append, List.append_assoc]
    · rw [emissions_append, ofWorker_append, howed, ← h.backlog, List.append_assoc,
        hturn.emitted, ofWorker_append, List.append_assoc]
  · -- nothing of worker `j` is added or sent
    obtain ⟨restj, owedj, hphasej, hthreadj, howedj⟩ := h.workers j
    have hne : ∀ k, k = i → k ≠ j := fun k hk => hk ▸ Ne.symm hj
    have hadds : ofWorker j (w.adds i) = [] := ofWorker_eq_nil fun p hp => hne _ (mem_adds hp)
    have hsends : ofWorker j (w.sends i) = [] := ofWorker_eq_nil fun p hp => hne _ (mem_sends hp)
    have hnone : ofWorker j (emissions (b.addAll order) (w.adds i)) = [] := by
      rw [← List.length_eq_zero_iff, length_ofWorker_emissions, hadds]
      rfl
    refine ⟨restj, owedj, by rw [workers_step_of_ne hj]; exact hphasej, ?_, ?_⟩
    · rw [hthreadj, ofWorker_append, hadds, List.append_nil]
    · rw [emissions_append, ofWorker_append, hnone, List.append_nil, howedj, ofWorker_append,
        hsends, List.append_nil]

/-- A run adds the changes in the order in which its turns add them. -/
theorem linear_run (h : Linear appId b threads w order emitted) (schedule : List ℕ) :
    Linear appId b threads (w.run appId schedule) (order ++ w.along appId adds schedule)
      (emitted ++ w.sent appId schedule) := by
  induction schedule generalizing w order emitted with
  | nil => simpa [run, along, sent] using h
  | cons i schedule ih =>
    have hrest := ih (h.step i)
    rw [List.append_assoc, List.append_assoc] at hrest
    exact hrest

theorem actions_of_isDone (hdone : w.isDone = true) {i : ℕ} {worker : Worker}
    (hw : w.workers[i]? = some worker) : worker.actions = [] := by
  obtain ⟨hi, rfl⟩ := Array.getElem?_eq_some_iff.mp hw
  rw [isDone, Array.all_eq_true] at hdone
  exact List.isEmpty_iff.mp (hdone i hi)

/-- When no worker has an action left, all changes are added and all totals
are sent. -/
theorem Linear.finished (h : Linear appId b threads w order emitted) (hdone : w.isDone = true)
    (i : ℕ) : ofWorker i order = threads.getD i [] ∧
      ofWorker i emitted = ofWorker i (emissions b order) := by
  obtain ⟨rest, owed, hphase, hthread, howed⟩ := h.workers i
  suffices hnone : rest = [] ∧ owed = [] by
    rw [hnone.1, List.append_nil] at hthread
    rw [hnone.2, List.append_nil] at howed
    exact ⟨hthread.symm, howed.symm⟩
  generalize hw : w.workers[i]? = slot at hphase
  cases hphase with
  | absent => exact ⟨rfl, rfl⟩
  | ready _ total =>
    cases rest with
    | nil => exact ⟨rfl, rfl⟩
    | cons c changes => exact absurd (actions_of_isDone hdone hw) (List.cons_ne_nil _ _)
  | missed c changes total => exact absurd (actions_of_isDone hdone hw) (List.cons_ne_nil _ _)
  | owing x changes => exact absurd (actions_of_isDone hdone hw) (List.cons_ne_nil _ _)

end Workload

/-! ### The order of the reports -/

/-- An order of all the changes that the workers report, such that each report
emits the prefix sum of its actor type in this order. -/
structure Linearizes (b : Backlog) (threads : List (List Change)) (emitted : List (ℕ × Emission))
    (order : List (ℕ × Change)) : Prop where
  /-- The order has the changes of each worker, in the worker's own order. -/
  changes : ∀ i, ofWorker i order = threads.getD i []
  /-- Each worker emits a total for each of its changes. -/
  length : ∀ i, (ofWorker i emitted).length = (threads.getD i []).length
  /-- The total emitted for a change is the sum up to and including it. -/
  emits : ∀ before i c later, order = before ++ (i, c) :: later →
    (ofWorker i emitted)[(ofWorker i before).length]? =
      some ⟨c.actorType, b.total c.actorType + net c.actorType (before.map Prod.snd ++ [c])⟩

theorem linearizes_of_ofWorker_eq {b : Backlog} {threads : List (List Change)}
    {emitted : List (ℕ × Emission)} {order : List (ℕ × Change)}
    (h : ∀ i, ofWorker i order = threads.getD i [] ∧
      ofWorker i emitted = ofWorker i (emissions b order)) :
    Linearizes b threads emitted order where
  changes i := (h i).1
  length i := by rw [(h i).2, length_ofWorker_emissions, (h i).1]
  emits before i c later heq := by
    rw [(h i).2, heq, emissions_append_cons, ofWorker_append, ofWorker_cons_self,
      ← length_ofWorker_emissions i before b, List.getElem?_append_right (le_refl _), Nat.sub_self]
    rfl

/-- When all changes are the same, the samples are an arithmetic progression,
up to order. -/
theorem samples_perm_of_same {b : Backlog} {emitted : List (ℕ × Emission)}
    {order : List (ℕ × Change)} {c : Change} (appId : String)
    (hemitted : ∀ i, ofWorker i emitted = ofWorker i (emissions b order))
    (hsame : ∀ p ∈ order, p.2 = c) :
    (emitted.map fun p => p.2.sample appId).Perm ((List.range order.length).map fun k =>
      Emission.sample appId
        ⟨c.actorType, b.total c.actorType + Int32.ofNat (k + 1) * c.delta⟩) := by
  have hperm : emitted.Perm (emissions b order) := perm_of_ofWorker_eq hemitted
  have hsamples := (hperm.map Prod.snd).map (Emission.sample appId)
  rw [map_snd_emissions_of_same order b hsame, List.map_map, List.map_map] at hsamples
  exact hsamples

theorem Monitor.work_reporting {β : Type} (m : Monitor β) {active : Active β}
    (hm : m.active? = some active) (threads : List (List Change)) (schedule : List ℕ) :
    m.work (threads.map Worker.reporting) schedule =
      ({ m with
          backlog := ((Workload.reporting m.backlog threads).run active.appId schedule).backlog },
        ((Workload.reporting m.backlog threads).run active.appId schedule).samples.toList) := by
  unfold Monitor.work
  rw [hm]
  rfl

/-- **Concurrent reports take effect in one order.** Any number of workers
report changes to an enabled monitor, in any interleaving. There is an order
of all the reports, which keeps each worker's own, such that every report
emits the prefix sum of its actor type; and each actor type ends with the sum
of all its changes on top of its earlier total. When all changes are the same,
the samples up to order, and the total, do not depend on the interleaving. -/
theorem Monitor.reports_linearize {β : Type} (m : Monitor β) (active : Active β)
    (hm : m.active? = some active) (threads : List (List Change)) (schedule : List ℕ)
    (hdone : ((Workload.reporting m.backlog threads).run active.appId schedule).isDone = true) :
    let emitted := (Workload.reporting m.backlog threads).sent active.appId schedule
    let after := m.work (threads.map Worker.reporting) schedule
    after.2 = emitted.map (fun p => p.2.sample active.appId) ∧
    (∃ order, Linearizes m.backlog threads emitted order) ∧
    (∀ a ∈ threads.flatten.map Change.actorType,
      after.1.backlog.total? a = some (m.backlog.total a + net a threads.flatten)) ∧
    (∀ a ∉ threads.flatten.map Change.actorType,
      after.1.backlog.total? a = m.backlog.total? a) ∧
    ∀ c, (∀ d ∈ threads.flatten, d = c) →
      after.2.Perm ((List.range threads.flatten.length).map fun k =>
        Emission.sample active.appId
          ⟨c.actorType, m.backlog.total c.actorType + Int32.ofNat (k + 1) * c.delta⟩) ∧
      after.1.backlog.total c.actorType =
        m.backlog.total c.actorType + Int32.ofNat threads.flatten.length * c.delta := by
  have hlinear := Workload.linear_run
    (Workload.linear_reporting active.appId m.backlog threads) schedule
  have hfinished := hlinear.finished hdone
  rw [List.nil_append, List.nil_append] at hlinear hfinished
  set emitted := (Workload.reporting m.backlog threads).sent active.appId schedule
  set order := (Workload.reporting m.backlog threads).along active.appId Workload.adds schedule
  have hwork := m.work_reporting hm threads schedule
  rw [hlinear.backlog, hlinear.samples] at hwork
  have hperm : (order.map Prod.snd).Perm threads.flatten :=
    perm_flatten_of_ofWorker_eq fun i => (hfinished i).1
  have htypes := hperm.map Change.actorType
  intro emitted' after
  rw [show after = _ from hwork]
  refine ⟨rfl, ⟨order, linearizes_of_ofWorker_eq hfinished⟩, fun a ha => ?_, fun a ha => ?_,
    fun c hsame => ⟨?_, ?_⟩⟩
  · rw [← net_perm a hperm]
    exact Backlog.total?_addAll_of_mem m.backlog (htypes.mem_iff.mpr ha)
  · exact Backlog.total?_addAll_of_notMem m.backlog fun h => ha (htypes.mem_iff.mp h)
  · have hall : ∀ p ∈ order, p.2 = c := fun p hp =>
      hsame _ (hperm.mem_iff.mp (List.mem_map_of_mem hp))
    have hlength : order.length = threads.flatten.length := by
      rw [← hperm.length_eq, List.length_map]
    rw [← hlength]
    exact samples_perm_of_same active.appId (fun i => (hfinished i).2) hall
  · rw [Backlog.total_addAll, net_perm _ hperm, net_of_same hsame]

/-- Both workers find no total of their actor type before either inserts one,
and the sum wraps. -/
theorem Monitor.reports_linearize_when_both_miss :
    let m : Monitor Unit := ⟨some ⟨"checkout", ()⟩, {}⟩
    let threads : List (List Change) := [[⟨"cart", 2147483647⟩], [⟨"cart", 1⟩, ⟨"order", -3⟩]]
    let schedule := [0, 1, 1, 0, 0, 1, 1, 1, 1]
    let start := Workload.reporting m.backlog threads
    let after := m.work (threads.map Worker.reporting) schedule
    m.active? = some ⟨"checkout", ()⟩ ∧ (start.run "checkout" schedule).isDone = true ∧
    (∃ order, Linearizes m.backlog threads (start.sent "checkout" schedule) order) ∧
    start.sent "checkout" schedule =
      [(0, ⟨"cart", -2147483648⟩), (1, ⟨"cart", 1⟩), (1, ⟨"order", -3⟩)] ∧
    after.2.map Sample.value = [.int (-2147483648), .int 1, .int (-3)] ∧
    after.2.map (·.tag? "actor_type") = [some "cart", some "cart", some "order"] ∧
    after.1.backlog.total? "cart" = some (-2147483648) := by
  intro m threads schedule start after
  have hdone : (start.run "checkout" schedule).isDone = true := by decide +kernel
  obtain ⟨-, horder, htotal, -⟩ := m.reports_linearize ⟨"checkout", ()⟩ rfl threads schedule hdone
  have hcart : m.backlog.total "cart" + net "cart" threads.flatten = -2147483648 := by
    decide +kernel
  refine ⟨rfl, hdone, horder, by decide +kernel, by decide +kernel, by decide +kernel, ?_⟩
  rw [← hcart]
  exact htotal "cart" (by decide)

end Telemetry
