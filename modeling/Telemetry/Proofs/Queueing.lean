/-
# Calls of one actor type that wait for one lock

A call adds itself to the pending ones before it waits for the lock of its actor
type, and takes itself off while it holds the lock. It sends the totals that it
reads back in later actions of its own, so the samples may come in another order
than the changes. Still a call has sent its first total before it asks for the
lock, and its second one before it lets go. So the call that is last to take
itself off finds all others off, reads back zero, and sends it after all others.

How far the calls have come is counted (`reached`), what is shared is told by
such counts (`InOrder`), and the turns of the calls keep it so.

Key definitions: `Stage`, `Task`, `reached`, `Turn`, `InOrder`.
Key theorems: `Task.turn`, `InOrder.turn_last`, `InOrder.turn_gauge`,
`InOrder.turn_self`, `InOrder.turn_other`, `InOrder.settled`.
-/
import Mathlib
import Telemetry.Simulation
import Telemetry.Proofs.LastSample

namespace Telemetry.Simulation

/-! ### Where a call stands -/

/-- What a call is about to do. -/
inductive Stage
  | arriving
  /-- To add itself to the pending calls. -/
  | raising
  /-- The same, after the look-up of the total found none. -/
  | missing
  /-- To send the total with itself in it. -/
  | raised
  /-- To acquire the lock. -/
  | waiting
  /-- To take itself off the pending calls. -/
  | lowering
  /-- To send the total without itself. -/
  | lowered
  | answering
  /-- To let go of the lock. -/
  | leaving
  | gone
deriving DecidableEq

/-- How many actions of a call are behind it. -/
def Stage.position : Stage → ℕ
  | .arriving => 0
  | .raising | .missing => 1
  | .raised => 2
  | .waiting => 3
  | .lowering => 4
  | .lowered => 5
  | .answering => 6
  | .leaving => 7
  | .gone => 8

/-- A call under way, with the total that it read back last. -/
structure Task where
  actorType : String
  stage : Stage
  total : Int32

/-- The worker that is left of a call. -/
def Task.toWorker (now : Instant) (t : Task) : Worker where
  actions :=
    match t.stage with
    | .missing => .insert t.actorType 1 :: (worker now t.actorType).actions.drop 2
    | stage => (worker now t.actorType).actions.drop stage.position
  total := t.total

theorem Task.gone_of_actions {now : Instant} {t : Task} (h : (t.toWorker now).actions = []) :
    t.stage = .gone := by
  obtain ⟨actorType, stage, total⟩ := t
  cases stage with
  | gone => rfl
  | _ => cases h

/-- How many of the tasks have come to a stage or further. -/
def reached (s : Stage) (tasks : List Task) : ℕ :=
  tasks.countP fun t => s.position ≤ t.stage.position

section Reached

variable {s u : Stage} {tasks : List Task}

theorem reached_cons (s : Stage) (t : Task) (tasks : List Task) :
    reached s (t :: tasks) = reached s tasks + if s.position ≤ t.stage.position then 1 else 0 := by
  rw [reached, List.countP_cons, reached]
  simp only [decide_eq_true_eq]

theorem reached_perm {others : List Task} (h : tasks.Perm others) :
    reached s tasks = reached s others := h.countP_eq _

theorem reached_le_length (s : Stage) (tasks : List Task) : reached s tasks ≤ tasks.length :=
  List.countP_le_length

/-- Fewer tasks have come further. -/
theorem reached_anti (tasks : List Task) (h : s.position ≤ u.position) :
    reached u tasks ≤ reached s tasks := by
  refine List.countP_mono_left fun t _ ht => ?_
  rw [decide_eq_true_eq] at ht ⊢
  exact le_trans h ht

/-- A task that stands in between has come to the one stage and not to the
other. -/
theorem reached_lt {t : Task} (ht : t ∈ tasks) (hs : s.position ≤ t.stage.position)
    (hu : t.stage.position < u.position) : reached u tasks < reached s tasks := by
  obtain ⟨front, back, rfl⟩ := List.append_of_mem ht
  have hperm : (front ++ t :: back).Perm (t :: (front ++ back)) := List.perm_middle
  have hrest : reached u (front ++ back) ≤ reached s (front ++ back) :=
    reached_anti _ (le_trans hs (le_of_lt hu))
  rw [reached_perm hperm, reached_perm hperm, reached_cons, reached_cons,
    if_neg (not_le.mpr hu), if_pos hs]
  omega

theorem reached_eq_zero (h : ∀ t ∈ tasks, t.stage = .arriving) (hs : 0 < s.position) :
    reached s tasks = 0 := by
  refine List.countP_eq_zero.mpr fun t ht => ?_
  rw [h t ht, decide_eq_true_eq, not_le]
  exact hs

theorem reached_eq_length (h : ∀ t ∈ tasks, t.stage = .gone) (s : Stage) :
    reached s tasks = tasks.length := by
  refine List.countP_eq_length.mpr fun t ht => ?_
  rw [h t ht, decide_eq_true_eq]
  cases s <;> decide

/-- How many of the tasks have added themselves and not yet taken themselves
off. -/
def pending (tasks : List Task) : ℕ :=
  tasks.countP fun t =>
    Stage.raised.position ≤ t.stage.position ∧ t.stage.position < Stage.lowered.position

theorem pending_cons (t : Task) (tasks : List Task) :
    pending (t :: tasks) = pending tasks +
      if Stage.raised.position ≤ t.stage.position ∧ t.stage.position < Stage.lowered.position
        then 1 else 0 := by
  rw [pending, List.countP_cons, pending]
  simp only [decide_eq_true_eq]

theorem pending_add_reached : ∀ tasks : List Task,
    pending tasks + reached .lowered tasks = reached .raised tasks
  | [] => rfl
  | t :: tasks => by
    have ih := pending_add_reached tasks
    have horder : Stage.raised.position ≤ Stage.lowered.position := by decide
    rw [pending_cons, reached_cons, reached_cons]
    split_ifs <;> omega

theorem pending_le_length (tasks : List Task) : pending tasks ≤ tasks.length :=
  List.countP_le_length

end Reached

/-! ### One turn of a call -/

/-- The sample that counts a request. -/
def requestSample (appId : String) : Sample :=
  (Measurement.count .requestReceived [appId, callerAppId]).sample

/-- The sample that counts a response. -/
def responseSample (appId : String) : Sample :=
  (Measurement.count .responseSent [appId, callerAppId, statusTag 200]).sample

/-- What the next action of a call sends. -/
def Task.sends (appId : String) (t : Task) : List Sample :=
  match t.stage with
  | .arriving => [requestSample appId]
  | .raised | .lowered => [RuntimeEvent.pendingSample appId t.actorType t.total]
  | .answering => [responseSample appId]
  | _ => []

/-- A turn that takes a call on to its next stage. -/
inductive Turn (appId : String) (w : Workload) : Task → Workload → Task → Prop
  | arrive (a : String) (total : Int32) :
      Turn appId w ⟨a, .arriving, total⟩ { w with samples := w.samples.push (requestSample appId) }
        ⟨a, .raising, total⟩
  | miss (a : String) (total : Int32) :
      Turn appId w ⟨a, .raising, total⟩ w ⟨a, .missing, total⟩
  | raise (a : String) (total : Int32) {now : Int32} (hnow : now = w.backlog.total a + 1) :
      Turn appId w ⟨a, .raising, total⟩ { w with backlog := w.backlog.add a 1 } ⟨a, .raised, now⟩
  | insert (a : String) (total : Int32) {now : Int32} (hnow : now = w.backlog.total a + 1) :
      Turn appId w ⟨a, .missing, total⟩ { w with backlog := w.backlog.add a 1 } ⟨a, .raised, now⟩
  | sendRaised (a : String) (total : Int32) :
      Turn appId w ⟨a, .raised, total⟩
        { w with samples := w.samples.push (RuntimeEvent.pendingSample appId a total) }
        ⟨a, .waiting, total⟩
  | acquire (a : String) (total : Int32) (hfree : a ∉ w.locked) :
      Turn appId w ⟨a, .waiting, total⟩ { w with locked := a :: w.locked } ⟨a, .lowering, total⟩
  | lower (a : String) (total : Int32) {now : Int32} (hnow : now = w.backlog.total a + -1) :
      Turn appId w ⟨a, .lowering, total⟩ { w with backlog := w.backlog.add a (-1) }
        ⟨a, .lowered, now⟩
  | sendLowered (a : String) (total : Int32) :
      Turn appId w ⟨a, .lowered, total⟩
        { w with samples := w.samples.push (RuntimeEvent.pendingSample appId a total) }
        ⟨a, .answering, total⟩
  | answer (a : String) (total : Int32) :
      Turn appId w ⟨a, .answering, total⟩
        { w with samples := w.samples.push (responseSample appId) } ⟨a, .leaving, total⟩
  | release (a : String) (total : Int32) :
      Turn appId w ⟨a, .leaving, total⟩ { w with locked := w.locked.erase a } ⟨a, .gone, total⟩

section Turn

variable {appId : String} {w w' : Workload} {t t' : Task}

/-- A call that is not gone has a next action, which is a turn, or has no effect
because the lock is held. A call that takes itself off needs the total that it
added itself to. -/
theorem Task.turn (appId : String) (now : Instant) (w : Workload) (t : Task)
    (hlowering : t.stage = .lowering → (w.backlog.total? t.actorType).isSome = true) :
    t.stage = .gone ∨ ∃ action rest, t.toWorker now = ⟨action :: rest, t.total⟩ ∧
      (w.perform appId t.total rest action = (w, t.toWorker now) ∨
        ∃ w' t', w.perform appId t.total rest action = (w', t'.toWorker now) ∧
          Turn appId w t w' t') := by
  obtain ⟨a, stage, total⟩ := t
  have hold : ∀ {old}, w.backlog.total? a = some old → w.backlog.total a = old := fun h => by
    rw [Backlog.total, h]
    rfl
  cases stage with
  | arriving => exact Or.inr ⟨_, _, rfl, Or.inr ⟨_, _, rfl, .arrive a total⟩⟩
  | raising =>
    cases htotal : w.backlog.total? a with
    | none =>
      refine Or.inr ⟨_, _, rfl, Or.inr ⟨_, _, ?_, .miss a total⟩⟩
      simp only [Workload.perform, htotal]
      rfl
    | some old =>
      refine Or.inr ⟨_, _, rfl, Or.inr ⟨_, _, ?_, .raise a total rfl⟩⟩
      simp only [Workload.perform, htotal, hold htotal]
      rfl
  | missing => exact Or.inr ⟨_, _, rfl, Or.inr ⟨_, _, rfl, .insert a total rfl⟩⟩
  | raised => exact Or.inr ⟨_, _, rfl, Or.inr ⟨_, _, rfl, .sendRaised a total⟩⟩
  | waiting =>
    refine Or.inr ⟨_, _, rfl, ?_⟩
    by_cases hlocked : a ∈ w.locked
    · exact Or.inl (if_pos hlocked)
    · refine Or.inr ⟨_, _, ?_, .acquire a total hlocked⟩
      exact if_neg hlocked
  | lowering =>
    obtain ⟨old, htotal⟩ := Option.isSome_iff_exists.mp (hlowering rfl)
    refine Or.inr ⟨_, _, rfl, Or.inr ⟨_, _, ?_, .lower a total rfl⟩⟩
    simp only [Workload.perform, htotal, hold htotal]
    rfl
  | lowered => exact Or.inr ⟨_, _, rfl, Or.inr ⟨_, _, rfl, .sendLowered a total⟩⟩
  | answering => exact Or.inr ⟨_, _, rfl, Or.inr ⟨_, _, rfl, .answer a total⟩⟩
  | leaving => exact Or.inr ⟨_, _, rfl, Or.inr ⟨_, _, rfl, .release a total⟩⟩
  | gone => exact Or.inl rfl

theorem Turn.actorType (h : Turn appId w t w' t') : t'.actorType = t.actorType := by
  cases h <;> rfl

theorem Turn.samples (h : Turn appId w t w' t') :
    w'.samples.toList = w.samples.toList ++ t.sends appId := by
  cases h with
  | arrive | sendRaised | sendLowered | answer => exact Array.toList_push
  | _ => exact (List.append_nil _).symm

end Turn

/-! ### The calls of one actor type -/

/-- A total between zero and the number of calls, if totals go that far. -/
def Within (calls : ℕ) (total : Int32) : Prop :=
  calls ≤ 2147483647 → 0 ≤ total.toInt ∧ total.toInt ≤ calls

theorem within_ofNat {calls k : ℕ} (h : k ≤ calls) : Within calls (Int32.ofNat k) := by
  intro hcalls
  have hround : (Int32.ofNat k).toInt = k := Int32.toInt_ofNat_of_lt (by omega)
  omega

theorem ofNat_add_one (k : ℕ) : Int32.ofNat k + 1 = Int32.ofNat (k + 1) := by
  rw [Int32.ofNat_add]
  rfl

theorem ofNat_sub_one (k : ℕ) : Int32.ofNat (k + 1) + -1 = Int32.ofNat k := by
  rw [← ofNat_add_one, Int32.add_assoc]
  exact Int32.add_zero _

/-- The values that the gauge of the actor type was given. -/
def pendingValues (a : String) (w : Workload) : List Value :=
  w.samples.toList.filterMap (Sample.pendingTotal? a)

theorem gauge?_eq (a : String) (w : Workload) :
    gauge? a w.samples.toList = (pendingValues a w).getLast? := rfl

/-- How the calls of one actor type stand to what is shared. -/
structure InOrder (a : String) (w : Workload) (own : List Task) : Prop where
  total : w.backlog.total? a =
    if reached .raised own = 0 then none else some (Int32.ofNat (pending own))
  /-- The lock is held by the calls that have acquired and not released it. -/
  locked : w.locked.count a + reached .gone own = reached .lowering own
  /-- There is one such call at most. -/
  exclusive : w.locked.count a ≤ 1
  /-- If all calls have taken themselves off, one that has still to send its
  total is to send zero. -/
  last : ∀ t ∈ own, t.stage = .lowered → reached .lowered own = own.length → t.total = 0
  /-- The gauge shows zero once all totals are sent. -/
  gauge : 0 < own.length → reached .answering own = own.length →
    gauge? a w.samples.toList = some (.int 0)
  /-- Totals that are to be sent are between zero and the number of calls. -/
  owed : ∀ t ∈ own, t.stage = .raised ∨ t.stage = .lowered → Within own.length t.total
  /-- So are those that were sent. -/
  sent : ∀ v ∈ pendingValues a w, ∃ total : Int32, v = .int total.toInt64 ∧ Within own.length total

section InOrder

variable {appId a : String} {w w' : Workload} {own rest : List Task} {t t' : Task}

/-- Calls that have not started. -/
theorem inOrder_of_arriving (hown : ∀ t ∈ own, t.stage = .arriving)
    (htotal : w.backlog.total? a = none) (hsamples : w.samples = #[]) (hlocked : w.locked = []) :
    InOrder a w own where
  total := by
    rw [reached_eq_zero hown (by decide), if_pos rfl, htotal]
  locked := by
    rw [reached_eq_zero hown (by decide), reached_eq_zero hown (by decide), hlocked]
    rfl
  exclusive := by
    rw [hlocked]
    exact Nat.zero_le 1
  last t ht hlowered := by
    rw [hown t ht] at hlowered
    cases hlowered
  gauge hpos hall := by
    rw [reached_eq_zero hown (by decide)] at hall
    omega
  owed t ht howes := by
    rw [hown t ht] at howes
    rcases howes with howes | howes
    · cases howes
    · cases howes
  sent v hv := by
    rw [pendingValues, hsamples] at hv
    cases hv

/-- The order of the calls does not matter. -/
theorem InOrder.perm {others : List Task} (h : InOrder a w own) (hperm : own.Perm others) :
    InOrder a w others where
  total := by
    rw [pending, ← reached_perm hperm, ← hperm.countP_eq]
    exact h.total
  locked := by
    rw [← reached_perm hperm, ← reached_perm hperm]
    exact h.locked
  exclusive := h.exclusive
  last t ht hlowered hall := by
    rw [← reached_perm hperm, ← hperm.length_eq] at hall
    exact h.last t (hperm.mem_iff.mpr ht) hlowered hall
  gauge hpos hall := by
    rw [← reached_perm hperm, ← hperm.length_eq] at hall
    exact h.gauge (by rw [hperm.length_eq]; exact hpos) hall
  owed t ht howes := by
    rw [← hperm.length_eq]
    exact h.owed t (hperm.mem_iff.mpr ht) howes
  sent := by
    rw [← hperm.length_eq]
    exact h.sent

/-- What bears on the calls of one actor type. -/
theorem InOrder.of_shared (h : InOrder a w own) (htotal : w'.backlog.total? a = w.backlog.total? a)
    (hlocked : w'.locked.count a = w.locked.count a)
    (hvalues : pendingValues a w' = pendingValues a w) : InOrder a w' own where
  total := by rw [htotal, h.total]
  locked := by rw [hlocked, h.locked]
  exclusive := by rw [hlocked]; exact h.exclusive
  last := h.last
  gauge hpos hall := by
    rw [gauge?_eq, hvalues]
    exact h.gauge hpos hall
  owed := h.owed
  sent := by
    rw [hvalues]
    exact h.sent

theorem InOrder.total_eq (h : InOrder a w own) : w.backlog.total a = Int32.ofNat (pending own) := by
  rw [Backlog.total, h.total]
  have hsum := pending_add_reached own
  by_cases hnone : reached .raised own = 0
  · have hzero : pending own = 0 := by omega
    rw [if_pos hnone, hzero]
    rfl
  · rw [if_neg hnone]
    rfl

/-- The total, by what the other calls are and whether this one is pending. -/
theorem InOrder.total_cons (h : InOrder a w (t :: rest)) : w.backlog.total a =
    Int32.ofNat (pending rest +
      if Stage.raised.position ≤ t.stage.position ∧ t.stage.position < Stage.lowered.position
      then 1 else 0) := by
  rw [h.total_eq, pending_cons]

/-! ### A turn keeps them in order -/

/-- The gauge is given the totals that are to be sent, and nothing else. -/
theorem Turn.pendingValues_eq (h : Turn appId w t w' t') (a : String) :
    pendingValues a w' = pendingValues a w ++
      if (t.stage = .raised ∨ t.stage = .lowered) ∧ t.actorType = a then [.int t.total.toInt64]
      else [] := by
  have hcount : ∀ {i : Instrument} {tagValues : List String}, i ≠ .pendingCalls →
      [(Measurement.count i tagValues).sample].filterMap (Sample.pendingTotal? a) = [] :=
    fun hi => List.filterMap_cons_none (Sample.pendingTotal?_of_ne hi _ _ a)
  rw [pendingValues, h.samples, List.filterMap_append]
  obtain ⟨b, stage, total⟩ := t
  cases stage with
  | arriving => rw [Task.sends, requestSample, hcount (by decide)]; rfl
  | answering => rw [Task.sends, responseSample, hcount (by decide)]; rfl
  | raised | lowered =>
    rw [Task.sends, List.filterMap_cons, RuntimeEvent.pendingTotal?_pendingSample]
    by_cases hb : b = a
    · simp [pendingValues, hb]
    · simp [pendingValues, hb]
  | _ => rfl

/-- A call of one actor type bears on nothing of the others. -/
theorem InOrder.turn_other (h : InOrder a w own) (hturn : Turn appId w t w' t')
    (ht : t.actorType ≠ a) : InOrder a w' own := by
  refine h.of_shared ?_ ?_ ?_
  · cases hturn with
    | raise | insert | lower => rw [Backlog.total?_add, if_neg (Ne.symm ht)]
    | _ => rfl
  · cases hturn with
    | acquire => exact List.count_cons_of_ne ht
    | release => exact List.count_erase_of_ne (Ne.symm ht)
    | _ => rfl
  · rw [hturn.pendingValues_eq, if_neg fun hsend => ht hsend.2, List.append_nil]

section Own

variable (h : InOrder t.actorType w (t :: rest)) (hturn : Turn appId w t w' t')

include h hturn

theorem InOrder.turn_total : w'.backlog.total? t.actorType =
    if reached .raised (t' :: rest) = 0 then none
    else some (Int32.ofNat (pending (t' :: rest))) := by
  have hold := h.total
  have htotal := h.total_cons
  cases hturn with
  | raise a total | insert a total =>
    have hothers : w.backlog.total a = Int32.ofNat (pending rest) := htotal
    rw [Backlog.total?_add, if_pos rfl, hothers, ofNat_add_one, reached_cons, pending_cons]
    rfl
  | lower a total =>
    have hothers : w.backlog.total a = Int32.ofNat (pending rest + 1) := htotal
    rw [Backlog.total?_add, if_pos rfl, hothers, ofNat_sub_one, reached_cons, pending_cons]
    rfl
  | _ => simpa [reached_cons, pending_cons, Stage.position] using hold

theorem InOrder.turn_locked :
    w'.locked.count t.actorType + reached .gone (t' :: rest) = reached .lowering (t' :: rest) := by
  have hold := h.locked
  cases hturn with
  | acquire a total hfree =>
    have hothers : w.locked.count a + reached .gone rest = reached .lowering rest := by
      simpa [reached_cons, Stage.position] using hold
    calc (a :: w.locked).count a + reached .gone (⟨a, .lowering, total⟩ :: rest)
        = w.locked.count a + 1 + reached .gone rest := by simp [reached_cons, Stage.position]
      _ = reached .lowering rest + 1 := by omega
      _ = reached .lowering (⟨a, .lowering, total⟩ :: rest) := by
        simp [reached_cons, Stage.position]
  | release a total =>
    have hothers : w.locked.count a + reached .gone rest = reached .lowering rest + 1 := by
      simpa [reached_cons, Stage.position] using hold
    have hgone : reached .gone rest ≤ reached .lowering rest := reached_anti rest (by decide)
    calc (w.locked.erase a).count a + reached .gone (⟨a, .gone, total⟩ :: rest)
        = w.locked.count a - 1 + (reached .gone rest + 1) := by simp [reached_cons, Stage.position]
      _ = reached .lowering rest + 1 := by omega
      _ = reached .lowering (⟨a, .gone, total⟩ :: rest) := by simp [reached_cons, Stage.position]
  | _ => simpa [reached_cons, Stage.position] using hold

theorem InOrder.turn_exclusive : w'.locked.count t.actorType ≤ 1 := by
  have hold := h.exclusive
  cases hturn with
  | acquire a total hfree =>
    rw [List.count_cons_self, List.count_eq_zero_of_not_mem hfree]
  | release a total =>
    rw [List.count_erase_self]
    omega
  | _ => exact hold

/-- The call that is last to take itself off reads back zero. -/
theorem InOrder.turn_last : ∀ u ∈ t' :: rest, u.stage = .lowered →
    reached .lowered (t' :: rest) = (t' :: rest).length → u.total = 0 := by
  intro u hu hlowered hall
  rcases List.mem_cons.mp hu with rfl | hmem
  · -- all the others are off already, so this call was the only one pending
    have htotal := h.total_cons
    cases hturn with
    | lower a total hnow =>
      have hothers : reached .lowered rest = rest.length := by
        simpa [reached_cons, Stage.position] using hall
      have hsum := pending_add_reached rest
      have hle := reached_le_length .raised rest
      have hnone : pending rest = 0 := by omega
      have hone : w.backlog.total a = Int32.ofNat (pending rest + 1) := htotal
      rw [hnow, hone, ofNat_sub_one, hnone]
      rfl
    | _ => cases hlowered
  · refine h.last u (List.mem_cons_of_mem _ hmem) hlowered ?_
    have hlocked := h.locked
    have hexclusive := h.exclusive
    cases hturn with
    | lower a total =>
      -- this call and `u` would both hold the lock
      have hother : reached .gone rest < reached .lowering rest :=
        reached_lt hmem (by rw [hlowered]; decide) (by rw [hlowered]; decide)
      have hboth : w.locked.count a + reached .gone rest = reached .lowering rest + 1 := by
        simpa [reached_cons, Stage.position] using hlocked
      have hone : w.locked.count a ≤ 1 := hexclusive
      omega
    | _ => simpa [reached_cons, Stage.position] using hall

/-- The gauge shows zero once the last total is sent, and stays there. -/
theorem InOrder.turn_gauge : reached .answering (t' :: rest) = (t' :: rest).length →
    gauge? t.actorType w'.samples.toList = some (.int 0) := by
  intro hall
  have hle := reached_le_length .answering rest
  rw [gauge?_eq, hturn.pendingValues_eq]
  cases hturn with
  | sendLowered a total =>
    have hothers : reached .answering rest = rest.length := by
      simpa [reached_cons, Stage.position] using hall
    have hlowered : reached .lowered rest = rest.length := by
      have hmore : reached .answering rest ≤ reached .lowered rest := reached_anti rest (by decide)
      have hmost := reached_le_length .lowered rest
      omega
    have hmine : total = 0 := by
      refine h.last _ List.mem_cons_self rfl ?_
      simpa [reached_cons, Stage.position] using hlowered
    simp [hmine]
  | answer a total | release a total =>
    rw [if_neg (by simp), List.append_nil]
    refine h.gauge (Nat.succ_pos _) ?_
    simpa [reached_cons, Stage.position] using hall
  | _ =>
    -- the call itself has yet to send its second total
    have hothers : reached .answering rest = rest.length + 1 := by
      simpa [reached_cons, Stage.position] using hall
    omega

theorem InOrder.turn_owed : ∀ u ∈ t' :: rest, u.stage = .raised ∨ u.stage = .lowered →
    Within (t' :: rest).length u.total := by
  intro u hu howes
  have htotal := h.total_cons
  have hle := pending_le_length rest
  rcases List.mem_cons.mp hu with rfl | hu
  · cases hturn with
    | raise a total hnow | insert a total hnow =>
      have hothers : w.backlog.total a = Int32.ofNat (pending rest) := htotal
      rw [hnow, hothers, ofNat_add_one]
      exact within_ofNat (Nat.succ_le_succ hle)
    | lower a total hnow =>
      have hothers : w.backlog.total a = Int32.ofNat (pending rest + 1) := htotal
      rw [hnow, hothers, ofNat_sub_one]
      exact within_ofNat (Nat.le_succ_of_le hle)
    | _ =>
      rcases howes with howes | howes
      · cases howes
      · cases howes
  · exact h.owed u (List.mem_cons_of_mem _ hu) howes

theorem InOrder.turn_sent : ∀ v ∈ pendingValues t.actorType w',
    ∃ total : Int32, v = .int total.toInt64 ∧ Within (t' :: rest).length total := by
  intro v hv
  rw [hturn.pendingValues_eq] at hv
  rcases List.mem_append.mp hv with hv | hv
  · exact h.sent v hv
  · split at hv
    · next hsend =>
      rw [List.mem_singleton.mp hv]
      exact ⟨t.total, rfl, h.owed t List.mem_cons_self hsend.1⟩
    · cases hv

/-- A turn of a call keeps the calls of its actor type in order. -/
theorem InOrder.turn_self : InOrder t.actorType w' (t' :: rest) where
  total := h.turn_total hturn
  locked := h.turn_locked hturn
  exclusive := h.turn_exclusive hturn
  last := h.turn_last hturn
  gauge _ := h.turn_gauge hturn
  owed := h.turn_owed hturn
  sent := h.turn_sent hturn

end Own

/-- Where the calls of one actor type are all gone, none is pending. -/
theorem InOrder.settled (h : InOrder a w own)
    (hgone : ∀ t ∈ own, t.stage = .gone) :
    (w.backlog.total? a = if own.length = 0 then none else some 0) ∧
      (0 < own.length → gauge? a w.samples.toList = some (.int 0)) := by
  have hsum := pending_add_reached own
  have hraised := reached_eq_length hgone .raised
  have hlowered := reached_eq_length hgone .lowered
  have hpending : pending own = 0 := by omega
  refine ⟨?_, fun hpos => h.gauge hpos (reached_eq_length hgone .answering)⟩
  rw [h.total, hraised, hpending]
  rfl

end InOrder

end Telemetry.Simulation
