/-
# The simulated runtime comes to rest

Whatever the interleaving of its calls, the runtime ends with no pending calls,
with the gauge of every actor type at zero, and with each call counted once as a
request and once as a response (`calls_settle`). The calls of one actor type are
in order (`InOrder`), those of the others bear on nothing of theirs, and so a
turn of any worker keeps the calls of all actor types in order
(`Serving.step`). On the way no total is ever sent that is not one of a number
of calls.

Key definitions: `samplesOf`, `Serving`, `Ready`, `opened`.
Key theorems: `updates_of_samplesOf`, `Serving.step`, `serving_run`,
`Serving.settled`, `Ready.work`, `calls_settle`.
-/
import Mathlib
import Telemetry.Proofs.Queueing

namespace Telemetry

/-! ### Samples of one instrument -/

/-- The samples of an instrument. -/
def samplesOf (i : Instrument) (samples : List Sample) : List Sample :=
  samples.filter fun s => s.name = i.name

theorem samplesOf_append (i : Instrument) (xs ys : List Sample) :
    samplesOf i (xs ++ ys) = samplesOf i xs ++ samplesOf i ys := List.filter_append ..

theorem samplesOf_of_name {i j : Instrument} {s : Sample} (h : s.name = j.name) :
    samplesOf i [s] = if j = i then [s] else [] := by
  have hiff : s.name = i.name ↔ j = i := by
    rw [h]
    exact ⟨Instrument.name_injective, congrArg Instrument.name⟩
  rw [samplesOf, List.filter_cons, List.filter_nil]
  simp only [hiff, decide_eq_true_eq]

theorem Mirrors.name {s : Sample} {u : Update} (h : Mirrors s u) : u.name = s.name := by
  cases h <;> rfl

theorem Mirrors.eq_increment {s : Sample} {u : Update} (h : Mirrors s u) {i : Instrument}
    (hs : s.name = i.name) (hi : i.kind = .counter) : u = .increment s.name s.tags 1 := by
  cases h with
  | counter => rfl
  | gauge j hj | histogram j hj =>
    rw [Instrument.name_injective hs, hi] at hj
    cases hj

/-- A counter is incremented once for each of its samples. -/
theorem updates_of_samplesOf {samples : List Sample} {updates : List Update}
    (h : List.Forall₂ Mirrors samples updates) {i : Instrument} (hi : i.kind = .counter) :
    (updates.filter fun u => u.name = i.name) =
      (samplesOf i samples).map fun s => .increment s.name s.tags 1 := by
  induction h with
  | nil => rfl
  | @cons s u samples updates hsu hrest ih =>
    by_cases hs : s.name = i.name
    · have hu : u.name = i.name := hsu.name.trans hs
      rw [List.filter_cons_of_pos (by simpa using hu), ih, samplesOf, samplesOf,
        List.filter_cons_of_pos (by simpa using hs), List.map_cons, ← hsu.eq_increment hs hi]
    · have hu : ¬ u.name = i.name := fun hu => hs (hsu.name.symm.trans hu)
      rw [List.filter_cons_of_neg (by simpa using hu), ih, samplesOf, samplesOf,
        List.filter_cons_of_neg (by simpa using hs)]

namespace Simulation

/-! ### All calls together -/

/-- The calls that are under way, in any order. -/
structure Serving (appId : String) (now : Instant) (w : Workload) (tasks : List Task) : Prop where
  workers : w.workers.toList.Perm (tasks.map (Task.toWorker now))
  inOrder : ∀ a, InOrder a w (tasks.filter fun t => t.actorType = a)
  requests : samplesOf .requestReceived w.samples.toList =
    List.replicate (reached .raising tasks) (requestSample appId)
  responses : samplesOf .responseSent w.samples.toList =
    List.replicate (reached .leaving tasks) (responseSample appId)
  /-- Samples are those of the catalogue. -/
  ofInstrument : ∀ s ∈ w.samples.toList, s.OfInstrument

section Serving

variable {appId : String} {now : Instant} {w w' : Workload} {tasks rest : List Task} {t t' : Task}

theorem Serving.perm {others : List Task} (h : Serving appId now w tasks)
    (hperm : tasks.Perm others) : Serving appId now w others where
  workers := h.workers.trans (hperm.map _)
  inOrder a := (h.inOrder a).perm (hperm.filter _)
  requests := by
    rw [← reached_perm hperm]
    exact h.requests
  responses := by
    rw [← reached_perm hperm]
    exact h.responses
  ofInstrument := h.ofInstrument

/-- A call counts its request in its first action and its response in its last
but one, and sends nothing else for these two instruments. -/
theorem Turn.counts (h : Turn appId w t w' t')
    (hrequests : samplesOf .requestReceived w.samples.toList =
      List.replicate (reached .raising (t :: rest)) (requestSample appId))
    (hresponses : samplesOf .responseSent w.samples.toList =
      List.replicate (reached .leaving (t :: rest)) (responseSample appId)) :
    samplesOf .requestReceived w'.samples.toList =
        List.replicate (reached .raising (t' :: rest)) (requestSample appId) ∧
      samplesOf .responseSent w'.samples.toList =
        List.replicate (reached .leaving (t' :: rest)) (responseSample appId) := by
  rw [h.samples, samplesOf_append, samplesOf_append, hrequests, hresponses]
  have hpending : ∀ {i a total}, i ≠ .pendingCalls →
      samplesOf i [RuntimeEvent.pendingSample appId a total] = [] := fun hi => by
    rw [samplesOf_of_name rfl, RuntimeEvent.instrument_pendingTotal, if_neg (Ne.symm hi)]
  cases h with
  | arrive a total =>
    rw [Task.sends, samplesOf_of_name rfl, samplesOf_of_name rfl]
    simp [reached_cons, Stage.position, List.replicate_succ']
  | answer a total =>
    rw [Task.sends, samplesOf_of_name rfl, samplesOf_of_name rfl]
    simp [reached_cons, Stage.position, List.replicate_succ']
  | sendRaised a total | sendLowered a total =>
    rw [Task.sends, hpending (by decide), hpending (by decide)]
    simp [reached_cons, Stage.position]
  | _ => simp [reached_cons, Stage.position, Task.sends, samplesOf]

theorem Task.ofInstrument_of_mem_sends {s : Sample} (h : s ∈ t.sends appId) : s.OfInstrument := by
  obtain ⟨a, stage, total⟩ := t
  cases stage with
  | arriving | answering =>
    rw [List.mem_singleton.mp h]
    exact Measurement.ofInstrument_count _ _
  | raised | lowered =>
    rw [List.mem_singleton.mp h]
    exact Measurement.ofInstrument_sample (by decide) _ _
  | _ => cases h

/-- The workers after one of them is replaced. -/
theorem workers_set {f : Task → Worker} {i : ℕ} (h : w.workers.toList.Perm ((t :: rest).map f))
    (hw : w.workers[i]? = some (f t)) (x : Worker) :
    (w.workers.setIfInBounds i x).toList.Perm (x :: rest.map f) := by
  obtain ⟨hi, hget⟩ := Array.getElem?_eq_some_iff.mp hw
  have hlength : i < w.workers.toList.length := hi
  have hsplit : (f t :: w.workers.toList.eraseIdx i).Perm (f t :: rest.map f) := by
    rw [← hget]
    exact (List.getElem_cons_eraseIdx_perm hlength).trans (hget ▸ h)
  rw [Array.toList_setIfInBounds]
  exact (List.set_perm_cons_eraseIdx hlength x).trans (hsplit.cons_inv.cons x)

/-- A turn takes one of the calls on. -/
theorem Serving.turn {x : Array Worker} (h : Serving appId now w (t :: rest))
    (hturn : Turn appId w t w' t')
    (hworkers : x.toList.Perm ((t' :: rest).map (Task.toWorker now))) :
    Serving appId now { w' with workers := x } (t' :: rest) where
  workers := hworkers
  inOrder a := by
    have hold := h.inOrder a
    suffices hnew : InOrder a w' ((t' :: rest).filter fun t => t.actorType = a) from
      hnew.of_shared rfl rfl rfl
    by_cases ht : t.actorType = a
    · subst ht
      rw [List.filter_cons_of_pos (by simp)] at hold
      rw [List.filter_cons_of_pos (by simp [hturn.actorType])]
      exact hold.turn_self hturn
    · rw [List.filter_cons_of_neg (by simpa using ht)] at hold
      rw [List.filter_cons_of_neg (by simpa [hturn.actorType] using ht)]
      exact hold.turn_other hturn ht
  requests := (hturn.counts h.requests h.responses).1
  responses := (hturn.counts h.requests h.responses).2
  ofInstrument s hs := by
    have hmem : s ∈ w.samples.toList ++ t.sends appId := hturn.samples ▸ hs
    rcases List.mem_append.mp hmem with hmem | hmem
    · exact h.ofInstrument s hmem
    · exact Task.ofInstrument_of_mem_sends hmem

/-- A call that is about to take itself off has added itself. -/
theorem Serving.isSome_total? (h : Serving appId now w (t :: rest)) (ht : t.stage = .lowering) :
    (w.backlog.total? t.actorType).isSome = true := by
  have hsome : reached .raised ((t :: rest).filter fun u => u.actorType = t.actorType) ≠ 0 := by
    rw [List.filter_cons_of_pos (by simp), reached_cons, ht]
    exact Nat.succ_ne_zero _
  rw [(h.inOrder t.actorType).total, if_neg hsome]
  rfl

/-- A worker is what is left of one of the calls. -/
theorem Serving.exists_call (h : Serving appId now w tasks) {i : ℕ} {worker : Worker}
    (hw : w.workers[i]? = some worker) :
    ∃ t rest, worker = t.toWorker now ∧ tasks.Perm (t :: rest) := by
  have hmem : worker ∈ tasks.map (Task.toWorker now) := by
    rw [← h.workers.mem_iff, Array.mem_toList_iff]
    exact Array.mem_of_getElem? hw
  obtain ⟨t, ht, rfl⟩ := List.mem_map.mp hmem
  obtain ⟨front, back, rfl⟩ := List.append_of_mem ht
  exact ⟨t, front ++ back, rfl, List.perm_middle⟩

/-- A turn of any worker, which may have nothing left to do or find the lock
held. -/
theorem Serving.step (h : Serving appId now w tasks) (i : ℕ) :
    ∃ tasks', Serving appId now (w.step appId i) tasks' ∧
      (tasks'.map Task.actorType).Perm (tasks.map Task.actorType) := by
  cases hw : w.workers[i]? with
  | none =>
    rw [Workload.step_of_none hw]
    exact ⟨tasks, h, .refl _⟩
  | some worker =>
    obtain ⟨t, others, rfl, hperm⟩ := h.exists_call hw
    have hfirst := h.perm hperm
    have htypes := (hperm.map Task.actorType).symm
    rcases t.turn appId now w hfirst.isSome_total? with
      hgone | ⟨action, rest, hactions, hidle | ⟨w', t', hperform, hturn⟩⟩
    · have hnil : w.workers[i]? = some ⟨[], t.total⟩ := by
        rw [hw, Task.toWorker, hgone]
        rfl
      rw [Workload.step_of_nil hnil]
      exact ⟨_, hfirst, htypes⟩
    · rw [Workload.step_of_cons appId (hw.trans (congrArg some hactions)), hidle]
      refine ⟨_, ⟨workers_set hfirst.workers hw _, fun a => ?_, ?_, ?_, ?_⟩, htypes⟩
      · exact (hfirst.inOrder a).of_shared rfl rfl rfl
      · exact hfirst.requests
      · exact hfirst.responses
      · exact hfirst.ofInstrument
    · rw [Workload.step_of_cons appId (hw.trans (congrArg some hactions)), hperform]
      refine ⟨_, hfirst.turn hturn (workers_set hfirst.workers hw _), ?_⟩
      rw [List.map_cons, hturn.actorType, ← List.map_cons]
      exact htypes

theorem serving_run (h : Serving appId now w tasks) (schedule : List ℕ) :
    ∃ tasks', Serving appId now (w.run appId schedule) tasks' ∧
      (tasks'.map Task.actorType).Perm (tasks.map Task.actorType) := by
  induction schedule generalizing w tasks with
  | nil => exact ⟨tasks, h, .refl _⟩
  | cons i schedule ih =>
    obtain ⟨between, hstep, hfirst⟩ := h.step i
    obtain ⟨tasks', hrun, hrest⟩ := ih hstep
    exact ⟨tasks', hrun, hrest.trans hfirst⟩

/-- When no worker has an action left, all calls are gone. -/
theorem Serving.gone (h : Serving appId now w tasks) (hdone : w.isDone = true) :
    ∀ t ∈ tasks, t.stage = .gone := by
  intro t ht
  have hmem : t.toWorker now ∈ w.workers.toList := by
    rw [h.workers.mem_iff]
    exact List.mem_map_of_mem ht
  obtain ⟨i, hi⟩ := List.getElem?_of_mem hmem
  rw [Array.getElem?_toList] at hi
  exact Task.gone_of_actions (Workload.actions_of_isDone hdone hi)

/-! ### The calls from start to end -/

/-- The calls of a run before any of them acts. -/
def newTasks (n : ℕ) : List Task :=
  actorTypes.flatMap fun a => List.replicate n ⟨a, .arriving, 0⟩

theorem count_newTasks (a : String) (n : ℕ) :
    ((newTasks n).map Task.actorType).count a = if a ∈ actorTypes then n else 0 := by
  by_cases ha : a ∈ actorTypes
  · rw [if_pos ha]
    simp only [actorTypes, List.mem_cons, List.not_mem_nil, or_false] at ha
    rcases ha with rfl | rfl | rfl <;> simp [newTasks, actorTypes, List.count_replicate]
  · rw [if_neg ha, List.count_eq_zero]
    intro hmem
    obtain ⟨t, ht, rfl⟩ := List.mem_map.mp hmem
    obtain ⟨b, hb, ht⟩ := List.mem_flatMap.mp ht
    rw [List.eq_of_mem_replicate ht] at ha
    exact ha hb

theorem length_newTasks (n : ℕ) : (newTasks n).length = 3 * n := by
  have hsum : (newTasks n).length = n + (n + n) := by simp [newTasks, actorTypes]
  omega

theorem serving_start (appId : String) (now : Instant) (n : ℕ) :
    Serving appId now { backlog := {}, workers := (workers now n).toArray } (newTasks n) := by
  have harriving : ∀ t ∈ newTasks n, t.stage = .arriving := by
    intro t ht
    obtain ⟨a, -, ht⟩ := List.mem_flatMap.mp ht
    rw [List.eq_of_mem_replicate ht]
  refine ⟨?_, fun a => ?_, ?_, ?_, fun s hs => ?_⟩
  · have hworkers : workers now n = (newTasks n).map (Task.toWorker now) := by
      rw [newTasks, List.map_flatMap]
      simp only [List.map_replicate]
      rfl
    rw [hworkers]
  · exact inOrder_of_arriving (fun t ht => harriving t (List.mem_of_mem_filter ht)) rfl rfl rfl
  · rw [reached_eq_zero harriving (by decide)]
    rfl
  · rw [reached_eq_zero harriving (by decide)]
    rfl
  · cases hs

section Types

variable {n : ℕ} (htypes : (tasks.map Task.actorType).Perm ((newTasks n).map Task.actorType))

include htypes

theorem length_own (a : String) :
    (tasks.filter fun t => t.actorType = a).length = if a ∈ actorTypes then n else 0 := by
  rw [← count_newTasks a n, ← htypes.count_eq, List.count, List.countP_map,
    List.countP_eq_length_filter]
  rfl

theorem length_tasks : tasks.length = 3 * n := by
  rw [← length_newTasks n, ← List.length_map Task.actorType, htypes.length_eq, List.length_map]

/-- The totals that were sent are each that of a number of calls. -/
theorem Serving.within (h : Serving appId now w tasks) (hn : n ≤ 2147483647) (a : String) :
    ∀ v ∈ pendingValues a w,
      ∃ total : Int32, v = .int total.toInt64 ∧ 0 ≤ total.toInt ∧ total.toInt ≤ n := by
  intro v hv
  obtain ⟨total, hvalue, hwithin⟩ := (h.inOrder a).sent v hv
  have hle : (if a ∈ actorTypes then n else 0) ≤ n := by split_ifs <;> omega
  rw [length_own htypes a] at hwithin
  obtain ⟨hzero, hmost⟩ := hwithin (le_trans hle hn)
  exact ⟨total, hvalue, hzero, le_trans hmost (by exact_mod_cast hle)⟩

/-- When no worker has an action left, nothing is pending, the gauges show zero,
and every call is counted. -/
theorem Serving.settled (h : Serving appId now w tasks) (hdone : w.isDone = true) :
    (∀ a ∈ actorTypes, (w.backlog.total? a = if n = 0 then none else some 0) ∧
      (0 < n → gauge? a w.samples.toList = some (.int 0))) ∧
    samplesOf .requestReceived w.samples.toList =
      List.replicate (3 * n) (requestSample appId) ∧
    samplesOf .responseSent w.samples.toList = List.replicate (3 * n) (responseSample appId) := by
  have hgone := h.gone hdone
  have hreached : ∀ s, reached s tasks = 3 * n := fun s => by
    rw [reached_eq_length hgone s, length_tasks htypes]
  refine ⟨fun a ha => ?_, ?_, ?_⟩
  · have hown := (h.inOrder a).settled fun t ht => hgone t (List.mem_of_mem_filter ht)
    rw [length_own htypes a, if_pos ha] at hown
    exact hown
  · rw [h.requests, hreached .raising]
  · rw [h.responses, hreached .leaving]

end Types

end Serving

/-! ### The site when the calls come in -/

/-- The monitor of the site is enabled, nothing is pending, and its backend
exports the whole catalogue. -/
structure Ready (f : Site) (appId : String) : Prop where
  monitor : f.monitors () = ⟨some ⟨appId, ()⟩, {}⟩
  backend : ∃ e : Exporter, f.backends () = .exporter e ∧ e.Covers

section Ready

variable {f : Site} {appId : String}

theorem ready_of_done {settings : Settings}
    (h : (site.step (.enableWith () () settings)).2.answer = .done) :
    Ready (site.step (.enableWith () () settings)).1 settings.appId := by
  cases hon : settings.enabled with
  | false =>
    rw [Fleet.step_enableWith_of_off hon] at h
    cases h
  | true =>
    have hreq : (Operation.enableWith () () settings : Operation Unit Unit).request? () =
        some (⟨settings.appId, ()⟩, settings.bounds) := if_pos ⟨rfl, hon⟩
    rcases Backend.register_new_exporter_cases settings.bounds with
      ⟨err, traffic, hr⟩ | ⟨e, traffic, hr, hcov⟩
    · rw [Fleet.step_of_refused (f := site) hreq rfl hr] at h
      cases h
    · rw [Fleet.step_of_taken (f := site) hreq rfl hr]
      exact ⟨rfl, e, rfl, hcov⟩

/-- An event that changes no total leaves the site ready. -/
theorem Ready.record (h : Ready f appId) {event : RuntimeEvent} (now : Instant)
    (hevent : ∀ b, event.updateBacklog b = b) :
    Ready (f.step (.record () event now)).1 appId := by
  obtain ⟨hmonitor, e, hbackend, hcov⟩ := h
  have hactive : (f.monitors ()).active? = some ⟨appId, ()⟩ := by rw [hmonitor]
  rw [Fleet.step_record_of_active hactive, hevent, hmonitor, hbackend]
  exact ⟨rfl, e, rfl, hcov⟩

theorem Ready.report (h : Ready f appId) (now : Instant) {events : List RuntimeEvent}
    (hevents : ∀ e ∈ events, ∀ b, e.updateBacklog b = b) :
    Ready (report f now events).1 appId := by
  induction events generalizing f with
  | nil => exact h
  | cons event events ih =>
    have hfirst := h.record now (hevents event List.mem_cons_self)
    exact ih hfirst fun e he => hevents e (List.mem_cons_of_mem _ he)

theorem ready_startup (h : Ready f appId) (now : Instant) :
    Ready (report f now startup).1 appId := by
  refine h.report now ?_
  simp [startup, actorTypes, RuntimeEvent.updateBacklog]

/-- The site when the calls come in. -/
def opened (settings : Settings) (start : Instant) : Site :=
  (report (site.step (.enableWith () () settings)).1 start startup).1

/-- Workers at a ready site: the totals that they leave, the samples that they
send, and what comes of these. -/
theorem Ready.work (h : Ready f appId) (workers : List Worker) (schedule : List ℕ) :
    let w := Workload.run appId { backlog := {}, workers := workers.toArray } schedule
    let served := f.work () workers schedule
    ((f.monitors ()).work workers schedule).2 = w.samples.toList ∧
      (served.1.monitors ()).backlog = w.backlog ∧
      ((∀ s ∈ w.samples.toList, s.OfInstrument) →
        List.Forall₂ Mirrors w.samples.toList served.2.traffic.updates) := by
  obtain ⟨hmonitor, e, hbackend, hcov⟩ := h
  have hactive : (f.monitors ()).active? = some ⟨appId, ()⟩ := by rw [hmonitor]
  intro w served
  have hserved : served = (f.setMonitor () ⟨some ⟨appId, ()⟩, w.backlog⟩).deliver ()
      w.samples.toList := by
    show f.work () workers schedule = _
    rw [Fleet.work, hactive, hmonitor]
    rfl
  refine ⟨?_, ?_, fun hcatalogue => ?_⟩
  · rw [hmonitor]
    rfl
  · rw [hserved]
    rfl
  · rw [hserved, Fleet.deliver, Fleet.setMonitor_backends, hbackend]
    exact (hcov.submit _ hcatalogue).1

end Ready

/-- **The calls settle.** The monitor of the simulated runtime is enabled, and
`n` calls for each actor type act in any interleaving. As long as `n` is no more
than the largest total, every total that is ever sent is between zero and `n`.
When all calls are gone, no actor type has pending calls left, and unless there
were no calls, its gauge was set to zero last. The requests of the caller and
the responses to it have then been counted once for each of the `3 * n` calls. -/
theorem calls_settle (settings : Settings) (start : Instant)
    (hon : (site.step (.enableWith () () settings)).2.answer = .done) (n : ℕ)
    (schedule : List ℕ) :
    let f := opened settings start
    let w := Workload.run settings.appId
      { backlog := (f.monitors ()).backlog, workers := (workers start n).toArray } schedule
    let samples := ((f.monitors ()).work (workers start n) schedule).2
    let served := f.work () (workers start n) schedule
    (n ≤ 2147483647 → ∀ a, ∀ v ∈ samples.filterMap (Sample.pendingTotal? a),
      ∃ total : Int32, v = .int total.toInt64 ∧ 0 ≤ total.toInt ∧ total.toInt ≤ n) ∧
    (w.isDone = true →
      (∀ a ∈ actorTypes, (served.1.monitors ()).backlog.total? a =
        if n = 0 then none else some 0) ∧
      (n ≠ 0 → ∀ a ∈ actorTypes, gauge? a samples = some (.int 0) ∧
        (served.2.traffic.updates.filterMap (Update.pendingTotal? a)).getLast? =
          some (.ofInt 0)) ∧
      (served.2.traffic.updates.filter fun u => u.name = Instrument.requestReceived.name) =
        List.replicate (3 * n) (.increment Instrument.requestReceived.name
          [⟨.appId, settings.appId⟩, ⟨.sourceAppId, callerAppId⟩] 1) ∧
      (served.2.traffic.updates.filter fun u => u.name = Instrument.responseSent.name) =
        List.replicate (3 * n) (.increment Instrument.responseSent.name
          [⟨.appId, settings.appId⟩, ⟨.destinationAppId, callerAppId⟩, ⟨.status, "200"⟩] 1)) := by
  intro f w samples served
  have hready : Ready f settings.appId := ready_startup (ready_of_done hon) start
  obtain ⟨hsamples, hbacklog, hmirrors⟩ := hready.work (workers start n) schedule
  obtain ⟨tasks, hserving, htypes⟩ := serving_run (serving_start settings.appId start n) schedule
  have hw : w = Workload.run settings.appId
      { backlog := {}, workers := (workers start n).toArray } schedule := by
    show Workload.run _ { backlog := (f.monitors ()).backlog, workers := _ } _ = _
    rw [hready.monitor]
  rw [← hw] at hsamples hbacklog hmirrors hserving
  have hmirror := hmirrors hserving.ofInstrument
  rw [show samples = _ from hsamples, show (served.1.monitors ()).backlog = _ from hbacklog]
  refine ⟨hserving.within htypes, fun hdone => ?_⟩
  obtain ⟨hsettled, hrequests, hresponses⟩ := hserving.settled htypes hdone
  refine ⟨fun a ha => (hsettled a ha).1, fun hn a ha => ?_, ?_, ?_⟩
  · have hgauge := (hsettled a ha).2 (Nat.pos_of_ne_zero hn)
    refine ⟨hgauge, ?_⟩
    rw [filterMap_pendingTotal?_of_mirrors hmirror, List.getLast?_map]
    exact congrArg (Option.map Value.toBinary64) hgauge
  · rw [updates_of_samplesOf hmirror rfl, hrequests, List.map_replicate]
    rfl
  · have hstatus : statusTag 200 = "200" := by decide +kernel
    rw [updates_of_samplesOf hmirror rfl, hresponses, List.map_replicate, responseSample, hstatus]
    rfl

/-- Two calls for each actor type. Both calls for carts find no total before
either inserts one, the first sends its 2 before the second sends its 1, and the
second finds the lock held; the rest is served in turn. -/
theorem calls_settle_when_they_overlap :
    let settings : Settings := ⟨true, "checkout", [.ofNat 1]⟩
    let schedule := [0, 0, 1, 1, 1, 0, 0, 0, 0, 1, 1] ++ Workload.sequential (workers ⟨0⟩ 2)
    let w := Workload.run settings.appId
      { backlog := ((opened settings ⟨0⟩).monitors ()).backlog,
        workers := (workers ⟨0⟩ 2).toArray } schedule
    let samples := (((opened settings ⟨0⟩).monitors ()).work (workers ⟨0⟩ 2) schedule).2
    let served := (opened settings ⟨0⟩).work () (workers ⟨0⟩ 2) schedule
    (site.step (.enableWith () () settings)).2.answer = .done ∧ w.isDone = true ∧
    samples.filterMap (Sample.pendingTotal? "cart") = [.int 2, .int 1, .int 1, .int 0] ∧
    (∀ a ∈ actorTypes, (served.1.monitors ()).backlog.total? a = some 0) ∧
    ∀ a ∈ actorTypes, gauge? a samples = some (.int 0) := by
  intro settings schedule w samples served
  have hon : (site.step (.enableWith () () settings)).2.answer = .done := by decide +kernel
  have hdone : w.isDone = true := by decide +kernel
  obtain ⟨-, hsettle⟩ := calls_settle settings ⟨0⟩ hon 2 schedule
  obtain ⟨htotals, hgauges, -⟩ := hsettle hdone
  refine ⟨hon, hdone, by decide +kernel, fun a ha => ?_, fun a ha => ?_⟩
  · rw [htotals a ha, if_neg (by decide)]
  · exact (hgauges (by decide) a ha).1

end Simulation
end Telemetry
