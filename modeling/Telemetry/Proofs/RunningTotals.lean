/-
# The gauge of pending calls is a running sum

The changes of the pending calls of an actor type that are reported to a
monitor while it is enabled (`Fleet.changes`) are the history of its total.
Such a change adds to the total and makes the monitor deliver the new one; no
other call touches either (`Fleet.counted_cases`). So over a run the samples of
the gauge are the sums of the prefixes of that history, wrapped to 32 bits, and
the total is the last of them (`Fleet.totals_run`). An exporting backend sets
the gauge to the very same integers, since a binary64 number holds each of them
exactly (`Fleet.pendingTotals_updates_run`).

Key definitions: `wrappedSum`, `prefixSums`, `Sample.pendingTotal?`,
`Update.pendingTotal?`, `Fleet.changes`.
Key theorems: `RuntimeEvent.change?_cases`, `Fleet.counted_cases`,
`Fleet.totals_run`, `Fleet.pendingTotals_updates_run`,
`Fleet.pending_totals_are_running_sums`.
-/
import Mathlib
import Telemetry.Proofs.Deliveries
import Telemetry.Proofs.ExactValues
import Telemetry.Proofs.Mirror

namespace Telemetry

/-! ### Sums that wrap -/

/-- The sum of the integers, wrapped to 32 bits. -/
def wrappedSum (ds : List Int32) : Int32 := Int32.ofInt (ds.map Int32.toInt).sum

theorem wrappedSum_cons (d : Int32) (ds : List Int32) :
    wrappedSum (d :: ds) = d + wrappedSum ds := by
  rw [wrappedSum, List.map_cons, List.sum_cons, Int32.ofInt_add, Int32.ofInt_toInt]
  rfl

/-- The wrapped sums of the first one, the first two and so on to all of them. -/
def prefixSums (ds : List Int32) : List Int32 :=
  (List.range ds.length).map fun k => wrappedSum (ds.take (k + 1))

theorem prefixSums_cons (d : Int32) (ds : List Int32) :
    prefixSums (d :: ds) = d :: (prefixSums ds).map (d + ·) := by
  have hone : wrappedSum [d] = d := by
    rw [wrappedSum_cons]
    exact Int32.add_zero d
  rw [prefixSums, List.length_cons, List.range_succ_eq_map, List.map_cons, List.map_map,
    prefixSums, List.map_map, Nat.zero_add, List.take_succ_cons, List.take_zero, hone]
  congr 1
  refine List.map_congr_left fun k _ => ?_
  rw [Function.comp_apply, Function.comp_apply, List.take_succ_cons, wrappedSum_cons]

/-- The last of the prefix sums is the sum of all. -/
theorem getLast?_prefixSums (ds : List Int32) :
    (prefixSums ds).getLast? = if ds = [] then none else some (wrappedSum ds) := by
  by_cases h : ds = []
  · rw [if_pos h, h]
    rfl
  · have hpos : ds.length ≠ 0 := mt List.length_eq_zero_iff.mp h
    rw [if_neg h, prefixSums, List.getLast?_map, List.getLast?_range, if_neg hpos,
      Option.map_some, Nat.sub_add_cancel (Nat.pos_of_ne_zero hpos), List.take_length]

/-! ### Samples of the gauge -/

/-- The value of a sample of pending calls of the actor type. -/
def Sample.pendingTotal? (actorType : String) (s : Sample) : Option Value :=
  if s.name = Instrument.pendingCalls.name ∧ s.tag? TagKey.actorType.name = some actorType then
    some s.value
  else none

/-- The value that the gauge of pending calls of the actor type is set to. -/
def Update.pendingTotal? (actorType : String) : Update → Option Binary64
  | .set name labels x =>
    if name = Instrument.pendingCalls.name ∧
        Tag.find? labels TagKey.actorType.name = some actorType then some x
    else none
  | _ => none

theorem Sample.pendingTotal?_of_ne {i : Instrument} (h : i ≠ .pendingCalls) (tags : List Tag)
    (value : Value) (actorType : String) :
    (⟨i.name, tags, value⟩ : Sample).pendingTotal? actorType = none :=
  if_neg fun heq => h (Instrument.name_injective heq.1)

theorem RuntimeEvent.pendingTotal?_pendingSample (appId actorType other : String) (total : Int32) :
    (pendingSample appId actorType total).pendingTotal? other =
      if actorType = other then some (.int total.toInt64) else none := by
  have htag : (pendingSample appId actorType total).tag? TagKey.actorType.name =
      some actorType := by
    simp [pendingSample, pendingTotal, Measurement.sample, Sample.tag?, Tag.find?, Tag.zip,
      Instrument.tagKeys, Instrument.spec, Spec.gauge, TagKey.appId, TagKey.actorType]
  simp only [Sample.pendingTotal?, htag, Option.some.injEq]
  simp only [pendingSample, pendingTotal, Measurement.sample, true_and]

/-- The image of a sample carries the value of the sample. -/
theorem Mirrors.pendingTotal? {s : Sample} {u : Update} (h : Mirrors s u) (actorType : String) :
    u.pendingTotal? actorType = (s.pendingTotal? actorType).map Value.toBinary64 := by
  cases h with
  | counter i hi tags =>
    have hne : i ≠ .pendingCalls := fun heq => by
      rw [heq] at hi
      cases hi
    rw [Sample.pendingTotal?_of_ne hne]
    rfl
  | histogram i hi tags =>
    have hne : i ≠ .pendingCalls := fun heq => by
      rw [heq] at hi
      cases hi
    rw [Sample.pendingTotal?_of_ne hne]
    rfl
  | gauge i hi tags hx =>
    rw [Sample.pendingTotal?, Update.pendingTotal?, Sample.tag?, ← Value.readAs_iff.mp hx]
    split
    · rfl
    · rfl

theorem filterMap_pendingTotal?_of_mirrors {samples : List Sample} {updates : List Update}
    (h : List.Forall₂ Mirrors samples updates) (actorType : String) :
    updates.filterMap (Update.pendingTotal? actorType) =
      (samples.filterMap (Sample.pendingTotal? actorType)).map Value.toBinary64 := by
  rw [List.map_filterMap]
  induction h with
  | nil => rfl
  | cons hsu _ ih => rw [List.filterMap_cons, List.filterMap_cons, hsu.pendingTotal?, ih]

theorem filterMap_pendingTotal?_of_isDescribe {updates : List Update}
    (h : ∀ u ∈ updates, u.isDescribe = true) (actorType : String) :
    updates.filterMap (Update.pendingTotal? actorType) = [] := by
  rw [List.filterMap_eq_nil_iff]
  intro u hu
  cases u with
  | describe => rfl
  | increment | set | record => exact absurd (h _ hu) Bool.false_ne_true

/-! ### Events -/

namespace RuntimeEvent

/-- The change of the pending calls of the actor type that an event reports. -/
def change? (actorType : String) : RuntimeEvent → Option Int32
  | .pendingCallsChanged changed delta => if changed = actorType then some delta else none
  | _ => none

/-- Only a change of the pending calls is measured on their gauge. -/
theorem instrument_ne_pendingCalls {event : RuntimeEvent}
    (h : ∀ changed delta, event ≠ .pendingCallsChanged changed delta) (appId : String)
    (now : Instant) (b : Backlog) :
    ∀ r ∈ event.measurements appId now b, r.instrument ≠ .pendingCalls := by
  intro r hr
  cases event
  case pendingCallsChanged => exact absurd rfl (h _ _)
  case responseReceived =>
    rcases List.mem_cons.mp hr with rfl | hr
    · nofun
    · rw [List.mem_singleton.mp hr]
      nofun
  case requestDecided scope decision caller =>
    rw [List.mem_singleton.mp hr]
    cases scope <;> cases decision <;> nofun
  all_goals
    rw [List.mem_singleton.mp hr]
    nofun

theorem filterMap_pendingTotal?_samples {event : RuntimeEvent} {actorType : String}
    (h : ∀ changed delta, event ≠ .pendingCallsChanged changed delta) (appId : String)
    (now : Instant) (b : Backlog) :
    (event.samples appId now b).filterMap (Sample.pendingTotal? actorType) = [] := by
  rw [List.filterMap_eq_nil_iff]
  intro s hs
  obtain ⟨r, hr, rfl⟩ := List.mem_map.mp hs
  exact Sample.pendingTotal?_of_ne (instrument_ne_pendingCalls h appId now b r hr) _ _ _

/-- An event reports a change for the actor type and samples the new total, or
leaves the total alone and samples something else. -/
theorem change?_cases (event : RuntimeEvent) (actorType : String) :
    (∃ delta, event.change? actorType = some delta ∧
      (∀ b : Backlog, (event.updateBacklog b).total? actorType =
        some (b.total actorType + delta)) ∧
      ∀ appId now b, (event.samples appId now (event.updateBacklog b)).filterMap
        (Sample.pendingTotal? actorType) = [.int (b.total actorType + delta).toInt64]) ∨
    (event.change? actorType = none ∧
      (∀ b : Backlog, (event.updateBacklog b).total? actorType = b.total? actorType) ∧
      ∀ appId now b,
        (event.samples appId now b).filterMap (Sample.pendingTotal? actorType) = []) := by
  cases event
  case pendingCallsChanged changed delta =>
    by_cases h : changed = actorType
    · subst h
      refine Or.inl ⟨delta, if_pos rfl, fun b => ?_, fun appId now b => ?_⟩
      · rw [updateBacklog, Backlog.total?_add, if_pos rfl]
      · show [pendingSample appId changed _].filterMap _ = _
        rw [List.filterMap_cons, pendingTotal?_pendingSample, if_pos rfl, updateBacklog,
          Backlog.total_add, if_pos rfl]
        rfl
    · refine Or.inr ⟨if_neg h, fun b => ?_, fun appId now b => ?_⟩
      · rw [updateBacklog, Backlog.total?_add, if_neg (Ne.symm h)]
      · show [pendingSample appId changed _].filterMap _ = _
        rw [List.filterMap_cons, pendingTotal?_pendingSample, if_neg h]
        rfl
  all_goals
    refine Or.inr ⟨rfl, fun _ => rfl, fun appId now b => ?_⟩
    exact filterMap_pendingTotal?_samples (fun _ _ h => RuntimeEvent.noConfusion h) appId now b

end RuntimeEvent

/-- The change that a call reports. -/
def MonitorCall.change? {β : Type} (actorType : String) : MonitorCall β → Option Int32
  | .record event _ => event.change? actorType
  | _ => none

namespace Fleet

variable {μ β : Type} [DecidableEq μ] [DecidableEq β] {f : Fleet μ β} {m : μ} {actorType : String}
  {op : Operation μ β}

/-! ### The history of a total -/

/-- The change that a call makes to the total of the actor type: a monitor that
is not enabled makes none. -/
def counted (f : Fleet μ β) (m : μ) (actorType : String) (c : MonitorCall β) : Option Int32 :=
  if (f.monitors m).isEnabled then c.change? actorType else none

/-- The changes for the actor type that are reported to monitor `m` while it is
enabled, in order. -/
def changes (f : Fleet μ β) (m : μ) (actorType : String) : List (MonitorCall β) → List Int32
  | [] => []
  | c :: calls =>
    (f.counted m actorType c).toList ++ (f.step (c.on m)).1.changes m actorType calls

/-- The values of the samples of the gauge that are delivered. -/
def pendingTotals (actorType : String) (ds : List (Delivery μ β)) : List Value :=
  ds.filterMap fun d => d.sample.pendingTotal? actorType

/-- An attempt to enable a monitor leaves its totals. -/
theorem backlog_step_of_request {r : Active β × List Binary64} (h : op.request? m = some r) :
    ((f.step op).1.monitors m).backlog = (f.monitors m).backlog := by
  rcases attempt_cases f h with
    ⟨now, -, heq⟩ | ⟨-, err, traffic, -, heq, -⟩ | ⟨-, traffic, -, heq, -⟩
  · rw [heq]
  · rw [heq, setBackend_monitors]
  · rw [heq, setBackend_monitors, setMonitor_monitors_self]

/-- A call that counts adds its change to the total and delivers the sum; any
other call leaves the total alone and delivers none. -/
theorem counted_cases (f : Fleet μ β) (m : μ) (actorType : String) (c : MonitorCall β) :
    (f.counted m actorType c = none ∧
      ((f.step (c.on m)).1.monitors m).backlog.total? actorType =
        (f.monitors m).backlog.total? actorType ∧
      pendingTotals actorType (f.delivering (c.on m)) = []) ∨
    ∃ delta, f.counted m actorType c = some delta ∧
      ((f.step (c.on m)).1.monitors m).backlog.total? actorType =
        some ((f.monitors m).backlog.total actorType + delta) ∧
      pendingTotals actorType (f.delivering (c.on m)) =
        [.int ((f.monitors m).backlog.total actorType + delta).toInt64] := by
  cases hreq : c.request? with
  | some r =>
    have hreq' : (c.on m).request? m = some r := by rw [MonitorCall.request?_on, hreq]
    have hnone : f.counted m actorType c = none := by
      cases c with
      | enable | enableWith => exact ite_self none
      | record => cases hreq
    rw [backlog_step_of_request hreq', delivering_of_request hreq']
    exact Or.inl ⟨hnone, rfl, rfl⟩
  | none =>
    cases c with
    | enable => cases hreq
    | enableWith b settings =>
      have hoff : settings.enabled = false := by simpa [MonitorCall.request?] using hreq
      refine Or.inl ⟨ite_self none, ?_, rfl⟩
      rw [MonitorCall.on, step_enableWith_of_off hoff]
    | record event now =>
      rw [MonitorCall.on, counted, Monitor.isEnabled]
      cases hact : (f.monitors m).active? with
      | none =>
        rw [step_record_of_inactive hact, delivering_of_inactive hact]
        exact Or.inl ⟨rfl, rfl, rfl⟩
      | some a =>
        rw [step_record_of_active hact, delivering_of_active hact, setBackend_monitors,
          setMonitor_monitors_self, pendingTotals, List.filterMap_map, Option.isSome_some,
          if_pos rfl]
        rcases event.change?_cases actorType with
          ⟨delta, hsome, htotal, hsamples⟩ | ⟨hnone, htotal, hsamples⟩
        · exact Or.inr ⟨delta, hsome, htotal _, hsamples _ _ _⟩
        · exact Or.inl ⟨hnone, htotal _, hsamples _ _ _⟩

/-- Over a run the total goes up by the wrapped sum of its history, and the
samples of the gauge are the totals in between. -/
theorem totals_run (f : Fleet μ β) (m : μ) (actorType : String) (calls : List (MonitorCall β)) :
    let start := (f.monitors m).backlog
    let deltas := f.changes m actorType calls
    ((f.run (calls.map (·.on m))).1.monitors m).backlog.total? actorType =
      (if deltas = [] then start.total? actorType
      else some (start.total actorType + wrappedSum deltas)) ∧
    pendingTotals actorType (f.deliveries (calls.map (·.on m))) =
      (prefixSums deltas).map fun sum => .int (start.total actorType + sum).toInt64 := by
  induction calls generalizing f with
  | nil => exact ⟨rfl, rfl⟩
  | cons c calls ih =>
    obtain ⟨hrun, hsent⟩ := ih (f.step (c.on m)).1
    have hsplit : pendingTotals actorType (f.deliveries ((c :: calls).map (·.on m))) =
        pendingTotals actorType (f.delivering (c.on m)) ++
          pendingTotals actorType ((f.step (c.on m)).1.deliveries (calls.map (·.on m))) :=
      List.filterMap_append
    simp only [List.map_cons, run_cons] at hsplit ⊢
    simp only [hsplit, hrun, hsent]
    rcases f.counted_cases m actorType c with ⟨hnone, htotal, hnow⟩ | ⟨delta, hsome, htotal, hnow⟩
    · have hchanges : f.changes m actorType (c :: calls) =
          (f.step (c.on m)).1.changes m actorType calls := by
        rw [changes, hnone]
        rfl
      rw [hchanges, hnow, htotal, Backlog.total, htotal, Backlog.total]
      exact ⟨rfl, rfl⟩
    · have hchanges : f.changes m actorType (c :: calls) =
          delta :: (f.step (c.on m)).1.changes m actorType calls := by
        rw [changes, hsome]
        rfl
      have htotal' : ((f.step (c.on m)).1.monitors m).backlog.total actorType =
          (f.monitors m).backlog.total actorType + delta := by
        rw [Backlog.total, htotal, Option.getD_some]
      rw [hchanges, hnow, htotal, htotal', prefixSums_cons, wrappedSum_cons]
      generalize (f.step (c.on m)).1.changes m actorType calls = later
      refine ⟨?_, ?_⟩
      · rw [if_neg (List.cons_ne_nil _ _), ← Int32.add_assoc]
        split
        · next hlater =>
          rw [hlater]
          exact congrArg some (Int32.add_zero _).symm
        · rfl
      · rw [List.map_cons, List.map_map, List.singleton_append]
        refine congrArg₂ List.cons rfl (List.map_congr_left fun sum _ => ?_)
        rw [Function.comp_apply, Int32.add_assoc]

/-! ### What an exporting backend makes of the samples -/

/-- While the calls make `now` of the monitor, or leave it disabled: its
backend stays an exporting one that covers the catalogue once the monitor is
enabled, and sets the gauge to what is delivered. -/
theorem pendingTotals_updates_step {now : Active β} {e : Exporter} (c : MonitorCall β)
    (hafter : ∀ a, ((f.step (c.on m)).1.monitors m).active? = some a → a = now)
    (hexp : f.backends now.backend = .exporter e)
    (hcov : (f.monitors m).active? = some now → e.Covers) :
    ∃ e', (f.step (c.on m)).1.backends now.backend = .exporter e' ∧
      (((f.step (c.on m)).1.monitors m).active? = some now → e'.Covers) ∧
      (f.step (c.on m)).2.traffic.updates.filterMap (Update.pendingTotal? actorType) =
        (pendingTotals actorType (f.delivering (c.on m))).map Value.toBinary64 := by
  cases hreq : c.request? with
  | some r =>
    obtain ⟨a, bounds⟩ := r
    have hreq' : (c.on m).request? m = some (a, bounds) := by rw [MonitorCall.request?_on, hreq]
    rw [delivering_of_request hreq']
    rcases attempt_cases f hreq' with
      ⟨was, -, heq⟩ | ⟨-, err, traffic, -, heq, hnone⟩ | ⟨-, traffic, -, heq, -, -, hdesc⟩
    · rw [heq]
      exact ⟨e, hexp, hcov, rfl⟩
    · rw [heq, hnone]
      refine ⟨e, ?_, hcov, rfl⟩
      by_cases hb : now.backend = a.backend
      · rw [← hb, setBackend_backends_self, hexp]
        rfl
      · rw [setBackend_backends_of_ne _ _ hb, hexp]
    · have hnow : a = now := hafter a (by rw [heq, setBackend_monitors, setMonitor_monitors_self])
      rw [heq, ← hnow, setBackend_backends_self, hnow, hexp]
      exact ⟨e.addAll (View.catalogue bounds), rfl,
        fun _ => Exporter.covers_addAll_catalogue e bounds,
        filterMap_pendingTotal?_of_isDescribe hdesc actorType⟩
  | none =>
    rcases MonitorCall.cases_of_no_request m hreq with ⟨b, settings, hoff, heq⟩ | ⟨event, time, heq⟩
    · rw [heq, step_enableWith_of_off hoff]
      exact ⟨e, hexp, hcov, rfl⟩
    · rw [heq] at hafter ⊢
      cases hact : (f.monitors m).active? with
      | none =>
        rw [step_record_of_inactive hact, delivering_of_inactive hact]
        exact ⟨e, hexp, hcov, rfl⟩
      | some a =>
        have hnow : a = now := hafter a (active?_step_of_active hact _)
        subst hnow
        have hmirror := ((hcov hact).submit _ (RuntimeEvent.samples_ofInstrument a.appId time
          (event.updateBacklog (f.monitors m).backlog) event)).1
        rw [step_record_of_active hact, delivering_of_active hact, setBackend_backends_self, hexp,
          pendingTotals, List.filterMap_map, filterMap_pendingTotal?_of_mirrors hmirror]
        exact ⟨e, rfl, fun _ => hcov hact, rfl⟩

theorem pendingTotals_updates_run {now : Active β} {e : Exporter} (calls : List (MonitorCall β))
    (hafter : ((f.run (calls.map (·.on m))).1.monitors m).active? = some now)
    (hexp : f.backends now.backend = .exporter e)
    (hcov : (f.monitors m).active? = some now → e.Covers) :
    (f.updates (calls.map (·.on m))).filterMap (Update.pendingTotal? actorType) =
      (pendingTotals actorType (f.deliveries (calls.map (·.on m)))).map Value.toBinary64 := by
  induction calls generalizing f e with
  | nil => rfl
  | cons c calls ih =>
    rw [List.map_cons, run_cons] at hafter
    have hnext : ∀ a, ((f.step (c.on m)).1.monitors m).active? = some a → a = now := fun a ha =>
      Option.some.inj ((active?_run_of_active ha (calls.map (·.on m))).symm.trans hafter)
    obtain ⟨e', hexp', hcov', hnow⟩ := pendingTotals_updates_step c hnext hexp hcov
    rw [List.map_cons, updates_cons, List.filterMap_append, hnow, ih hafter hexp' hcov',
      deliveries, pendingTotals, pendingTotals, pendingTotals, List.filterMap_append,
      List.map_append]

/-- **The gauge of pending calls is a running sum.** Over every sequence of
calls on a new monitor, for every actor type: the total is absent exactly if no
change was reported for it while the monitor was enabled, and else it is the
wrapped sum of these changes. The samples of the gauge that were delivered
carry the wrapped sums of the prefixes, in order, and the last of them is the
total. They come from this monitor alone, as it is enabled now, and a capturing
backend keeps those that came to it. An exporting backend sets the gauge to the
same integers, all of which a binary64 number holds exactly. Calls that report
no change for the actor type bear on none of this. -/
theorem pending_totals_are_running_sums (f : Fleet μ β) (m : μ) (hf : f.monitors m = .fresh)
    (calls : List (MonitorCall β)) (actorType : String) :
    let ops := calls.map (·.on m)
    let g := (f.run ops).1
    let deltas := f.changes m actorType calls
    ((g.monitors m).backlog.total? actorType =
      if deltas = [] then none else some (wrappedSum deltas)) ∧
    pendingTotals actorType (f.deliveries ops) =
      (prefixSums deltas).map (fun sum => .int sum.toInt64) ∧
    (prefixSums deltas).getLast? = (g.monitors m).backlog.total? actorType ∧
    (∀ d ∈ f.deliveries ops, d.monitor = m ∧ (g.monitors m).active? = some d.source) ∧
    (∀ b, (g.backends b).kept? =
      (f.backends b).kept?.map (· ++ Delivery.samplesTo b (f.deliveries ops))) ∧
    (∀ now e, (g.monitors m).active? = some now → f.backends now.backend = .exporter e →
      (f.updates ops).filterMap (Update.pendingTotal? actorType) =
        (prefixSums deltas).map fun sum => .ofInt sum.toInt) ∧
    (∀ n : Int32, (Binary64.ofInt n.toInt).isFinite = true ∧
      (Binary64.ofInt n.toInt).exact = n.toInt) ∧
    ∀ c : MonitorCall β, c.change? actorType = none →
      ((g.step (c.on m)).1.monitors m).backlog.total? actorType =
        (g.monitors m).backlog.total? actorType ∧
      pendingTotals actorType (g.delivering (c.on m)) = [] := by
  intro ops g deltas
  have hnone : (f.monitors m).backlog.total? actorType = none := by
    rw [hf]
    rfl
  have hzero : (f.monitors m).backlog.total actorType = 0 := by
    rw [Backlog.total, hnone]
    rfl
  obtain ⟨htotal, hsent⟩ := totals_run f m actorType calls
  simp only [hnone, hzero, Int32.zero_add] at htotal hsent
  refine ⟨htotal, hsent, ?_, fun d hd => ?_, kept?_run_calls f m calls, fun now e hnow hexp => ?_,
    Binary64.exact_ofInt_toInt, fun c hc => ?_⟩
  · rw [getLast?_prefixSums]
    exact htotal.symm
  · have hmonitor : d.monitor = m := monitor_of_mem_deliveries hd
    exact ⟨hmonitor, hmonitor ▸ active?_of_mem_deliveries hd⟩
  · have hoff : (f.monitors m).active? = none := by
      rw [hf]
      rfl
    rw [pendingTotals_updates_run calls hnow hexp
      (fun hact => absurd (hact.symm.trans hoff) (Option.some_ne_none now)), hsent, List.map_map]
    refine List.map_congr_left fun sum _ => ?_
    rw [Function.comp_apply, Value.toBinary64, Int32.toInt_toInt64]
  · rcases g.counted_cases m actorType c with ⟨-, hsame, hquiet⟩ | ⟨delta, hsome, -⟩
    · exact ⟨hsame, hquiet⟩
    · rw [counted, hc, ite_self] at hsome
      cases hsome

/-- A change before the monitor is enabled does not count, and neither do those
of other actor types. The second change that does wraps the total around, and
the third wraps it back. -/
theorem pending_totals_are_running_sums_around_the_end :
    let f : Fleet Unit Bool := ⟨fun _ => .fresh, fun b => if b then .exporter {} else .capture {}⟩
    let calls : List (MonitorCall Bool) :=
      [.record (.pendingCallsChanged "cart" 5) ⟨0⟩, .enable true "checkout" [.ofNat 1],
        .record (.pendingCallsChanged "cart" 2147483647) ⟨0⟩,
        .record (.pendingCallsChanged "cart" 1) ⟨0⟩, .enable false "orders" [.ofNat 1],
        .record (.pendingCallsChanged "order" 3) ⟨0⟩, .record (.actorRebalanced "cart") ⟨0⟩,
        .record (.pendingCallsChanged "cart" (-1)) ⟨0⟩]
    let ops : List (Operation Unit Bool) := calls.map (·.on ())
    f.monitors () = .fresh ∧
    ((f.run ops).1.monitors ()).backlog.total? "cart" = some 2147483647 ∧
    pendingTotals "cart" (f.deliveries ops) =
      [.int 2147483647, .int (-2147483648), .int 2147483647] ∧
    (f.updates ops).filterMap (Update.pendingTotal? "cart") =
      [2147483647, -2147483648, 2147483647].map Binary64.ofInt := by
  intro f calls ops
  have hchanges : f.changes () "cart" calls = [2147483647, 1, -1] := by decide +kernel
  obtain ⟨htotal, hsent, -, -, -, hset, -⟩ := pending_totals_are_running_sums f () rfl calls "cart"
  rw [hchanges] at htotal hsent
  have hsums : (prefixSums [2147483647, 1, -1]).map Int32.toInt =
      [2147483647, -2147483648, 2147483647] := by decide
  refine ⟨rfl, ?_, ?_, ?_⟩
  · rw [htotal]
    decide
  · rw [hsent]
    decide
  · rw [hset ⟨"checkout", true⟩ {} (by decide +kernel) rfl, hchanges, ← hsums, List.map_map]
    rfl

end Fleet

end Telemetry
