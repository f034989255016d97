/-
# Parts of a fleet that share nothing

A run leaves a history: each operation with its outcome and with the samples
that it hands to backends (`Fleet.history`). A capturing backend keeps what the
operations since it was last cleared handed to it, and nothing else
(`Fleet.kept?_run`).

A part of a fleet is a choice of monitors and of backends. If no attempt to
enable a monitor reaches across its border, the operations of the part read and
change nothing outside it (`Fleet.AgreeOn.step`), and the other operations
nothing inside (`Fleet.agreeOn_step_of_outside`). So the history of the part is
the same when the other operations are left out (`Fleet.AgreeOn.run`).

Key definitions: `Entry`, `Fleet.history`, `Part`, `Operation.respects`,
`Fleet.Sealed`, `Fleet.AgreeOn`.
Key theorems: `Fleet.kept?_step_of_ne_clear`, `Fleet.kept?_run`,
`Fleet.AgreeOn.step`, `Fleet.agreeOn_step_of_outside`, `Fleet.AgreeOn.run`,
`Fleet.parts_never_interfere`.
-/
import Mathlib
import Telemetry.Proofs.Exclusiveness

namespace Telemetry

/-- An operation of a run, with its outcome and the samples that it handed to
backends. -/
structure Entry (μ β : Type) where
  operation : Operation μ β
  outcome : Outcome
  handed : List (β × Sample)
deriving DecidableEq, Repr

section HandedTo

variable {μ β : Type} [DecidableEq β]

/-- The samples among them that are handed to backend `b`. -/
def handedTo (b : β) (handed : List (β × Sample)) : List Sample :=
  handed.filterMap fun p => if p.1 = b then some p.2 else none

/-- The samples that the operations hand to backend `b`, in order. -/
def Entry.samplesTo (b : β) (entries : List (Entry μ β)) : List Sample :=
  entries.flatMap fun e => handedTo b e.handed

/-- The operations up to the last that clears backend `b`. -/
def Operation.untilClear [DecidableEq μ] (b : β) (ops : List (Operation μ β)) :
    List (Operation μ β) :=
  ops.rdropWhile fun op => op ≠ .clear b

/-- The operations since the last that clears backend `b`. -/
def Operation.sinceClear [DecidableEq μ] (b : β) (ops : List (Operation μ β)) :
    List (Operation μ β) :=
  ops.rtakeWhile fun op => op ≠ .clear b

end HandedTo

/-- Some of the monitors and some of the backends of a fleet. -/
structure Part (μ β : Type) where
  monitor : μ → Bool
  backend : β → Bool

/-- Whether an operation is one of the part. What is done with a monitor is an
operation of that monitor, also where it concerns a backend. -/
def Operation.isIn {μ β : Type} (p : Part μ β) : Operation μ β → Bool
  | .enable m _ _ _ => p.monitor m
  | .enableWith m _ _ => p.monitor m
  | .record m _ _ => p.monitor m
  | .register b _ => p.backend b
  | .submit b _ => p.backend b
  | .refuseNext b _ => p.backend b
  | .clear b => p.backend b

/-- Whether an operation is no attempt to enable a monitor on one side of the
border of the part on a backend on the other side. Settings that have metrics
off make no attempt. -/
def Operation.respects {μ β : Type} (p : Part μ β) : Operation μ β → Bool
  | .enable m b _ _ => p.monitor m == p.backend b
  | .enableWith m b settings => !settings.enabled || p.monitor m == p.backend b
  | _ => true

theorem Operation.same_side_of_request {μ β : Type} [DecidableEq μ] {p : Part μ β}
    {op : Operation μ β} {m : μ} {a : Active β} {bounds : List Binary64}
    (h : op.respects p = true) (hreq : op.request? m = some (a, bounds)) :
    p.monitor m = p.backend a.backend := by
  rcases request?_cases hreq with rfl | rfl
  · simpa [respects] using h
  · simpa [respects] using h

namespace Fleet

variable {μ β : Type} [DecidableEq μ] [DecidableEq β] {f g : Fleet μ β} {m : μ} {b : β}
  {op : Operation μ β} {ops : List (Operation μ β)}

/-! ### The history of a run -/

/-- The samples that an operation hands to backends, each with its backend: the
one that is submitted, or those of an event at an enabled monitor. -/
def handing (f : Fleet μ β) : Operation μ β → List (β × Sample)
  | .submit b sample => [(b, sample)]
  | op => (f.delivering op).map fun d => (d.source.backend, d.sample)

/-- The operations of a run, with their outcomes and what they handed over. -/
def history (f : Fleet μ β) : List (Operation μ β) → List (Entry μ β)
  | [] => []
  | op :: ops => ⟨op, (f.step op).2, f.handing op⟩ :: (f.step op).1.history ops

/-! ### What a backend keeps -/

omit [DecidableEq μ] [DecidableEq β] in
theorem handing_record (f : Fleet μ β) (m : μ) (event : RuntimeEvent) (now : Instant) :
    f.handing (.record m event now) =
      (f.delivering (.record m event now)).map fun d => (d.source.backend, d.sample) := rfl

omit [DecidableEq β] in
/-- An attempt to enable a monitor hands nothing over. -/
theorem handing_of_request {r : Active β × List Binary64} (h : op.request? m = some r) :
    f.handing op = [] := by
  rcases Operation.request?_cases h with rfl | rfl
  · rfl
  · rfl

/-- A backend keeps what it had and what an operation hands to it. -/
theorem kept?_step_of_ne_clear (f : Fleet μ β) (h : op ≠ .clear b) :
    ((f.step op).1.backends b).kept? =
      (f.backends b).kept?.map (· ++ handedTo b (f.handing op)) := by
  -- the operations other than those below hand nothing over and leave what is kept
  have hnothing : ∀ {backend : Backend}, f.handing op = [] →
      backend.kept? = (f.backends b).kept? →
      backend.kept? = (f.backends b).kept?.map (· ++ handedTo b (f.handing op)) := by
    intro backend hnone hsame
    rw [hnone, hsame]
    simp [handedTo]
  cases op with
  | enable n c appId bounds =>
    have hreq := Operation.request?_enable n c appId bounds
    exact hnothing (handing_of_request hreq) (kept?_step_of_request hreq b)
  | enableWith n c settings =>
    by_cases hon : settings.enabled = true
    · have hreq : (Operation.enableWith n c settings).request? n =
          some (⟨settings.appId, c⟩, settings.bounds) := if_pos ⟨rfl, hon⟩
      exact hnothing (handing_of_request hreq) (kept?_step_of_request hreq b)
    · rw [Bool.not_eq_true] at hon
      exact hnothing rfl (by rw [step_enableWith_of_off hon])
  | record n event now =>
    have hsame : handedTo b (f.handing (.record n event now)) =
        Delivery.samplesTo b (f.delivering (.record n event now)) := by
      rw [handing_record, handedTo, List.filterMap_map]
      rfl
    rw [hsame]
    exact kept?_step_record f n event now b
  | register c views =>
    have hkept : ((f.backends c).register views).2.1.kept? = (f.backends c).kept? := by
      rcases (f.backends c).register_cases views with ⟨err, heq⟩ | ⟨traffic, heq, -⟩
      · rw [heq, Backend.kept?_refused]
      · rw [heq, Backend.kept?_addAll]
    refine hnothing rfl ?_
    rw [(step_register f c views).1]
    exact kept?_setBackend hkept b
  | submit c sample =>
    rw [step, deliver, handing, handedTo]
    by_cases hb : c = b
    · subst hb
      rw [setBackend_backends_self, Backend.kept?_submit]
      simp
    · rw [setBackend_backends_of_ne _ _ (Ne.symm hb)]
      simp [hb]
  | refuseNext c err =>
    have hkept : ((f.backends c).refuseNext err).kept? = (f.backends c).kept? := by
      cases f.backends c <;> rfl
    exact hnothing rfl (kept?_setBackend hkept b)
  | clear c =>
    have hb : b ≠ c := fun heq => h (by rw [heq])
    refine hnothing rfl ?_
    rw [step, setBackend_backends_of_ne _ _ hb]

/-- A backend that is cleared keeps nothing. -/
theorem kept?_step_clear (f : Fleet μ β) (b : β) :
    ((f.step (.clear b)).1.backends b).kept? = (f.backends b).kept?.map fun _ => [] := by
  rw [step, setBackend_backends_self]
  cases f.backends b <;> rfl

/-- A backend that keeps samples does so for good. -/
theorem isSome_kept?_run (h : (f.backends b).kept?.isSome = true) (ops : List (Operation μ β)) :
    ((f.run ops).1.backends b).kept?.isSome = true := by
  induction ops generalizing f with
  | nil => exact h
  | cons op ops ih =>
    have hnext : ((f.step op).1.backends b).kept?.isSome = true := by
      by_cases hop : op = .clear b
      · rw [hop, kept?_step_clear, Option.isSome_map]
        exact h
      · rw [kept?_step_of_ne_clear f hop, Option.isSome_map]
        exact h
    exact ih hnext

theorem kept?_run_of_no_clear (hops : ∀ op ∈ ops, op ≠ .clear b) :
    ((f.run ops).1.backends b).kept? =
      (f.backends b).kept?.map (· ++ Entry.samplesTo b (f.history ops)) := by
  induction ops generalizing f with
  | nil => simp [run, history, Entry.samplesTo]
  | cons op ops ih =>
    have hfirst := kept?_step_of_ne_clear f (hops op (by simp))
    have hrest := ih (f := (f.step op).1) fun x hx => hops x (List.mem_cons_of_mem _ hx)
    rw [run_cons, hrest, hfirst, Option.map_map, history]
    simp [Entry.samplesTo, Function.comp_def]

/-- After the operations up to its last clear a backend that kept nothing at
first keeps nothing. -/
theorem kept?_run_untilClear (h : (f.backends b).kept? = some []) (ops : List (Operation μ β)) :
    ((f.run (Operation.untilClear b ops)).1.backends b).kept? = some [] := by
  by_cases hnil : Operation.untilClear b ops = []
  · rw [hnil]
    exact h
  · have hlast : (Operation.untilClear b ops).getLast hnil = .clear b := by
      have hnot : ¬ decide ((Operation.untilClear b ops).getLast hnil ≠ .clear b) = true :=
        List.rdropWhile_last_not _ ops hnil
      simpa using hnot
    have hsplit := List.dropLast_append_getLast hnil
    rw [hlast] at hsplit
    have hsome : ((f.run (Operation.untilClear b ops).dropLast).1.backends b).kept?.isSome =
        true := isSome_kept?_run (by rw [h]; rfl) _
    obtain ⟨kept, hkept⟩ := Option.isSome_iff_exists.mp hsome
    rw [← hsplit, run_append, run_cons, run, kept?_step_clear, hkept, Option.map_some]

/-- A backend that kept nothing at first keeps what the operations since its
last clear handed to it. -/
theorem kept?_run (h : (f.backends b).kept? = some []) (ops : List (Operation μ β)) :
    ((f.run ops).1.backends b).kept? = some (Entry.samplesTo b
      ((f.run (Operation.untilClear b ops)).1.history (Operation.sinceClear b ops))) := by
  have hsplit : Operation.untilClear b ops ++ Operation.sinceClear b ops = ops :=
    List.rdropWhile_append_rtakeWhile
  have hnone : ∀ op ∈ Operation.sinceClear b ops, op ≠ .clear b := fun op hop => by
    simpa using List.mem_rtakeWhile_imp hop
  calc ((f.run ops).1.backends b).kept?
      = ((f.run (Operation.untilClear b ops ++ Operation.sinceClear b ops)).1.backends b).kept? := by
        rw [hsplit]
    _ = (((f.run (Operation.untilClear b ops)).1.run
          (Operation.sinceClear b ops)).1.backends b).kept? := by rw [run_append]
    _ = some (Entry.samplesTo b
          ((f.run (Operation.untilClear b ops)).1.history (Operation.sinceClear b ops))) := by
        rw [kept?_run_of_no_clear hnone, kept?_run_untilClear h ops, Option.map_some,
          List.nil_append]

/-! ### Parts -/

variable {p : Part μ β}

/-- No monitor on one side of the border of the part is enabled on a backend on
the other side. -/
def Sealed (p : Part μ β) (f : Fleet μ β) : Prop :=
  ∀ m a, (f.monitors m).active? = some a → p.monitor m = p.backend a.backend

/-- Two fleets with the same monitors and backends in the part. -/
structure AgreeOn (p : Part μ β) (f g : Fleet μ β) : Prop where
  monitors : ∀ m, p.monitor m = true → f.monitors m = g.monitors m
  backends : ∀ b, p.backend b = true → f.backends b = g.backends b

omit [DecidableEq μ] [DecidableEq β] in
theorem AgreeOn.refl (p : Part μ β) (f : Fleet μ β) : AgreeOn p f f :=
  ⟨fun _ _ => rfl, fun _ _ => rfl⟩

omit [DecidableEq μ] [DecidableEq β] in
theorem AgreeOn.trans {h : Fleet μ β} (hfg : AgreeOn p f g) (hgh : AgreeOn p g h) :
    AgreeOn p f h :=
  ⟨fun m hm => (hfg.monitors m hm).trans (hgh.monitors m hm),
    fun b hb => (hfg.backends b hb).trans (hgh.backends b hb)⟩

omit [DecidableEq β] in
theorem AgreeOn.setMonitor (h : AgreeOn p f g) (m : μ) (monitor : Monitor β) :
    AgreeOn p (f.setMonitor m monitor) (g.setMonitor m monitor) where
  monitors n hn := by
    by_cases hnm : n = m
    · rw [hnm, setMonitor_monitors_self, setMonitor_monitors_self]
    · rw [setMonitor_monitors_of_ne _ _ hnm, setMonitor_monitors_of_ne _ _ hnm]
      exact h.monitors n hn
  backends := h.backends

omit [DecidableEq μ] in
theorem AgreeOn.setBackend (h : AgreeOn p f g) (b : β) (backend : Backend) :
    AgreeOn p (f.setBackend b backend) (g.setBackend b backend) where
  monitors := h.monitors
  backends c hc := by
    by_cases hcb : c = b
    · rw [hcb, setBackend_backends_self, setBackend_backends_self]
    · rw [setBackend_backends_of_ne _ _ hcb, setBackend_backends_of_ne _ _ hcb]
      exact h.backends c hc

omit [DecidableEq β] in
theorem agreeOn_setMonitor_of_outside (hm : p.monitor m = false) (f : Fleet μ β)
    (monitor : Monitor β) : AgreeOn p (f.setMonitor m monitor) f where
  monitors n hn := by
    have hne : n ≠ m := fun heq => by
      rw [heq, hm] at hn
      cases hn
    exact setMonitor_monitors_of_ne f monitor hne
  backends _ _ := rfl

omit [DecidableEq μ] in
theorem agreeOn_setBackend_of_outside (hb : p.backend b = false) (f : Fleet μ β)
    (backend : Backend) : AgreeOn p (f.setBackend b backend) f where
  monitors _ _ := rfl
  backends c hc := by
    have hne : c ≠ b := fun heq => by
      rw [heq, hb] at hc
      cases hc
    exact setBackend_backends_of_ne f backend hne

omit [DecidableEq μ] [DecidableEq β] in
theorem sealed_of_fresh (h : ∀ m, f.monitors m = .fresh) : Sealed p f := by
  intro m a ha
  rw [h m] at ha
  cases ha

theorem Sealed.step (h : Sealed p f) (hop : op.respects p = true) : Sealed p (f.step op).1 := by
  intro m a ha
  rcases active?_step_cases ha with hold | hnew
  · exact h m a hold
  · obtain ⟨-, -, bounds, hreq⟩ := enabledBy_eq_some hnew
    exact Operation.same_side_of_request hop hreq

/-- An attempt does the same in fleets that agree on the monitor and the
backend. -/
theorem AgreeOn.attempt {a : Active β} {bounds : List Binary64} (h : AgreeOn p f g)
    (hreq : op.request? m = some (a, bounds)) (hm : p.monitor m = true)
    (hb : p.backend a.backend = true) :
    (f.step op).2 = (g.step op).2 ∧ AgreeOn p (f.step op).1 (g.step op).1 := by
  rw [step_of_request hreq, step_of_request hreq, h.monitors m hm, h.backends _ hb]
  exact ⟨rfl, (h.setMonitor m _).setBackend _ _⟩

/-- **An operation of the part** depends on nothing outside it: in fleets that
agree on the part it has the same outcome, hands over the same samples, and the
fleets agree on the part afterwards. -/
theorem AgreeOn.step (h : AgreeOn p f g) (hsealed : Sealed p f) (hin : op.isIn p = true)
    (hop : op.respects p = true) :
    (f.step op).2 = (g.step op).2 ∧ f.handing op = g.handing op ∧
      AgreeOn p (f.step op).1 (g.step op).1 := by
  cases op with
  | enable m b appId bounds =>
    have hreq := Operation.request?_enable m b appId bounds
    have hb : p.backend b = true := (Operation.same_side_of_request hop hreq).symm.trans hin
    obtain ⟨houtcome, hafter⟩ := h.attempt hreq hin hb
    exact ⟨houtcome, rfl, hafter⟩
  | enableWith m b settings =>
    by_cases hon : settings.enabled = true
    · have hreq : (Operation.enableWith m b settings).request? m =
          some (⟨settings.appId, b⟩, settings.bounds) := if_pos ⟨rfl, hon⟩
      have hb : p.backend b = true := (Operation.same_side_of_request hop hreq).symm.trans hin
      obtain ⟨houtcome, hafter⟩ := h.attempt hreq hin hb
      exact ⟨houtcome, rfl, hafter⟩
    · rw [Bool.not_eq_true] at hon
      rw [step_enableWith_of_off hon, step_enableWith_of_off hon]
      exact ⟨rfl, rfl, h⟩
  | record m event now =>
    have hmonitor : f.monitors m = g.monitors m := h.monitors m hin
    cases hact : (f.monitors m).active? with
    | none =>
      have hact' : (g.monitors m).active? = none := by rw [← hmonitor, hact]
      rw [step_record_of_inactive hact, step_record_of_inactive hact', handing_record,
        handing_record, delivering_of_inactive hact, delivering_of_inactive hact']
      exact ⟨rfl, rfl, h⟩
    | some a =>
      have hact' : (g.monitors m).active? = some a := by rw [← hmonitor, hact]
      have hbackend : f.backends a.backend = g.backends a.backend :=
        h.backends _ ((hsealed m a hact).symm.trans hin)
      rw [step_record_of_active hact, step_record_of_active hact', handing_record,
        handing_record, delivering_of_active hact, delivering_of_active hact', hmonitor, hbackend]
      exact ⟨rfl, rfl, (h.setMonitor m _).setBackend _ _⟩
  | register b views =>
    rw [Fleet.step, Fleet.step, h.backends b hin]
    rcases (g.backends b).register views with ⟨_ | err, backend, traffic⟩
    · exact ⟨rfl, rfl, h.setBackend b backend⟩
    · exact ⟨rfl, rfl, h.setBackend b backend⟩
  | submit b sample =>
    rw [Fleet.step, Fleet.step, deliver, deliver, h.backends b hin]
    exact ⟨rfl, rfl, h.setBackend b _⟩
  | refuseNext b err =>
    rw [Fleet.step, Fleet.step, h.backends b hin]
    exact ⟨rfl, rfl, h.setBackend b _⟩
  | clear b =>
    rw [Fleet.step, Fleet.step, h.backends b hin]
    exact ⟨rfl, rfl, h.setBackend b _⟩

/-- **An operation outside the part** leaves it as it is. -/
theorem agreeOn_step_of_outside (hsealed : Sealed p f) (hout : op.isIn p = false)
    (hop : op.respects p = true) : AgreeOn p (f.step op).1 f := by
  -- an attempt changes its monitor and its backend, and both are outside
  have hattempt : ∀ {m a bounds}, op.request? m = some (a, bounds) → p.monitor m = false →
      AgreeOn p (f.step op).1 f := by
    intro m a bounds hreq hm
    have hb : p.backend a.backend = false :=
      (Operation.same_side_of_request hop hreq).symm.trans hm
    rw [step_of_request hreq]
    exact (agreeOn_setBackend_of_outside hb _ _).trans (agreeOn_setMonitor_of_outside hm f _)
  cases op with
  | enable m b appId bounds => exact hattempt (Operation.request?_enable m b appId bounds) hout
  | enableWith m b settings =>
    by_cases hon : settings.enabled = true
    · have hreq : (Operation.enableWith m b settings).request? m =
          some (⟨settings.appId, b⟩, settings.bounds) := if_pos ⟨rfl, hon⟩
      exact hattempt hreq hout
    · rw [Bool.not_eq_true] at hon
      rw [step_enableWith_of_off hon]
      exact .refl p f
  | record m event now =>
    cases hact : (f.monitors m).active? with
    | none =>
      rw [step_record_of_inactive hact]
      exact .refl p f
    | some a =>
      have hb : p.backend a.backend = false := (hsealed m a hact).symm.trans hout
      rw [step_record_of_active hact]
      exact (agreeOn_setBackend_of_outside hb _ _).trans
        (agreeOn_setMonitor_of_outside hout f _)
  | register b views =>
    rw [(step_register f b views).1]
    exact agreeOn_setBackend_of_outside hout f _
  | submit b sample => exact agreeOn_setBackend_of_outside hout f _
  | refuseNext b err => exact agreeOn_setBackend_of_outside hout f _
  | clear b => exact agreeOn_setBackend_of_outside hout f _

/-- A run, and the run of its operations in the part: the part has the same
history and ends in the same state. -/
theorem AgreeOn.run (h : AgreeOn p f g) (hsealed : Sealed p f)
    (hops : ∀ op ∈ ops, op.respects p = true) :
    (f.history ops).filter (fun e => e.operation.isIn p) =
        g.history (ops.filter fun op => op.isIn p) ∧
      AgreeOn p (f.run ops).1 (g.run (ops.filter fun op => op.isIn p)).1 := by
  induction ops generalizing f g with
  | nil => exact ⟨rfl, h⟩
  | cons op ops ih =>
    have hop : op.respects p = true := hops op (by simp)
    have hrest : ∀ x ∈ ops, x.respects p = true := fun x hx => hops x (List.mem_cons_of_mem _ hx)
    have hsealed' := hsealed.step hop
    cases hin : op.isIn p with
    | true =>
      obtain ⟨houtcome, hhanded, hafter⟩ := h.step hsealed hin hop
      obtain ⟨hhistory, hend⟩ := ih hafter hsealed' hrest
      rw [List.filter_cons_of_pos hin]
      refine ⟨?_, hend⟩
      rw [history, history, List.filter_cons_of_pos (by exact hin), hhistory, houtcome, hhanded]
    | false =>
      have hnot : ¬ op.isIn p = true := by rw [hin]; exact Bool.false_ne_true
      have hafter := (agreeOn_step_of_outside hsealed hin hop).trans h
      rw [List.filter_cons_of_neg hnot, history, List.filter_cons_of_neg (by exact hnot)]
      exact ih hafter hsealed' hrest

/-- **Parts of a fleet that share nothing do not interfere.** Over every run of
a fleet whose monitors are all new at first, with operations of any kind on any
of them and on any backends. A new capturing backend keeps exactly the samples
that the operations since it was last cleared handed to it, in order; those of
one metric are the ones of that name among them. And if no attempt to enable a
monitor reaches across the border of a part, then leaving out all operations
outside the part leaves the history of the part the same: the answers, the
updates, the log lines and the samples of its operations, and the monitors and
backends that it ends with, all that they hold included. -/
theorem parts_never_interfere (f : Fleet μ β) (hf : ∀ m, f.monitors m = .fresh)
    (ops : List (Operation μ β)) :
    (∀ b, (f.backends b).kept? = some [] → ∃ c, (f.run ops).1.backends b = .capture c ∧
      c.samples = Entry.samplesTo b
        ((f.run (Operation.untilClear b ops)).1.history (Operation.sinceClear b ops)) ∧
      ∀ name, c.samplesOf name = c.samples.filter fun s => s.name = name) ∧
    ∀ p : Part μ β, (∀ op ∈ ops, op.respects p = true) →
      (f.history ops).filter (fun e => e.operation.isIn p) =
          f.history (ops.filter fun op => op.isIn p) ∧
        AgreeOn p (f.run ops).1 (f.run (ops.filter fun op => op.isIn p)).1 := by
  refine ⟨fun b hb => ?_, fun p hp => ?_⟩
  · obtain ⟨c, hc, hsamples⟩ := Backend.eq_capture_of_kept? (kept?_run hb ops)
    exact ⟨c, hc, hsamples, fun name => by simp [Capture.samplesOf, beq_eq_decide]⟩
  · exact (AgreeOn.refl p f).run (sealed_of_fresh hf) hp

/-- Monitor `true` and backend 2 are one part, the others another. The part is
refused once as its backend was told to, and its settings that have metrics off
name a backend of the other part. Backend 0 is cleared on the way. -/
theorem parts_never_interfere_when_interleaved :
    let f : Fleet Bool (Fin 3) :=
      ⟨fun _ => .fresh, fun b => if b = 1 then .exporter {} else .capture {}⟩
    let p : Part Bool (Fin 3) := ⟨fun m => m, fun b => b = 2⟩
    let other : Sample := ⟨"other", [], .int 7⟩
    let ops : List (Operation Bool (Fin 3)) :=
      [.enable false 0 "checkout" [.ofNat 1], .refuseNext 2 .alreadyEnabled, .submit 0 other,
        .enable true 2 "orders" [.ofNat 1], .record false (.pendingCallsChanged "cart" 3) ⟨0⟩,
        .enableWith true 0 ⟨false, "orders", [.ofNat 1]⟩, .clear 0,
        .enableWith true 2 ⟨true, "orders", [.ofNat 1]⟩, .register 1 [], .submit 2 other,
        .record false (.pendingCallsChanged "cart" 4) ⟨0⟩, .record true .mtlsInitialized ⟨0⟩]
    (∀ m, f.monitors m = .fresh) ∧ (f.backends 0).kept? = some [] ∧
    (∀ op ∈ ops, op.respects p = true) ∧
    ((f.history ops).filter fun e => e.operation.isIn p).map (fun e => e.outcome.answer) =
      [.done, .refused .alreadyEnabled, .off, .done, .done, .done] ∧
    (f.history ops).filter (fun e => e.operation.isIn p) =
      f.history (ops.filter fun op => op.isIn p) ∧
    ∃ c, (f.run ops).1.backends 0 = .capture c ∧
      c.samples = [RuntimeEvent.pendingSample "checkout" "cart" 7] := by
  intro f p other ops
  have hfresh : ∀ m, f.monitors m = .fresh := fun _ => rfl
  have hrespects : ∀ op ∈ ops, op.respects p = true := by decide +kernel
  obtain ⟨hkept, hparts⟩ := parts_never_interfere f hfresh ops
  obtain ⟨c, hc, hsamples, -⟩ := hkept 0 rfl
  refine ⟨hfresh, rfl, hrespects, by decide +kernel, (hparts p hrespects).1, c, hc, ?_⟩
  rw [hsamples]
  decide +kernel

end Fleet
end Telemetry
