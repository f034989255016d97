/-
# Fleets

Any number of monitors and backends, each under a name, and the operations on
them. A run is a list of operations, done one after the other; each has an
answer and its traffic.

Key definitions: `Fleet`, `Operation`, `Fleet.step`, `Fleet.run`.
-/
import Telemetry.Monitor

namespace Telemetry

/-- Monitors and backends by name. -/
structure Fleet (μ β : Type) where
  monitors : μ → Monitor β
  backends : β → Backend

/-- What can be done to a fleet. -/
inductive Operation (μ β : Type)
  | enable (monitor : μ) (backend : β) (appId : String) (bounds : List Binary64)
  | enableWith (monitor : μ) (backend : β) (settings : Settings)
  | record (monitor : μ) (event : RuntimeEvent) (now : Instant)
  | register (backend : β) (views : List View)
  | submit (backend : β) (sample : Sample)
  | refuseNext (backend : β) (e : RegistrationError)
  | clear (backend : β)
deriving DecidableEq, Repr

/-- The answer to an operation and what it sent out. -/
structure Outcome where
  answer : Answer
  traffic : Traffic
deriving DecidableEq, Repr, Inhabited

namespace Fleet

variable {μ β : Type} [DecidableEq μ] [DecidableEq β]

/-- The function with one value replaced. -/
def replace {ι α : Type} [DecidableEq ι] (f : ι → α) (i : ι) (a : α) : ι → α :=
  fun j => if j = i then a else f j

omit [DecidableEq μ] [DecidableEq β] in
@[simp] theorem replace_self {ι α : Type} [DecidableEq ι] (f : ι → α) (i : ι) (a : α) :
    replace f i a i = a := by simp [replace]

omit [DecidableEq μ] [DecidableEq β] in
theorem replace_of_ne {ι α : Type} [DecidableEq ι] (f : ι → α) {i j : ι} (a : α) (h : j ≠ i) :
    replace f i a j = f j := by simp [replace, h]

def setMonitor (f : Fleet μ β) (m : μ) (monitor : Monitor β) : Fleet μ β :=
  { f with monitors := replace f.monitors m monitor }

def setBackend (f : Fleet μ β) (b : β) (backend : Backend) : Fleet μ β :=
  { f with backends := replace f.backends b backend }

omit [DecidableEq β] in
@[simp] theorem setMonitor_monitors_self (f : Fleet μ β) (m : μ) (monitor : Monitor β) :
    (f.setMonitor m monitor).monitors m = monitor := replace_self ..

omit [DecidableEq β] in
@[simp] theorem setMonitor_backends (f : Fleet μ β) (m : μ) (monitor : Monitor β) :
    (f.setMonitor m monitor).backends = f.backends := rfl

omit [DecidableEq μ] in
@[simp] theorem setBackend_backends_self (f : Fleet μ β) (b : β) (backend : Backend) :
    (f.setBackend b backend).backends b = backend := replace_self ..

omit [DecidableEq μ] in
@[simp] theorem setBackend_monitors (f : Fleet μ β) (b : β) (backend : Backend) :
    (f.setBackend b backend).monitors = f.monitors := rfl

/-- The fleet after an attempt to enable a monitor on a backend. -/
def attempted (f : Fleet μ β) (m : μ) (b : β) (a : Attempt β) : Fleet μ β × Outcome :=
  ((f.setMonitor m a.monitor).setBackend b a.backend, ⟨a.answer, a.traffic⟩)

/-- Hands samples to a backend. -/
def deliver (f : Fleet μ β) (b : β) (samples : List Sample) : Fleet μ β × Outcome :=
  let (backend, traffic) := (f.backends b).submit samples
  (f.setBackend b backend, ⟨.done, traffic⟩)

/-- An event at a monitor: its samples go to the backend on which the monitor
is enabled. -/
def record (f : Fleet μ β) (m : μ) (event : RuntimeEvent) (now : Instant) : Fleet μ β × Outcome :=
  match (f.monitors m).active? with
  | none => (f, ⟨.done, .none⟩)
  | some a =>
    let (monitor, samples) := (f.monitors m).record event now
    (f.setMonitor m monitor).deliver a.backend samples

/-- One operation. -/
def step (f : Fleet μ β) : Operation μ β → Fleet μ β × Outcome
  | .enable m b appId bounds =>
    f.attempted m b ((f.monitors m).enable b (f.backends b) appId bounds)
  | .enableWith m b settings =>
    f.attempted m b ((f.monitors m).enableWith b (f.backends b) settings)
  | .record m event now => f.record m event now
  | .register b views =>
    match (f.backends b).register views with
    | (some e, backend, traffic) => (f.setBackend b backend, ⟨.refused e, traffic⟩)
    | (none, backend, traffic) => (f.setBackend b backend, ⟨.done, traffic⟩)
  | .submit b sample => f.deliver b [sample]
  | .refuseNext b e => (f.setBackend b ((f.backends b).refuseNext e), ⟨.done, .none⟩)
  | .clear b => (f.setBackend b (f.backends b).clear, ⟨.done, .none⟩)

/-- The operations in order. -/
def run (f : Fleet μ β) : List (Operation μ β) → Fleet μ β × List Outcome
  | [] => (f, [])
  | op :: ops =>
    let (f, outcome) := f.step op
    let (f, outcomes) := f.run ops
    (f, outcome :: outcomes)

theorem run_append (f : Fleet μ β) (ops more : List (Operation μ β)) :
    f.run (ops ++ more) =
      (((f.run ops).1.run more).1, (f.run ops).2 ++ ((f.run ops).1.run more).2) := by
  induction ops generalizing f with
  | nil => rfl
  | cons op ops ih => simp [run, ih]

end Fleet
end Telemetry
