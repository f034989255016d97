/-
# Interleaved workers

Workers that report to one enabled monitor at the same time. A worker has a list
of actions, each of which takes effect at once, and a schedule says which worker
acts next; between two actions of one worker any others may act.

To report a change of the pending calls takes more than one action. The total
of the actor type is looked up: if it is there, the change is added and the
new total read back at once. If not, it is added by a second action, which
starts at zero only if there is still no total. The sample with the total
that was read back is sent by an action of its own, after the totals have
been let go.

A lock is held by one worker at a time; to acquire a lock that is held has no
effect, and the worker tries again at its next turn.

Key definitions: `Action`, `Worker`, `Workload`, `Workload.step`, `Workload.run`.
-/
import Telemetry.Fleet

namespace Telemetry

/-- What a worker does at once. -/
inductive Action
  /-- Reports an event whose samples need no total. -/
  | emit (event : RuntimeEvent) (now : Instant)
  /-- Adds to the total of an actor type if it has one. -/
  | look (actorType : String) (delta : Int32)
  /-- Adds to the total of an actor type, which is created if need be. -/
  | insert (actorType : String) (delta : Int32)
  /-- Sends the total that was read back last. -/
  | publish (actorType : String)
  | acquire (lock : String)
  | release (lock : String)
deriving DecidableEq, Repr

/-- The actions that are left, and the total that was read back last. -/
structure Worker where
  actions : List Action
  total : Int32 := 0
deriving DecidableEq, Repr, Inhabited

/-- The actions of a report of pending calls. -/
def Action.report (actorType : String) (delta : Int32) : List Action :=
  [.look actorType delta, .publish actorType]

/-- Workers and what they share. -/
structure Workload where
  backlog : Backlog
  /-- The samples sent so far. -/
  samples : Array Sample := #[]
  /-- The locks that are held. -/
  locked : List String := []
  workers : Array Worker
deriving DecidableEq, Repr, Inhabited

namespace Workload

/-- Does the action of a worker with the given actions left after it, and gives
the worker afterwards. -/
def perform (appId : String) (w : Workload) (total : Int32) (rest : List Action) :
    Action → Workload × Worker
  | .emit event now =>
    ({ w with samples := w.samples ++ event.samples appId now w.backlog }, ⟨rest, total⟩)
  | .look actorType delta =>
    match w.backlog.total? actorType with
    | some old => ({ w with backlog := w.backlog.add actorType delta }, ⟨rest, old + delta⟩)
    | none => (w, ⟨.insert actorType delta :: rest, total⟩)
  | .insert actorType delta =>
    ({ w with backlog := w.backlog.add actorType delta },
      ⟨rest, w.backlog.total actorType + delta⟩)
  | .publish actorType =>
    ({ w with samples := w.samples.push (RuntimeEvent.pendingSample appId actorType total) },
      ⟨rest, total⟩)
  | .acquire lock =>
    if lock ∈ w.locked then (w, ⟨.acquire lock :: rest, total⟩)
    else ({ w with locked := lock :: w.locked }, ⟨rest, total⟩)
  | .release lock => ({ w with locked := w.locked.erase lock }, ⟨rest, total⟩)

/-- The next action of worker `i`; nothing if it has none. -/
def step (appId : String) (w : Workload) (i : Nat) : Workload :=
  match w.workers[i]? with
  | none => w
  | some worker =>
    match worker.actions with
    | [] => w
    | action :: rest =>
      let (w, worker) := w.perform appId worker.total rest action
      { w with workers := w.workers.setIfInBounds i worker }

/-- The workers act as the schedule says. -/
def run (appId : String) (w : Workload) (schedule : List Nat) : Workload :=
  schedule.foldl (step appId) w

/-- Whether no worker has an action left. -/
def isDone (w : Workload) : Bool := w.workers.all fun t => t.actions.isEmpty

/-- One worker after the other. A look that finds no total makes one action
more, so twice as many turns as there are actions are enough. -/
def sequential (workers : List Worker) : List Nat :=
  (workers.zipIdx).flatMap fun t => List.replicate (2 * t.1.actions.length) t.2

end Workload

/-- The workers report to the monitor; if it is disabled, nothing comes of
it. -/
def Monitor.work {β : Type} (m : Monitor β) (workers : List Worker) (schedule : List Nat) :
    Monitor β × List Sample :=
  match m.active? with
  | none => (m, [])
  | some a =>
    let w : Workload := .run a.appId { backlog := m.backlog, workers := workers.toArray } schedule
    ({ m with backlog := w.backlog }, w.samples.toList)

/-- The workers report to a monitor of a fleet. -/
def Fleet.work {μ β : Type} [DecidableEq μ] [DecidableEq β] (f : Fleet μ β) (m : μ)
    (workers : List Worker) (schedule : List Nat) : Fleet μ β × Outcome :=
  match (f.monitors m).active? with
  | none => (f, ⟨.done, .none⟩)
  | some a =>
    let (monitor, samples) := (f.monitors m).work workers schedule
    (f.setMonitor m monitor).deliver a.backend samples

end Telemetry
