/-
# Pending calls

The running number of calls that wait for an actor's lock, by actor type. A
change is added to the total of its type, which starts at zero; the totals
are 32 bit integers and wrap.

Key definitions: `Backlog`, `Backlog.total?`, `Backlog.add`.
Key theorem: `Backlog.total?_add`.
-/
import Telemetry.Table

namespace Telemetry

/-- The running totals of pending calls by actor type. -/
structure Backlog where
  totals : Table String Int32 := {}
deriving DecidableEq, Repr, Inhabited

namespace Backlog

def empty : Backlog := {}

/-- The total of an actor type, if anything was ever reported for it. -/
def total? (b : Backlog) (actorType : String) : Option Int32 := b.totals.get? actorType

/-- The total of an actor type, zero if nothing was reported. -/
def total (b : Backlog) (actorType : String) : Int32 := (b.total? actorType).getD 0

/-- Adds a change to the total of an actor type. -/
def add (b : Backlog) (actorType : String) (delta : Int32) : Backlog :=
  ⟨b.totals.put actorType (b.total actorType + delta)⟩

@[simp] theorem total?_empty (actorType : String) : empty.total? actorType = none := rfl

theorem total?_add (b : Backlog) (actorType other : String) (delta : Int32) :
    (b.add actorType delta).total? other =
      if other = actorType then some (b.total actorType + delta) else b.total? other :=
  Table.get?_put ..

theorem total_add (b : Backlog) (actorType other : String) (delta : Int32) :
    (b.add actorType delta).total other =
      if other = actorType then b.total actorType + delta else b.total other := by
  unfold total
  rw [total?_add]
  split <;> rfl

end Backlog
end Telemetry
