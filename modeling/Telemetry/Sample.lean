/-
# Samples

A sample is one value recorded for a named metric, with its tags. The value
is an integer of 64 bits or a binary64 number, and either can be read as a
binary64 number, the integer rounded to the nearest.

A call that reports something hands over values by position, one for each
dimension of the instrument that they are measured on.

Key definitions: `Value`, `Value.toBinary64`, `Sample`, `Measurement`,
`Measurement.sample`.
-/
import Telemetry.Binary64.Rounding
import Telemetry.Instrument

namespace Telemetry

/-- The number that a sample carries. -/
inductive Value
  | int (n : Int64)
  | float (x : Binary64)
deriving DecidableEq, Repr, Inhabited

namespace Value

def toBinary64 : Value → Binary64
  | .int n => .ofInt n.toInt
  | .float x => x

/-- Equal as values of the same kind; floats are compared as numbers. -/
def eqv : Value → Value → Bool
  | .int n, .int m => n == m
  | .float x, .float y => x.eqv y
  | _, _ => false

/-- The value rounded down to a 64 bit count, zero if it is negative. -/
def toCount : Value → UInt64
  | .int n => UInt64.ofNat n.toInt.toNat
  | .float x => x.saturatingFloor

end Value

/-- One recorded value. -/
structure Sample where
  name : String
  tags : List Tag
  value : Value
deriving DecidableEq, Repr, Inhabited

namespace Sample

/-- The value of the first tag whose key has the given name. -/
def tag? (s : Sample) (name : String) : Option String := Tag.find? s.tags name

end Sample

/-- A value measured on an instrument, with the values of its dimensions by
position. -/
structure Measurement where
  instrument : Instrument
  tagValues : List String
  value : Value
deriving DecidableEq, Repr

namespace Measurement

/-- One more of what a counter counts. -/
def count (i : Instrument) (tagValues : List String) : Measurement := ⟨i, tagValues, .int 1⟩

@[simp]
theorem instrument_count (i : Instrument) (tagValues : List String) :
    (count i tagValues).instrument = i := rfl

def sample (r : Measurement) : Sample :=
  ⟨r.instrument.name, Tag.zip r.instrument.tagKeys r.tagValues, r.value⟩

end Measurement

end Telemetry
