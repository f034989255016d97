/-
# JSON numbers

The grammar of a number is read character by character into its parts, the
sign and the digits of the whole part, the fraction and the exponent. Where a
number ends is known only by the character after it, which is not taken.

What the parts denote is a separate question. A whole number that fits 64
bits is kept exactly. For every other number the leading digits that fit 64
bits are the significand, the digits after them only move the exponent or are
dropped, and the significand is scaled by a power of ten; so the last bit may
differ from that of the nearest number. A number too large for binary64
denotes nothing, and one too small is zero.

Key definitions: `Numeral`, `NumberState.step`, `Number`, `Numeral.value?`.
-/
import Telemetry.Binary64.Rounding
import Telemetry.Json.Text

namespace Telemetry.Json

-- Powers are those of core, whatever else is in scope; exponents carry their type for that.
attribute [local instance (high)] instPowNat

/-- The parts of a number. -/
structure Numeral where
  negative : Bool := false
  whole : List Nat := []
  fraction : List Nat := []
  /-- Whether the exponent is negative, and its digits. -/
  exponent? : Option (Bool × List Nat) := none
deriving DecidableEq, Repr, Inhabited

/-- How far the grammar of a number has been followed. -/
inductive Phase
  | sign
  /-- After a leading zero, which no digit may follow. -/
  | zero
  | whole
  | point
  | fraction
  | mark
  | markSign
  | power
deriving DecidableEq, Repr, Inhabited

/-- What is read of a number. -/
structure NumberState where
  phase : Phase
  read : Numeral
deriving DecidableEq, Repr, Inhabited

/-- The value of a decimal digit. -/
def digit? (c : Char) : Option Nat :=
  if '0' ≤ c ∧ c ≤ '9' then some (c.toNat - '0'.toNat) else none

namespace Phase

/-- Whether a number can end here. -/
def isComplete : Phase → Bool
  | .zero | .whole | .fraction | .power => true
  | _ => false

/-- The phase after one more character; none if no number goes on so. -/
def next? (c : Char) : Phase → Option Phase
  | .sign => if c = '0' then some .zero else if (digit? c).isSome then some .whole else none
  | .zero => afterWhole? c
  | .whole => if (digit? c).isSome then some .whole else afterWhole? c
  | .point => if (digit? c).isSome then some .fraction else none
  | .fraction => if (digit? c).isSome then some .fraction else afterFraction? c
  | .mark =>
    if c = '+' ∨ c = '-' then some .markSign
    else if (digit? c).isSome then some .power else none
  | .markSign => if (digit? c).isSome then some .power else none
  | .power => if (digit? c).isSome then some .power else none
where
  afterFraction? (c : Char) : Option Phase := if c = 'e' ∨ c = 'E' then some .mark else none
  afterWhole? (c : Char) : Option Phase := if c = '.' then some .point else afterFraction? c

end Phase

namespace Numeral

/-- The numeral with a character added that leads to the given phase. -/
def add (n : Numeral) (c : Char) : Phase → Numeral
  | .zero | .whole => { n with whole := n.whole ++ (digit? c).toList }
  | .fraction => { n with fraction := n.fraction ++ (digit? c).toList }
  | .mark => { n with exponent? := some (false, []) }
  | .markSign => { n with exponent? := some (c == '-', []) }
  | .power => { n with exponent? := n.exponent?.map fun e => (e.1, e.2 ++ (digit? c).toList) }
  | .sign | .point => n

end Numeral

namespace NumberState

/-- The state at the first character of a number, a minus sign or a digit. -/
def start (c : Char) : NumberState :=
  if c = '-' then ⟨.sign, { negative := true }⟩
  else ⟨if c = '0' then .zero else .whole, { whole := (digit? c).toList }⟩

/-- Where a number is after a character: it goes on, it ended before, or it is
malformed, which a digit after a leading zero makes it too. -/
def step (c : Char) (s : NumberState) : Progress NumberState Numeral :=
  match s.phase.next? c with
  | some phase => .more ⟨phase, s.read.add c phase⟩
  | none =>
    if s.phase.isComplete && !(s.phase == .zero && (digit? c).isSome) then .ended s.read
    else .malformed

/-- The number that the end of the text completes. -/
def finish? (s : NumberState) : Option Numeral := if s.phase.isComplete then some s.read else none

end NumberState

/-- What a number denotes. -/
inductive Number
  /-- A natural number below 2^64. -/
  | natural (n : Nat)
  /-- The negative of a positive number up to 2^63. -/
  | negative (n : Nat)
  | float (x : Binary64)
deriving DecidableEq, Repr, Inhabited

def Number.toBinary64 : Number → Binary64
  | .natural n => .ofNat n
  | .negative n => .ofInt (-n)
  | .float x => x

/-- Appends digits to a significand as long as it stays below 2^64, and gives
the digits that are left. -/
def absorb (significand : Nat) : List Nat → Nat × List Nat
  | [] => (significand, [])
  | d :: ds =>
    if significand * 10 + d < 2 ^ (64 : Nat) then absorb (significand * 10 + d) ds
    else (significand, d :: ds)

/-- Ten to a power, rounded. -/
def tenTo (n : Nat) : Binary64 := .ofNat (10 ^ n)

/-- A number divided by ten to a power. Powers above 308 are no numbers and
are taken off in parts, which ends when the number is zero. -/
def shrink (x : Binary64) (n : Nat) : Binary64 :=
  if n ≤ 308 then x.div (tenTo n)
  else if x.rank = 0 then x
  else shrink (x.div (tenTo 308)) (n - 308)
termination_by n

/-- A positive number multiplied by ten to a power, if that is a number. -/
def grow? (x : Binary64) (n : Nat) : Option Binary64 :=
  if n ≤ 308 then
    let y := x.mul (tenTo n)
    if y.isFinite then some y else none
  else if x.rank = 0 then some x
  else none

/-- A significand scaled by ten to a power, if that is a number. -/
def scaled? (significand : Nat) (exponent : Int) : Option Binary64 :=
  if exponent < 0 then some (shrink (.ofNat significand) exponent.natAbs)
  else grow? (.ofNat significand) exponent.natAbs

namespace Numeral

/-- The greatest exponent that is read; one above it is not scaled with. -/
def maxExponent : Nat := 2 ^ (31 : Nat) - 1

/-- The number with its sign. -/
def signed (n : Numeral) (x : Binary64) : Number := .float (if n.negative then x.neg else x)

/-- A number with a fraction, with an exponent or of many digits. `shift` is
the exponent before the written one is added. -/
def float? (n : Numeral) (significand : Nat) (shift : Int) : Option Number :=
  match n.exponent? with
  | none => (scaled? significand shift).map n.signed
  | some (negative, digits) =>
    let power := digits.foldl (fun e d => 10 * e + d) 0
    if maxExponent < power then
      if significand = 0 ∨ negative then some (n.signed .zero) else none
    else
      (scaled? significand (if negative then shift - power else shift + power)).map n.signed

/-- The number that a numeral denotes, if there is one. -/
def value? (n : Numeral) : Option Number :=
  let (significand, left) := absorb 0 n.whole
  if left.isEmpty ∧ n.fraction.isEmpty ∧ n.exponent?.isNone then
    if !n.negative then some (.natural significand)
    else if significand = 0 ∨ 2 ^ (63 : Nat) < significand then
      some (n.signed (.ofNat significand))
    else some (.negative significand)
  else
    let (significand, dropped) := absorb significand n.fraction
    n.float? significand (left.length - (n.fraction.length - dropped.length : Nat))

end Numeral
end Telemetry.Json
