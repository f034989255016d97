/-
# JSON scalars

A scalar is a literal name, a number or a string, read character by
character from its first one. What comes of a scalar is given with its
numeral unread, so that a scalar that is passed over is only checked against
the grammar.

Key definitions: `Scalar`, `ScalarState.start?`, `ScalarState.step`,
`ScalarState.finish`.
-/
import Telemetry.Json.Number

namespace Telemetry.Json

/-- A value that holds no other values. -/
inductive Scalar
  | null
  | bool (b : Bool)
  | numeral (n : Numeral)
  | text (s : String)
deriving DecidableEq, Repr, Inhabited

/-- What is read of a scalar. -/
inductive ScalarState
  /-- A name, with the characters still to come. -/
  | literal (left : List Char) (value : Scalar)
  | number (s : NumberState)
  | text (s : TextState)
deriving DecidableEq, Repr

namespace ScalarState

/-- The state at the first character of a scalar. -/
def start? (c : Char) : Option ScalarState :=
  if c = 'n' then some (.literal ['u', 'l', 'l'] .null)
  else if c = 't' then some (.literal ['r', 'u', 'e'] (.bool true))
  else if c = 'f' then some (.literal ['a', 'l', 's', 'e'] (.bool false))
  else if c = '"' then some (.text .start)
  else if c = '-' ∨ (digit? c).isSome then some (.number (.start c))
  else none

/-- The next character of a name. -/
def stepLiteral (value : Scalar) (c : Char) : List Char → Progress ScalarState Scalar
  | [] => .ended value
  | [d] => if c = d then .done value else .malformed
  | d :: rest => if c = d then .more (.literal rest value) else .malformed

/-- One more character. `kept` says whether the scalar is kept; then its
surrogates must be paired. -/
def step (kept : Bool) (c : Char) : ScalarState → Progress ScalarState Scalar
  | .literal left value => stepLiteral value c left
  | .number s =>
    match s.step c with
    | .more s => .more (.number s)
    | .done n => .done (.numeral n)
    | .ended n => .ended (.numeral n)
    | .malformed => .malformed
  | .text s =>
    match s.step kept c with
    | .more s => .more (.text s)
    | .done t => .done (.text t)
    | .ended t => .ended (.text t)
    | .malformed => .malformed

/-- The scalar that the end of the text completes, which only a number can
be. -/
def finish? : ScalarState → Option Scalar
  | .number s => s.finish?.map .numeral
  | _ => none

/-- Whether a number has begun. -/
def isNumber : ScalarState → Bool
  | .number _ => true
  | _ => false

end ScalarState
end Telemetry.Json
