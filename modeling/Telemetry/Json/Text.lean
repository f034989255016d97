/-
# JSON strings, read character by character

A string is read from after its opening quote. What has been read is a state,
and each further character leads to another state, to the end of the string,
or shows that it is malformed. An escape by code unit takes the text up to
four bytes; only when they are there is it looked at whether they are digits.

Strings that are kept must pair the halves of a surrogate pair. Strings that
are passed over need not, and what is kept of them does not matter.

Key definitions: `TextState`, `TextState.step`.
-/

namespace Telemetry.Json

/-- Where a token is at one more character: it goes on with the character, it
is done with it, it was done before it, or it is malformed. -/
inductive Progress (σ α : Type)
  | more (state : σ)
  | done (value : α)
  | ended (value : α)
  | malformed
deriving DecidableEq, Repr

/-- What is read of a string; `kept` is the text that it denotes so far. -/
inductive TextState
  | plain (kept : String)
  | escape (kept : String)
  /-- Inside an escape by code unit. -/
  | codeUnit (kept : String) (digits : List Char)
  /-- After the escape of a leading surrogate, before the next backslash. -/
  | pair (kept : String) (leading : Nat)
  /-- After that backslash. -/
  | pairEscape (kept : String) (leading : Nat)
  /-- Inside the escape that has to be the trailing surrogate. -/
  | pairCodeUnit (kept : String) (leading : Nat) (digits : List Char)
deriving DecidableEq, Repr

/-- The value of a hexadecimal digit. -/
def hexDigit? (c : Char) : Option Nat :=
  if '0' ≤ c ∧ c ≤ '9' then some (c.toNat - '0'.toNat)
  else if 'a' ≤ c ∧ c ≤ 'f' then some (c.toNat - 'a'.toNat + 10)
  else if 'A' ≤ c ∧ c ≤ 'F' then some (c.toNat - 'A'.toNat + 10)
  else none

/-- The number that hexadecimal digits denote. -/
def hexNumber? (digits : List Char) : Option Nat :=
  digits.foldlM (fun n c => (hexDigit? c).map fun d => 16 * n + d) 0

/-- The bytes that characters take up. -/
def byteSize : List Char → Nat
  | [] => 0
  | c :: cs => c.utf8Size + byteSize cs

/-- Whether the characters take up the four bytes of an escape. -/
def isFull (digits : List Char) : Bool := 4 ≤ byteSize digits

def isLeading (unit : Nat) : Bool := 0xD800 ≤ unit && unit ≤ 0xDBFF

def isTrailing (unit : Nat) : Bool := 0xDC00 ≤ unit && unit ≤ 0xDFFF

/-- The character of a surrogate pair. -/
def pairChar (leading trailing : Nat) : Char :=
  Char.ofNat (0x10000 + (leading - 0xD800) * 0x400 + (trailing - 0xDC00))

/-- The character that an escape of one letter stands for. -/
def escaped? (c : Char) : Option Char :=
  match c with
  | '"' => some '"'
  | '\\' => some '\\'
  | '/' => some '/'
  | 'b' => some '\x08'
  | 'f' => some '\x0c'
  | 'n' => some '\n'
  | 'r' => some '\r'
  | 't' => some '\t'
  | _ => none

namespace TextState

/-- The state at the opening quote. -/
def start : TextState := .plain ""

/-- After the escape of a code unit. -/
def afterUnit (paired : Bool) (kept : String) (unit : Nat) : Progress TextState String :=
  if !paired then .more (.plain kept)
  else if isTrailing unit then .malformed
  else if isLeading unit then .more (.pair kept unit)
  else .more (.plain (kept.push (Char.ofNat unit)))

/-- After the escape that follows a leading surrogate. -/
def afterPair (kept : String) (leading unit : Nat) : Progress TextState String :=
  if isTrailing unit then .more (.plain (kept.push (pairChar leading unit))) else .malformed

/-- One more character of the string. `paired` says that surrogates must be
paired. -/
def step (paired : Bool) (c : Char) : TextState → Progress TextState String
  | .plain kept =>
    if c = '"' then .done kept
    else if c = '\\' then .more (.escape kept)
    else if c.toNat < 0x20 then .malformed
    else .more (.plain (kept.push c))
  | .escape kept =>
    if c = 'u' then .more (.codeUnit kept [])
    else match escaped? c with
      | some e => .more (.plain (kept.push e))
      | none => .malformed
  | .codeUnit kept digits =>
    let digits := digits ++ [c]
    if isFull digits then
      match hexNumber? digits with
      | some unit => afterUnit paired kept unit
      | none => .malformed
    else .more (.codeUnit kept digits)
  | .pair kept leading => if c = '\\' then .more (.pairEscape kept leading) else .malformed
  | .pairEscape kept leading => if c = 'u' then .more (.pairCodeUnit kept leading []) else .malformed
  | .pairCodeUnit kept leading digits =>
    let digits := digits ++ [c]
    if isFull digits then
      match hexNumber? digits with
      | some unit => afterPair kept leading unit
      | none => .malformed
    else .more (.pairCodeUnit kept leading digits)

end TextState
end Telemetry.Json
