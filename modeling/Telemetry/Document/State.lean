/-
# Reading a settings document

Settings are written as a JSON object with the members `enabled`, `appId` and
`latencyBucketsMs`, in any order, or as a JSON list of the three values in
this order. What is missing is left open, and members of other names are
passed over, whatever well-formed value they have.

A document is read in a single pass, character by character. `State.step` is
the whole of the reading: what was read is a state, a character leads to the
next state or to an error, and the first error stands. So a document that was
refused at some character is refused whatever follows it
(`State.feed_append_of_error`), and what the end of the text means is said
once, in `State.finish`.

Key definitions: `State`, `State.step`, `State.finish`, `Document.read`.
Key theorems: `State.feed_append`, `State.feed_append_of_error`.
-/
import Telemetry.Document.Fields
import Telemetry.Json.Scalar

namespace Telemetry.Document

open Json

/-- How a document writes the settings. -/
inductive Form
  | object
  | list
deriving DecidableEq, Repr

/-- A bracket of a value that is passed over. -/
inductive Bracket
  | object
  | list
deriving DecidableEq, Repr

/-- The value that comes next, and where it goes. -/
inductive Place
  /-- The settings as a whole. -/
  | settings
  | field (f : Field) (form : Form) (got : Fields)
  /-- A bound of the list that is being read. -/
  | bound (bounds : List Binary64) (form : Form) (got : Fields)
  /-- A value that is passed over, inside these brackets, the innermost
  first. -/
  | skipped (outer : List Bracket) (got : Fields)
deriving DecidableEq, Repr

/-- Whose members are being read. -/
inductive Owner
  | settings (got : Fields)
  | skipped (outer : List Bracket) (got : Fields)
deriving DecidableEq, Repr

/-- The innermost open bracket. -/
inductive Open
  | members (owner : Owner)
  /-- The settings as a list, before the value of the given member. -/
  | values (next? : Option Field) (got : Fields)
  /-- The list of bounds, with those read so far. -/
  | numbers (bounds : List Binary64) (form : Form) (got : Fields)
  /-- A list that is passed over, inside the brackets `outer`. -/
  | skipped (outer : List Bracket) (got : Fields)
deriving DecidableEq, Repr

/-- Where between two items of a bracket the reading is. -/
inductive Gap
  /-- After the opening bracket. -/
  | first
  /-- After an item. -/
  | after
  /-- After a comma. -/
  | next
deriving DecidableEq, Repr

/-- What has been read of a document. -/
inductive State
  /-- A value is to come. -/
  | before (place : Place)
  | within (place : Place) (scalar : ScalarState)
  | between (gap : Gap) (bracket : Open)
  | key (owner : Owner) (text : TextState)
  /-- A colon is to come, and then the value. -/
  | colon (place : Place)
  /-- The settings are read. -/
  | closed (got : Fields)
deriving DecidableEq, Repr

/-- The white space of JSON. -/
def isSpace (c : Char) : Bool := c = ' ' || c = '\t' || c = '\n' || c = '\r'

namespace Place

/-- What the place wants. -/
def wanted : Place → Wanted
  | .settings => .settings
  | .field .enabled .. => .bool
  | .field .appId .. => .text
  | .field .bounds .. => .list
  | .bound .. => .number
  | .skipped .. => .settings

/-- Whether what stands at the place is kept. -/
def isKept : Place → Bool
  | .skipped .. => false
  | _ => true

/-- The bracket around the value of a member, once that is read. -/
def enclosing (f : Field) (got : Fields) : Form → Open
  | .object => .members (.settings got)
  | .list => .values f.next? got

/-- The bracket around a value that was passed over. -/
def resume (got : Fields) : List Bracket → Open
  | [] => .members (.settings got)
  | .object :: outer => .members (.skipped outer got)
  | .list :: outer => .skipped outer got

/-- Puts a scalar in its place, and gives the bracket around it. -/
def accept (place : Place) (s : Scalar) : Except ReadError Open :=
  match place with
  | .skipped outer got => .ok (resume got outer)
  | _ =>
    match s with
    | .null => .error (.mismatch .null place.wanted)
    | .bool b =>
      match place with
      | .field .enabled form got => .ok (enclosing .enabled { got with enabled? := some b } form)
      | _ => .error (.mismatch (.bool b) place.wanted)
    | .text t =>
      match place with
      | .field .appId form got => .ok (enclosing .appId { got with appId? := some t } form)
      | _ => .error (.mismatch (.text t) place.wanted)
    | .numeral n =>
      match n.value? with
      | none => .error .malformed
      | some x =>
        match place with
        | .bound bounds form got => .ok (.numbers (bounds ++ [x.toBinary64]) form got)
        | _ => .error (.mismatch (.number x) place.wanted)

/-- Opens a list at the place. -/
def openList : Place → Except ReadError State
  | .settings => .ok (.between .first (.values (some .enabled) {}))
  | .field .bounds form got => .ok (.between .first (.numbers [] form got))
  | .skipped outer got => .ok (.between .first (.skipped outer got))
  | place => .error (.mismatch .list place.wanted)

/-- Opens an object at the place. -/
def openObject : Place → Except ReadError State
  | .settings => .ok (.between .first (.members (.settings {})))
  | .skipped outer got => .ok (.between .first (.members (.skipped outer got)))
  | place => .error (.mismatch .object place.wanted)

/-- The first character of the value at the place. -/
def start (place : Place) (c : Char) : Except ReadError State :=
  if c = '[' then place.openList
  else if c = '{' then place.openObject
  else
    match ScalarState.start? c with
    | some s => .ok (.within place s)
    | none => .error .malformed

end Place

namespace Open

def isObject : Open → Bool
  | .members _ => true
  | _ => false

/-- The character that closes the bracket. -/
def closing (o : Open) : Char := if o.isObject then '}' else ']'

/-- What follows the bracket once it is closed. -/
def close : Open → State
  | .members (.settings got) => .closed got
  | .members (.skipped outer got) => .between .after (Place.resume got outer)
  | .values _ got => .closed got
  | .numbers bounds form got =>
    .between .after (Place.enclosing .bounds { got with bounds? := some bounds } form)
  | .skipped outer got => .between .after (Place.resume got outer)

/-- Whether another item may follow; the settings as a list have three. -/
def takesMore : Open → Bool
  | .values none _ => false
  | _ => true

/-- The first character of an item. -/
def startItem (o : Open) (c : Char) : Except ReadError State :=
  match o with
  | .members owner => if c = '"' then .ok (.key owner .start) else .error .malformed
  | .values none _ => .error .malformed
  | .values (some f) got => (Place.field f .list got).start c
  | .numbers bounds form got => (Place.bound bounds form got).start c
  | .skipped outer got => (Place.skipped (.list :: outer) got).start c

/-- A character between two items. -/
def step (o : Open) (gap : Gap) (c : Char) : Except ReadError State :=
  if isSpace c then .ok (.between gap o)
  else
    match gap with
    | .first => if c = o.closing then .ok o.close else o.startItem c
    | .after =>
      if c = o.closing then .ok o.close
      else if c = ',' ∧ o.takesMore then .ok (.between .next o)
      else .error .malformed
    | .next => if c = o.closing then .error .malformed else o.startItem c

end Open

namespace Owner

/-- Whether the keys are kept. -/
def isKept : Owner → Bool
  | .settings _ => true
  | .skipped .. => false

/-- The place of the value of a member with this key. -/
def place (key : String) : Owner → Except ReadError Place
  | .skipped outer got => .ok (.skipped (.object :: outer) got)
  | .settings got =>
    match Field.ofKey? key with
    | none => .ok (.skipped [] got)
    | some f => if got.has f then .error (.repeated f) else .ok (.field f .object got)

end Owner

namespace State

/-- Nothing has been read. -/
def start : State := .before .settings

/-- One more character. -/
def step (s : State) (c : Char) : Except ReadError State :=
  match s with
  | .before place => if isSpace c then .ok s else place.start c
  | .within place scalar =>
    match scalar.step place.isKept c with
    | .more scalar => .ok (.within place scalar)
    | .done value => return .between .after (← place.accept value)
    | .ended value => do (← place.accept value).step .after c
    | .malformed => .error .malformed
  | .between gap bracket => bracket.step gap c
  | .key owner text =>
    match text.step owner.isKept c with
    | .more text => .ok (.key owner text)
    | .done name => return .colon (← owner.place name)
    | .ended _ => .error .malformed
    | .malformed => .error .malformed
  | .colon place =>
    if isSpace c then .ok s
    else if c = ':' then .ok (.before place)
    else .error .malformed
  | .closed _ => if isSpace c then .ok s else .error .malformed

/-- The characters in order, up to the first error. -/
def feed (s : State) (text : List Char) : Except ReadError State := text.foldlM step s

/-- What the end of the text means. A number may end there; if it cannot, a
number that is kept is unfinished and one that is passed over is malformed. -/
def finish : State → Except ReadError Fields
  | .closed got => .ok got
  | .within place scalar =>
    match scalar.finish? with
    | some value => do
      let _ ← place.accept value
      .error .unfinished
    | none => .error (if scalar.isNumber && !place.isKept then .malformed else .unfinished)
  | _ => .error .unfinished

theorem feed_append (s : State) (text more : List Char) :
    s.feed (text ++ more) = s.feed text >>= fun t => t.feed more := by
  simp [feed, List.foldlM_append]

/-- An error met inside a document stands whatever follows. -/
theorem feed_append_of_error {s : State} {text : List Char} {e : ReadError}
    (h : s.feed text = .error e) (more : List Char) : s.feed (text ++ more) = .error e := by
  rw [feed_append, h]
  rfl

end State

/-- Reads a settings document. -/
def read (document : String) : Except ReadError Fields := do
  (← State.start.feed document.toList).finish

end Telemetry.Document
