/-
# Documents that cannot be read

A document fails in one of three ways: it ends inside a value, it is not
well-formed, or a value in it is not of the kind that its place wants. The
third names what was found and what was wanted.

Key definitions: `Field`, `Found`, `Wanted`, `ReadError`, `ReadError.detail?`.
-/
import Telemetry.Decimal.Layout
import Telemetry.Json.Number
import Telemetry.Text.Messages

namespace Telemetry.Document

/-- A member of the settings document. -/
inductive Field
  | enabled
  | appId
  | bounds
deriving DecidableEq, Repr, Inhabited

namespace Field

/-- The key of the member. -/
def key : Field → String
  | .enabled => "enabled"
  | .appId => "appId"
  | .bounds => "latencyBucketsMs"

/-- The members in order. -/
def all : List Field := [.enabled, .appId, .bounds]

def ofKey? (key : String) : Option Field := all.find? fun f => f.key == key

/-- The member after this one. -/
def next? : Field → Option Field
  | .enabled => some .appId
  | .appId => some .bounds
  | .bounds => none

theorem ofKey?_eq_some_iff {key : String} {f : Field} : ofKey? key = some f ↔ f.key = key := by
  cases f <;> simp only [ofKey?, all, List.find?] <;> grind [Field.key]

end Field

/-- What stands where something else was wanted. Of a list or an object only
the bracket has been read. -/
inductive Found
  | null
  | bool (b : Bool)
  | number (n : Json.Number)
  | text (s : String)
  | list
  | object
deriving DecidableEq, Repr

namespace Found

/-- A number in a message keeps `.0`, and is in exponent form with a sign from
10^16 on and below 10^-5. -/
def numberLayout : Layout := ⟨some (-5, 15), true, true, .even⟩

def description : Found → String
  | .null => "null"
  | .bool true => "boolean `true`"
  | .bool false => "boolean `false`"
  | .number (.natural n) => s!"integer `{n.repr}`"
  | .number (.negative n) => s!"integer `-{n.repr}`"
  | .number (.float x) => s!"floating point `{numberLayout.write x}`"
  | .text s => s!"string {quoted s}"
  | .list => "sequence"
  | .object => "map"

end Found

/-- What a place in the document wants. -/
inductive Wanted
  | settings
  | bool
  | text
  | list
  | number
deriving DecidableEq, Repr, Inhabited

def Wanted.description : Wanted → String
  | .settings => "struct MetricsConfig"
  | .bool => "a boolean"
  | .text => "a string"
  | .list => "a sequence"
  | .number => "f64"

/-- Why a document cannot be read. -/
inductive ReadError
  /-- It ends inside a value. -/
  | unfinished
  /-- It is not well-formed. -/
  | malformed
  /-- It has a value of the wrong kind. -/
  | mismatch (found : Found) (wanted : Wanted)
  /-- It has a member twice. -/
  | repeated (f : Field)
deriving DecidableEq, Repr

namespace ReadError

/-- What is wrong with a well-formed beginning. -/
def detail? : ReadError → Option String
  | .unfinished => none
  | .malformed => none
  | .mismatch found wanted =>
    some s!"invalid type: {found.description}, expected {wanted.description}"
  | .repeated f => some s!"duplicate field `{f.key}`"

end ReadError
end Telemetry.Document
