/-
# Tags

A tag is a dimension of a sample: a key and a value. The text of a key is
part of the exported identity of a metric.

Key definitions: `TagKey`, `Tag`, `Tag.find?`, `Tag.zip`.
-/

namespace Telemetry

/-- The name of a dimension. -/
structure TagKey where
  name : String
deriving DecidableEq, Repr, Inhabited

namespace TagKey

def appId : TagKey := ⟨"app_id"⟩
def component : TagKey := ⟨"component"⟩
def componentName : TagKey := ⟨"componentName"⟩
def failReason : TagKey := ⟨"reason"⟩
def operation : TagKey := ⟨"operation"⟩
def actorType : TagKey := ⟨"actor_type"⟩
def success : TagKey := ⟨"success"⟩
def trustDomain : TagKey := ⟨"trustDomain"⟩
def space : TagKey := ⟨"namespace"⟩
def destinationAppId : TagKey := ⟨"dst_app_id"⟩
def sourceAppId : TagKey := ⟨"src_app_id"⟩
def status : TagKey := ⟨"status"⟩
def exchange : TagKey := ⟨"type"⟩

/-- The keys that instruments use. -/
def all : List TagKey :=
  [appId, component, componentName, failReason, operation, actorType, success, trustDomain, space,
    destinationAppId, sourceAppId, status, exchange]

end TagKey

/-- One dimension of one sample. -/
structure Tag where
  key : TagKey
  value : String
deriving DecidableEq, Repr, Inhabited

namespace Tag

/-- The value of the first tag whose key has the given name. -/
def find? (tags : List Tag) (name : String) : Option String :=
  (tags.find? fun t => t.key.name = name).map (·.value)

/-- Pairs keys with values in order. There is to be a value for each key and no
other; what is left over on either side is dropped. -/
def zip (keys : List TagKey) (values : List String) : List Tag := List.zipWith Tag.mk keys values

theorem map_key_zip {keys : List TagKey} {values : List String} (h : keys.length = values.length) :
    (zip keys values).map Tag.key = keys := by
  induction keys generalizing values with
  | nil => rfl
  | cons k ks ih =>
    cases values with
    | nil => simp at h
    | cons v vs => simpa [zip] using ih (by simpa using h)

theorem map_value_zip {keys : List TagKey} {values : List String} (h : keys.length = values.length) :
    (zip keys values).map Tag.value = values := by
  induction values generalizing keys with
  | nil => simp [zip]
  | cons v vs ih =>
    cases keys with
    | nil => simp at h
    | cons k ks => simpa [zip] using ih (by simpa using h)

end Tag
end Telemetry
