/-
# Tables

A finite map that keeps one value per key, in the order in which the keys
were first put. `get?_put` and `keys_put_of_notMem` are all that later proofs
need to know of it.

Key definitions: `Table`, `Table.get?`, `Table.put`, `Table.keys`.
Key theorems: `Table.get?_put`, `Table.keys_put_of_notMem`.
-/

namespace Telemetry

/-- Values by key, in the order in which the keys were first put. -/
structure Table (κ α : Type) where
  entries : List (κ × α) := []
deriving DecidableEq, Repr

namespace Table

variable {κ α : Type} [DecidableEq κ]

def empty : Table κ α := {}

instance : Inhabited (Table κ α) := ⟨empty⟩

/-- The value of the first entry of a key. -/
def find? (k : κ) : List (κ × α) → Option α
  | [] => none
  | e :: es => if k = e.1 then some e.2 else find? k es

def get? (t : Table κ α) (k : κ) : Option α := find? k t.entries

def keys (t : Table κ α) : List κ := t.entries.map Prod.fst

def contains (t : Table κ α) (k : κ) : Bool := (t.get? k).isSome

/-- Replaces the value at the first entry of the key, or adds an entry at the
end. -/
def putEntry (k : κ) (a : α) : List (κ × α) → List (κ × α)
  | [] => [(k, a)]
  | e :: es => if k = e.1 then (k, a) :: es else e :: putEntry k a es

def put (t : Table κ α) (k : κ) (a : α) : Table κ α := ⟨putEntry k a t.entries⟩

omit [DecidableEq κ] in
@[simp] theorem entries_empty : (empty : Table κ α).entries = [] := rfl

@[simp] theorem get?_empty (k : κ) : (empty : Table κ α).get? k = none := rfl

theorem find?_putEntry (k j : κ) (a : α) :
    ∀ es : List (κ × α), find? j (putEntry k a es) = if j = k then some a else find? j es
  | [] => by by_cases h : j = k <;> simp [putEntry, find?, h]
  | e :: es => by
    have ih := find?_putEntry k j a es
    by_cases hk : k = e.1
    · by_cases hj : j = k <;> simp_all [putEntry, find?]
    · by_cases hj : j = e.1
      · have hne : j ≠ k := fun h => hk (h ▸ hj)
        rw [if_neg hne]
        simp [putEntry, find?, hk, hj]
      · simp [putEntry, find?, hk, hj, ih]

/-- What is found after a value is put: that value at its key, and at every
other key what was there. -/
theorem get?_put (t : Table κ α) (k j : κ) (a : α) :
    (t.put k a).get? j = if j = k then some a else t.get? j :=
  find?_putEntry k j a t.entries

@[simp] theorem get?_put_self (t : Table κ α) (k : κ) (a : α) : (t.put k a).get? k = some a := by
  simp [get?_put]

theorem isSome_find?_iff (k : κ) :
    ∀ es : List (κ × α), (find? k es).isSome = true ↔ k ∈ es.map Prod.fst
  | [] => by simp [find?]
  | e :: es => by
    have ih := isSome_find?_iff k es
    by_cases h : k = e.1
    · simp [find?, h]
    · simp [find?, h, ih]

theorem contains_iff {t : Table κ α} {k : κ} : t.contains k = true ↔ k ∈ t.keys :=
  isSome_find?_iff k t.entries

theorem get?_eq_none_iff {t : Table κ α} {k : κ} : t.get? k = none ↔ k ∉ t.keys := by
  rw [← contains_iff, contains, Bool.not_eq_true, Option.isSome_eq_false_iff, Option.isNone_iff_eq_none]

theorem map_fst_putEntry_of_notMem (k : κ) (a : α) :
    ∀ es : List (κ × α), k ∉ es.map Prod.fst →
      (putEntry k a es).map Prod.fst = es.map Prod.fst ++ [k]
  | [], _ => rfl
  | e :: es, h => by
    rw [List.map_cons, List.mem_cons, not_or] at h
    rw [putEntry, if_neg h.1, List.map_cons, map_fst_putEntry_of_notMem k a es h.2]
    rfl

/-- A new key comes after those that are there. -/
theorem keys_put_of_notMem {t : Table κ α} {k : κ} (a : α) (h : k ∉ t.keys) :
    (t.put k a).keys = t.keys ++ [k] :=
  map_fst_putEntry_of_notMem k a t.entries h

end Table
end Telemetry
