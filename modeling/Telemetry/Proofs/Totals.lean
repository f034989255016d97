/-
# Changes of the pending calls, one after the other

What a list of changes does to the totals when nothing comes in between, and
what each of them emits: the total of its actor type up to and including it.
The changes carry the number of the worker that reports them, so that the
changes of one worker can be told apart from the others (`ofWorker`).

Key definitions: `Change`, `Emission`, `ofWorker`, `net`, `Backlog.addAll`,
`emissions`.
Key theorems: `Backlog.total_addAll`, `emissions_append_cons`,
`map_snd_emissions_of_same`, `perm_of_ofWorker_eq`.
-/
import Mathlib
import Telemetry.Backlog

namespace Telemetry

/-- A change of the number of pending calls of an actor type. -/
structure Change where
  actorType : String
  delta : Int32
deriving DecidableEq, Repr

/-- A total that is emitted for an actor type. -/
structure Emission where
  actorType : String
  total : Int32
deriving DecidableEq, Repr

/-! ### What belongs to one worker -/

/-- The entries of worker `i`, in order. -/
def ofWorker {α : Type} (i : ℕ) (entries : List (ℕ × α)) : List α :=
  entries.filterMap fun p => if p.1 = i then some p.2 else none

section OfWorker

variable {α : Type} {i : ℕ}

theorem ofWorker_append (i : ℕ) (xs ys : List (ℕ × α)) :
    ofWorker i (xs ++ ys) = ofWorker i xs ++ ofWorker i ys := List.filterMap_append ..

theorem ofWorker_cons_self (a : α) (xs : List (ℕ × α)) :
    ofWorker i ((i, a) :: xs) = a :: ofWorker i xs := by simp [ofWorker]

theorem ofWorker_cons_of_ne {p : ℕ × α} (h : p.1 ≠ i) (xs : List (ℕ × α)) :
    ofWorker i (p :: xs) = ofWorker i xs := by simp [ofWorker, h]

theorem ofWorker_eq_nil {xs : List (ℕ × α)} (h : ∀ p ∈ xs, p.1 ≠ i) : ofWorker i xs = [] := by
  rw [ofWorker, List.filterMap_eq_nil_iff]
  intro p hp
  rw [if_neg (h p hp)]

theorem count_ofWorker [DecidableEq α] (i : ℕ) (a : α) : ∀ xs : List (ℕ × α),
    (ofWorker i xs).count a = xs.count (i, a)
  | [] => rfl
  | p :: xs => by
    obtain ⟨j, b⟩ := p
    by_cases hj : j = i
    · subst hj
      rw [ofWorker_cons_self, List.count_cons, List.count_cons, count_ofWorker]
      simp
    · rw [ofWorker_cons_of_ne hj, List.count_cons, count_ofWorker]
      simp [hj]

/-- Lists in which every worker has the same entries are equal up to order. -/
theorem perm_of_ofWorker_eq [DecidableEq α] {xs ys : List (ℕ × α)}
    (h : ∀ i, ofWorker i xs = ofWorker i ys) : xs.Perm ys := by
  rw [List.perm_iff_count]
  rintro ⟨i, a⟩
  rw [← count_ofWorker, h i, count_ofWorker]

theorem ofWorker_map_same (i : ℕ) (as : List α) : ofWorker i (as.map fun a => (i, a)) = as := by
  simp [ofWorker, List.filterMap_map]

/-- An entry among those of a worker is an entry of the whole list. -/
theorem split_of_ofWorker {xs : List (ℕ × α)} {front back : List α} {a : α}
    (h : ofWorker i xs = front ++ a :: back) :
    ∃ before later, xs = before ++ (i, a) :: later ∧ ofWorker i before = front := by
  obtain ⟨before, rest, hxs, hfront, hrest⟩ := List.filterMap_eq_append_iff.mp h
  obtain ⟨others, p, later, hsplit, hnone, hp, -⟩ := List.filterMap_eq_cons_iff.mp hrest
  have hpair : p = (i, a) := by
    by_cases hi : p.1 = i
    · rw [if_pos hi, Option.some.injEq] at hp
      rw [← hi, ← hp]
    · rw [if_neg hi] at hp
      cases hp
  have hothers : ofWorker i others = [] := List.filterMap_eq_nil_iff.mpr hnone
  refine ⟨before ++ others, later, ?_, ?_⟩
  · rw [hxs, hsplit, hpair, List.append_assoc]
  · rw [ofWorker_append, hothers, List.append_nil]
    exact hfront

/-- The entries of all workers, each with the number of its worker, from `n` on. -/
def numbered (n : ℕ) : List (List α) → List (ℕ × α)
  | [] => []
  | as :: rest => as.map (fun a => (n, a)) ++ numbered (n + 1) rest

theorem map_snd_numbered : ∀ (workers : List (List α)) (n : ℕ),
    (numbered n workers).map Prod.snd = workers.flatten
  | [], _ => rfl
  | as :: rest, n => by
    rw [numbered, List.map_append, map_snd_numbered rest, List.map_map, List.flatten_cons]
    simp [Function.comp_def]

theorem le_of_mem_numbered : ∀ {workers : List (List α)} {n : ℕ} {p : ℕ × α},
    p ∈ numbered n workers → n ≤ p.1
  | as :: rest, n, p, h => by
    rcases List.mem_append.mp h with h | h
    · obtain ⟨a, -, rfl⟩ := List.mem_map.mp h
      exact le_refl n
    · have := le_of_mem_numbered h
      omega

theorem ofWorker_numbered : ∀ (workers : List (List α)) (n i : ℕ),
    ofWorker (n + i) (numbered n workers) = workers.getD i []
  | [], _, _ => by simp [numbered, ofWorker]
  | as :: rest, n, i => by
    rw [numbered, ofWorker_append]
    cases i with
    | zero =>
      have hnone : ofWorker n (numbered (n + 1) rest) = [] := ofWorker_eq_nil fun p hp => by
        have := le_of_mem_numbered hp
        omega
      rw [Nat.add_zero, ofWorker_map_same, hnone, List.append_nil, List.getD_cons_zero]
    | succ i =>
      have hnone : ofWorker (n + (i + 1)) (as.map fun a => (n, a)) = [] :=
        ofWorker_eq_nil fun p hp => by
          obtain ⟨a, -, rfl⟩ := List.mem_map.mp hp
          show n ≠ n + (i + 1)
          omega
      rw [hnone, List.nil_append, List.getD_cons_succ, ← ofWorker_numbered rest (n + 1) i]
      congr 1
      omega

/-- A list in which each worker has its own entries has the entries of all. -/
theorem perm_flatten_of_ofWorker_eq [DecidableEq α] {order : List (ℕ × α)}
    {workers : List (List α)} (h : ∀ i, ofWorker i order = workers.getD i []) :
    (order.map Prod.snd).Perm workers.flatten := by
  rw [← map_snd_numbered workers 0]
  refine (perm_of_ofWorker_eq fun i => ?_).map Prod.snd
  rw [h i, ← ofWorker_numbered workers 0 i, Nat.zero_add]

end OfWorker

/-! ### Sums that wrap -/

/-- What the changes of an actor type come to; the sum wraps. -/
def net (actorType : String) : List Change → Int32
  | [] => 0
  | c :: cs => if c.actorType = actorType then c.delta + net actorType cs else net actorType cs

theorem net_append (a : String) : ∀ xs ys : List Change, net a (xs ++ ys) = net a xs + net a ys
  | [], ys => (Int32.zero_add _).symm
  | c :: xs, ys => by
    rw [List.cons_append, net, net, net_append]
    split
    · rw [Int32.add_assoc]
    · rfl

/-- The order of the changes does not matter. -/
theorem net_perm (a : String) {xs ys : List Change} (h : xs.Perm ys) : net a xs = net a ys := by
  induction h with
  | nil => rfl
  | cons c _ ih => rw [net, net, ih]
  | swap c d xs =>
    simp only [net]
    split_ifs <;> grind
  | trans _ _ ih₁ ih₂ => rw [ih₁, ih₂]

/-- Changes of other actor types come to nothing. -/
theorem net_of_ne (a : String) : ∀ {cs : List Change}, (∀ c ∈ cs, c.actorType ≠ a) → net a cs = 0
  | [], _ => rfl
  | c :: cs, h => by
    rw [net, if_neg (h c (by simp))]
    exact net_of_ne a fun d hd => h d (List.mem_cons_of_mem _ hd)

/-- Equal changes come to a multiple. -/
theorem net_of_same {c : Change} : ∀ {cs : List Change}, (∀ d ∈ cs, d = c) →
    net c.actorType cs = Int32.ofNat cs.length * c.delta
  | [], _ => by simp [net]
  | d :: cs, h => by
    obtain rfl : d = c := h d (by simp)
    have ih : net d.actorType cs = Int32.ofNat cs.length * d.delta :=
      net_of_same fun x hx => h x (List.mem_cons_of_mem _ hx)
    calc net d.actorType (d :: cs) = d.delta + net d.actorType cs := if_pos rfl
      _ = d.delta + Int32.ofNat cs.length * d.delta := by rw [ih]
      _ = (Int32.ofNat cs.length + Int32.ofNat 1) * d.delta := by grind
      _ = Int32.ofNat (d :: cs).length * d.delta := by rw [← Int32.ofNat_add, List.length_cons]

/-! ### The totals after a list of changes -/

/-- The totals after the changes, in order. -/
def Backlog.addAll (b : Backlog) (order : List (ℕ × Change)) : Backlog :=
  order.foldl (fun b p => b.add p.2.actorType p.2.delta) b

theorem Backlog.addAll_cons (b : Backlog) (i : ℕ) (c : Change) (order : List (ℕ × Change)) :
    b.addAll ((i, c) :: order) = (b.add c.actorType c.delta).addAll order := rfl

theorem Backlog.addAll_append (b : Backlog) (xs ys : List (ℕ × Change)) :
    b.addAll (xs ++ ys) = (b.addAll xs).addAll ys := List.foldl_append

theorem Backlog.total_addAll : ∀ (order : List (ℕ × Change)) (b : Backlog) (a : String),
    (b.addAll order).total a = b.total a + net a (order.map Prod.snd)
  | [], b, a => (Int32.add_zero _).symm
  | (i, c) :: order, b, a => by
    rw [Backlog.addAll_cons, total_addAll, Backlog.total_add, List.map_cons, net]
    by_cases h : a = c.actorType
    · rw [if_pos h, if_pos h.symm, h, Int32.add_assoc]
    · rw [if_neg h, if_neg (Ne.symm h)]

theorem Backlog.total?_eq_some_total {b : Backlog} {a : String} (h : (b.total? a).isSome = true) :
    b.total? a = some (b.total a) := by
  obtain ⟨t, ht⟩ := Option.isSome_iff_exists.mp h
  rw [Backlog.total, ht]
  rfl

theorem Backlog.isSome_total?_addAll : ∀ (order : List (ℕ × Change)) (b : Backlog) (a : String),
    ((b.addAll order).total? a).isSome = true ↔
      a ∈ (order.map Prod.snd).map Change.actorType ∨ (b.total? a).isSome = true
  | [], b, a => by simp [Backlog.addAll]
  | (i, c) :: order, b, a => by
    rw [Backlog.addAll_cons, isSome_total?_addAll, Backlog.total?_add, List.map_cons,
      List.map_cons, List.mem_cons]
    by_cases h : a = c.actorType
    · simp [h]
    · simp [h]

theorem Backlog.total?_addAll_of_mem {order : List (ℕ × Change)} {a : String} (b : Backlog)
    (h : a ∈ (order.map Prod.snd).map Change.actorType) :
    (b.addAll order).total? a = some (b.total a + net a (order.map Prod.snd)) := by
  rw [Backlog.total?_eq_some_total ((Backlog.isSome_total?_addAll order b a).mpr (Or.inl h)),
    Backlog.total_addAll]

theorem Backlog.total?_addAll_of_notMem : ∀ {order : List (ℕ × Change)} {a : String} (b : Backlog),
    a ∉ (order.map Prod.snd).map Change.actorType → (b.addAll order).total? a = b.total? a
  | [], _, _, _ => rfl
  | (i, c) :: order, a, b, h => by
    rw [List.map_cons, List.map_cons, List.mem_cons, not_or] at h
    rw [Backlog.addAll_cons, total?_addAll_of_notMem _ h.2, Backlog.total?_add, if_neg h.1]

/-! ### What the changes emit -/

/-- What each change emits when they are done in order. -/
def emissions (b : Backlog) : List (ℕ × Change) → List (ℕ × Emission)
  | [] => []
  | (i, c) :: order =>
    (i, ⟨c.actorType, b.total c.actorType + c.delta⟩) ::
      emissions (b.add c.actorType c.delta) order

theorem emissions_append : ∀ (xs ys : List (ℕ × Change)) (b : Backlog),
    emissions b (xs ++ ys) = emissions b xs ++ emissions (b.addAll xs) ys
  | [], _, _ => rfl
  | (i, c) :: xs, ys, b => by
    rw [List.cons_append, emissions, emissions, emissions_append]
    rfl

/-- A change emits the prefix sum of its actor type. -/
theorem emissions_append_cons (b : Backlog) (before later : List (ℕ × Change)) (i : ℕ)
    (c : Change) :
    emissions b (before ++ (i, c) :: later) =
      emissions b before ++
        (i, ⟨c.actorType, b.total c.actorType + net c.actorType (before.map Prod.snd ++ [c])⟩) ::
          emissions (b.addAll (before ++ [(i, c)])) later := by
  have hnet : net c.actorType [c] = c.delta := by simp [net]
  have htotal : (b.addAll before).total c.actorType + c.delta =
      b.total c.actorType + net c.actorType (before.map Prod.snd ++ [c]) := by
    rw [Backlog.total_addAll, net_append, hnet, Int32.add_assoc]
  rw [emissions_append, emissions, htotal, Backlog.addAll_append]
  rfl

/-- An emission is that of a change, after the emissions of those before it. -/
theorem split_of_emissions : ∀ {order : List (ℕ × Change)} {b : Backlog}
    {front back : List (ℕ × Emission)} {i : ℕ} {x : Emission},
    emissions b order = front ++ (i, x) :: back →
      ∃ before c later, order = before ++ (i, c) :: later ∧ front = emissions b before ∧
        x = ⟨c.actorType, b.total c.actorType + net c.actorType (before.map Prod.snd ++ [c])⟩
  | [], b, front, back, i, x, h => by
    rw [emissions] at h
    exact absurd h.symm (by simp)
  | (j, d) :: order, b, [], back, i, x, h => by
    rw [emissions, List.nil_append, List.cons.injEq, Prod.mk.injEq] at h
    obtain ⟨⟨rfl, rfl⟩, -⟩ := h
    exact ⟨[], d, order, rfl, rfl, by simp [net]⟩
  | (j, d) :: order, b, p :: front, back, i, x, h => by
    rw [emissions, List.cons_append, List.cons.injEq] at h
    obtain ⟨hp, hrest⟩ := h
    obtain ⟨before, c, later, rfl, hfront, -⟩ := split_of_emissions hrest
    have hall : emissions b (((j, d) :: before) ++ (i, c) :: later) =
        (p :: front) ++ (i, x) :: back := by
      rw [List.cons_append, emissions, hrest, hp, List.cons_append]
    have hbefore : p :: front = emissions b ((j, d) :: before) := by rw [emissions, hp, hfront]
    refine ⟨(j, d) :: before, c, later, rfl, hbefore, ?_⟩
    rw [emissions_append_cons, ← hbefore] at hall
    have hx := List.append_cancel_left hall
    rw [List.cons.injEq, Prod.mk.injEq] at hx
    exact hx.1.2.symm

/-- There is one emission for each change, of the same worker. -/
theorem length_ofWorker_emissions (i : ℕ) : ∀ (order : List (ℕ × Change)) (b : Backlog),
    (ofWorker i (emissions b order)).length = (ofWorker i order).length
  | [], _ => rfl
  | (j, c) :: order, b => by
    have ih := length_ofWorker_emissions i order (b.add c.actorType c.delta)
    rw [emissions]
    by_cases hj : j = i
    · subst hj
      rw [ofWorker_cons_self, ofWorker_cons_self, List.length_cons, List.length_cons, ih]
    · rw [ofWorker_cons_of_ne hj, ofWorker_cons_of_ne hj, ih]

/-- Equal changes emit an arithmetic progression. -/
theorem map_snd_emissions_of_same {c : Change} : ∀ (order : List (ℕ × Change)) (b : Backlog),
    (∀ p ∈ order, p.2 = c) →
      (emissions b order).map Prod.snd = (List.range order.length).map fun k =>
        ⟨c.actorType, b.total c.actorType + Int32.ofNat (k + 1) * c.delta⟩
  | [], _, _ => rfl
  | (i, d) :: order, b, h => by
    obtain rfl : d = c := h (i, d) (by simp)
    have ih := map_snd_emissions_of_same order (b.add d.actorType d.delta) fun p hp =>
      h p (List.mem_cons_of_mem _ hp)
    rw [emissions, List.map_cons, ih, List.length_cons, List.range_succ_eq_map, List.map_cons,
      List.map_map]
    congr 1
    · simp
    · refine List.map_congr_left fun k _ => ?_
      have hnext : b.total d.actorType + d.delta + Int32.ofNat (k + 1) * d.delta =
          b.total d.actorType + Int32.ofNat (k + 1 + 1) * d.delta := by
        calc b.total d.actorType + d.delta + Int32.ofNat (k + 1) * d.delta
            = b.total d.actorType + (Int32.ofNat (k + 1) + Int32.ofNat 1) * d.delta := by grind
          _ = b.total d.actorType + Int32.ofNat (k + 1 + 1) * d.delta := by
            rw [← Int32.ofNat_add]
      rw [Backlog.total_add, if_pos rfl, hnext]
      rfl

end Telemetry
