/-
# What becomes of the choices on a draft

Only the last choice of each kind counts (`Draft.ofChoices_eq`). What building
then gives is told by rules on these three, in the order in which problems are
looked for (`Verdict`): the rules do not mention the checks that decide, and
for every draft exactly one of them applies (`Draft.build_eq_iff_verdict`).
Bounds that pass are positive numbers whose values increase throughout.

Key definitions: `Choice.lastOf`, `BlankText`, `Binary64.IsBadBound`, `Verdict`.
Key theorems: `Draft.ofChoices_eq`, `Draft.isGoodBound_eq_false_iff`,
`Draft.build_eq_iff_verdict`, `Draft.goodBounds_of_build`,
`Draft.build_decided_by_last_choices`.
-/
import Mathlib
import Telemetry.Proofs.BucketBounds
import Telemetry.Proofs.ExactValues
import Telemetry.Settings

namespace Telemetry

/-- Errors that are told in other words leave a result as it is. -/
theorem mapError_eq_ok_iff {ε ε' α : Type} {x : Except ε α} {f : ε → ε'} {a : α} :
    x.mapError f = .ok a ↔ x = .ok a := by
  cases x with
  | error e => simp [Except.mapError]
  | ok b => simp [Except.mapError]

/-! ### The last choice of each kind -/

namespace Choice

def enabled? : Choice → Option Bool
  | .enabled on => some on
  | _ => none

def appId? : Choice → Option String
  | .appId id => some id
  | _ => none

def bounds? : Choice → Option (List Binary64)
  | .bounds xs => some xs
  | _ => none

/-- What the last choice of a kind is, if there is one. -/
def lastOf {α : Type} (kind : Choice → Option α) (choices : List Choice) : Option α :=
  (choices.filterMap kind).getLast?

theorem lastOf_concat {α : Type} (kind : Choice → Option α) (choices : List Choice) (c : Choice) :
    lastOf kind (choices ++ [c]) = (kind c).or (lastOf kind choices) := by
  rw [lastOf, List.filterMap_append, List.getLast?_append, lastOf]
  cases h : kind c with
  | none => rw [List.filterMap_cons_none h]; rfl
  | some a => rw [List.filterMap_cons_some h]; rfl

end Choice

/-- A draft has the last choice of each kind, and where there is none what a
blank draft has. -/
theorem Draft.ofChoices_eq (choices : List Choice) :
    Draft.ofChoices choices =
      { enabled := (Choice.lastOf Choice.enabled? choices).getD true
        appId? := Choice.lastOf Choice.appId? choices
        bounds := (Choice.lastOf Choice.bounds? choices).getD defaultBounds } := by
  induction choices using List.reverseRecOn with
  | nil => rfl
  | append_singleton choices c ih =>
    have hlast : Draft.ofChoices (choices ++ [c]) = (Draft.ofChoices choices).choose c := by
      rw [Draft.ofChoices, List.foldl_append]
      rfl
    rw [hlast, ih, Choice.lastOf_concat, Choice.lastOf_concat, Choice.lastOf_concat]
    cases c <;> rfl

/-! ### Texts and bounds that are not taken -/

/-- The code points with the property White_Space. -/
def whiteSpace : List ℕ :=
  [0x9, 0xA, 0xB, 0xC, 0xD, 0x20, 0x85, 0xA0, 0x1680, 0x2000, 0x2001, 0x2002, 0x2003, 0x2004,
    0x2005, 0x2006, 0x2007, 0x2008, 0x2009, 0x200A, 0x2028, 0x2029, 0x202F, 0x205F, 0x3000]

/-- A text that is empty or all white space. -/
def BlankText (s : String) : Prop := ∀ c ∈ s.toList, c.toNat ∈ whiteSpace

theorem isBlank_iff (c : Char) : isBlank c = true ↔ c.toNat ∈ whiteSpace := by
  simp only [isBlank, inRanges, blankRanges, whiteSpace, List.any_cons, List.any_nil,
    Bool.or_eq_true, Bool.and_eq_true, decide_eq_true_eq, Bool.or_false, List.mem_cons,
    List.not_mem_nil, or_false]
  omega

theorem isBlankText_iff (s : String) : isBlankText s = true ↔ BlankText s := by
  rw [isBlankText, List.all_eq_true, BlankText]
  exact forall₂_congr fun c _ => isBlank_iff c

/-- A bound that is a NaN, infinite, a zero of either sign, or negative. -/
def Binary64.IsBadBound (x : Binary64) : Prop :=
  x.isNaN = true ∨ x.rank = Binary64.infinityRank ∨ x.rank = 0 ∨ x.isNegative = true

/-- The bounds that are not bad are the finite ones above zero. -/
theorem Binary64.not_isBadBound_iff (x : Binary64) :
    ¬ x.IsBadBound ↔ x.isFinite = true ∧ 0 < x.exact := by
  rw [Binary64.zero_lt_exact_iff]
  simp only [IsBadBound, isNaN, isFinite, decide_eq_true_eq, not_or, Bool.not_eq_true]
  constructor
  · rintro ⟨hnan, hinf, hzero, hneg⟩
    exact ⟨by omega, hneg, hzero⟩
  · rintro ⟨hfin, hneg, hzero⟩
    exact ⟨by omega, by omega, hzero, hneg⟩

namespace Draft

theorem isGoodBound_eq_false_iff (x : Binary64) : isGoodBound x = false ↔ x.IsBadBound := by
  rw [← not_iff_not, Binary64.not_isBadBound_iff, Bool.not_eq_false, isGoodBound, Bool.and_eq_true,
    Bool.not_eq_true', Binary64.zero_lt_exact_iff]
  refine and_congr_right fun hfin => ?_
  have hnan := Binary64.not_isNaN_of_isFinite hfin
  have hzero : Binary64.zero.isNaN = false ∧ Binary64.zero.key = 0 := by decide
  have hle : x.le .zero = decide (x.key ≤ 0) := by
    rw [Binary64.le, hnan, hzero.1, hzero.2]
    rfl
  rw [hle, decide_eq_false_iff_not, not_le, Binary64.key]
  cases hneg : x.isNegative with
  | true => simp
  | false =>
    simp only [Bool.false_eq_true, if_false, true_and]
    omega

end Draft

/-! ### The rules -/

/-- What comes of the choice of metrics `on`, the application id, which may be
left open, and the bounds, on a host of the given name. The first problem in
this order is the error, which stands beside its text: the application id is
blank; there are no bounds; a bound is bad, and then the first that is; two
neighbours are not in increasing order. -/
inductive Verdict (host : String) (on : Bool) (appId? : Option String) (bounds : List Binary64) :
    Except (SettingsError × String) Settings → Prop
  | blankAppId (id : String) (hid : appId? = some id) (hblank : BlankText id) :
      Verdict host on appId? bounds (.error (.blankAppId, "app id is empty"))
  | noBounds (hid : ∀ id, appId? = some id → ¬ BlankText id) (hnil : bounds = []) :
      Verdict host on appId? bounds (.error (.noBounds, "latency buckets are not set"))
  | badBound (hid : ∀ id, appId? = some id → ¬ BlankText id)
      (front : List Binary64) (x : Binary64) (back : List Binary64)
      (hbounds : bounds = front ++ x :: back) (hfront : ∀ y ∈ front, ¬ y.IsBadBound)
      (hbad : x.IsBadBound) :
      Verdict host on appId? bounds (.error (.badBound x, "latency bucket bound " ++
        SettingsError.boundLayout.write x ++ " must be finite and positive"))
  | unsortedBounds (hid : ∀ id, appId? = some id → ¬ BlankText id) (hne : bounds ≠ [])
      (hgood : ∀ x ∈ bounds, ¬ x.IsBadBound) (hdescent : HasDescent bounds) :
      Verdict host on appId? bounds
        (.error (.unsortedBounds, "latency buckets must be strictly increasing"))
  | taken (hid : ∀ id, appId? = some id → ¬ BlankText id) (hne : bounds ≠ [])
      (hgood : ∀ x ∈ bounds, ¬ x.IsBadBound) (hincreasing : ¬ HasDescent bounds) :
      Verdict host on appId? bounds (.ok ⟨on, appId?.getD host, bounds⟩)

namespace Draft

variable {host : String} {d : Draft} {r : Except (SettingsError × String) Settings}

theorem any_isBlankText_iff (appId? : Option String) :
    appId?.any isBlankText = true ↔ ∃ id, appId? = some id ∧ BlankText id := by
  cases appId? with
  | none => simp
  | some id => simp [isBlankText_iff]

/-- The application id passes its check when it is open or not blank. -/
theorem not_any_isBlankText {appId? : Option String}
    (h : ∀ id, appId? = some id → ¬ BlankText id) : ¬ appId?.any isBlankText = true := by
  rw [any_isBlankText_iff]
  rintro ⟨id, hid, hblank⟩
  exact h id hid hblank

theorem find?_isGoodBound_eq_none {bounds : List Binary64} (h : ∀ x ∈ bounds, ¬ x.IsBadBound) :
    bounds.find? (fun x => !isGoodBound x) = none := by
  rw [List.find?_eq_none]
  intro x hx
  have hgood : isGoodBound x = true := by
    rw [← Bool.not_eq_false, isGoodBound_eq_false_iff]
    exact h x hx
  rw [hgood]
  exact Bool.false_ne_true

theorem find?_isGoodBound_append {front back : List Binary64} {x : Binary64}
    (hfront : ∀ y ∈ front, ¬ y.IsBadBound) (hbad : x.IsBadBound) :
    (front ++ x :: back).find? (fun x => !isGoodBound x) = some x := by
  have hx : (!isGoodBound x) = true := by
    rw [(isGoodBound_eq_false_iff x).mpr hbad]
    rfl
  rw [List.find?_append, find?_isGoodBound_eq_none hfront, Option.none_or,
    List.find?_cons_of_pos (by exact hx)]

theorem isIncreasing_of_not_hasDescent {bounds : List Binary64}
    (hgood : ∀ x ∈ bounds, ¬ x.IsBadBound) (h : ¬ HasDescent bounds) :
    isIncreasing bounds = true := by
  have hfin : ∀ x ∈ bounds, x.isFinite = true := fun x hx =>
    ((Binary64.not_isBadBound_iff x).mp (hgood x hx)).1
  rw [← Bool.not_eq_false, isIncreasing_eq_false_iff hfin]
  exact h

theorem isIncreasing_of_hasDescent {bounds : List Binary64}
    (hgood : ∀ x ∈ bounds, ¬ x.IsBadBound) (h : HasDescent bounds) :
    isIncreasing bounds = false := by
  have hfin : ∀ x ∈ bounds, x.isFinite = true := fun x hx =>
    ((Binary64.not_isBadBound_iff x).mp (hgood x hx)).1
  exact (isIncreasing_eq_false_iff hfin).mpr h

/-- Building gives what a rule says that applies. -/
theorem build_of_verdict (h : Verdict host d.enabled d.appId? d.bounds r) :
    (d.build host).mapError (fun e => (e, e.message)) = r := by
  unfold build problem?
  cases h with
  | blankAppId id hid hblank =>
    have hany : d.appId?.any isBlankText = true := (any_isBlankText_iff _).mpr ⟨id, hid, hblank⟩
    rw [if_pos hany]
    rfl
  | noBounds hid hnil =>
    rw [if_neg (not_any_isBlankText hid), hnil]
    rfl
  | badBound hid front x back hbounds hfront hbad =>
    have hne : ¬ (front ++ x :: back).isEmpty = true := by simp
    rw [if_neg (not_any_isBlankText hid), hbounds, if_neg hne,
      find?_isGoodBound_append hfront hbad]
    rfl
  | unsortedBounds hid hne hgood hdescent =>
    have hlist : ¬ d.bounds.isEmpty = true := mt List.isEmpty_iff.mp hne
    simp only [if_neg (not_any_isBlankText hid), if_neg hlist, find?_isGoodBound_eq_none hgood,
      isIncreasing_of_hasDescent hgood hdescent]
    rfl
  | taken hid hne hgood hincreasing =>
    have hlist : ¬ d.bounds.isEmpty = true := mt List.isEmpty_iff.mp hne
    simp only [if_neg (not_any_isBlankText hid), if_neg hlist, find?_isGoodBound_eq_none hgood,
      isIncreasing_of_not_hasDescent hgood hincreasing]
    rfl

/-- Some rule applies. -/
theorem exists_verdict (host : String) (on : Bool) (appId? : Option String)
    (bounds : List Binary64) : ∃ r, Verdict host on appId? bounds r := by
  by_cases hblank : ∃ id, appId? = some id ∧ BlankText id
  · obtain ⟨id, hid, hid'⟩ := hblank
    exact ⟨_, .blankAppId id hid hid'⟩
  have hid : ∀ id, appId? = some id → ¬ BlankText id := fun id h h' => hblank ⟨id, h, h'⟩
  by_cases hnil : bounds = []
  · exact ⟨_, .noBounds hid hnil⟩
  cases hfind : bounds.find? fun x => !isGoodBound x with
  | some x =>
    obtain ⟨hx, front, back, hbounds, hfront⟩ := List.find?_eq_some_iff_append.mp hfind
    refine ⟨_, .badBound hid front x back hbounds (fun y hy => ?_) ?_⟩
    · have hgood := hfront y hy
      rw [← isGoodBound_eq_false_iff]
      simpa using hgood
    · rw [← isGoodBound_eq_false_iff]
      simpa using hx
  | none =>
    have hgood : ∀ x ∈ bounds, ¬ x.IsBadBound := fun x hx => by
      have hx' := List.find?_eq_none.mp hfind x hx
      rw [← isGoodBound_eq_false_iff]
      simpa using hx'
    by_cases hdescent : HasDescent bounds
    · exact ⟨_, .unsortedBounds hid hnil hgood hdescent⟩
    · exact ⟨_, .taken hid hnil hgood hdescent⟩

/-- Exactly one rule applies to a draft, and building does what it says. -/
theorem build_eq_iff_verdict :
    (d.build host).mapError (fun e => (e, e.message)) = r ↔
      Verdict host d.enabled d.appId? d.bounds r := by
  refine ⟨fun h => ?_, build_of_verdict⟩
  obtain ⟨r', hr'⟩ := exists_verdict host d.enabled d.appId? d.bounds
  have heq : r' = r := (build_of_verdict hr').symm.trans h
  exact heq ▸ hr'

/-- Only one rule gives settings. -/
theorem verdict_of_build {s : Settings} (h : d.build host = .ok s) :
    Verdict host d.enabled d.appId? d.bounds (.ok s) :=
  build_eq_iff_verdict.mp (mapError_eq_ok_iff.mpr h)

/-- Settings that were built have bounds that a distribution can have. -/
theorem goodBounds_of_build {s : Settings} (h : d.build host = .ok s) : GoodBounds s.bounds := by
  cases verdict_of_build h with
  | taken hid hne hgood hincreasing =>
    exact ⟨hne, fun x hx => ((Binary64.not_isBadBound_iff x).mp (hgood x hx)).1, hincreasing⟩

/-- The bounds of settings that were built are finite, above zero, and in order
throughout, as numbers and by their values. -/
theorem bounds_of_build {s : Settings} (h : d.build host = .ok s) :
    (∀ x ∈ s.bounds, x.isFinite = true ∧ 0 < x.exact) ∧
      s.bounds.Pairwise fun x y => x.lt y = true ∧ x.exact < y.exact := by
  cases verdict_of_build h with
  | taken hid hne hgood hincreasing =>
    have hpositive : ∀ x ∈ d.bounds, x.isFinite = true ∧ 0 < x.exact := fun x hx =>
      (Binary64.not_isBadBound_iff x).mp (hgood x hx)
    have hnan : ∀ x ∈ d.bounds, x.isNaN = false := fun x hx =>
      Binary64.not_isNaN_of_isFinite (hpositive x hx).1
    have hlt := pairwise_lt_of_isIncreasing hnan (isIncreasing_of_not_hasDescent hgood hincreasing)
    refine ⟨hpositive, hlt.imp_of_mem fun hx hy hxy => ⟨hxy, ?_⟩⟩
    exact (Binary64.lt_iff_exact_lt (hnan _ hx) (hnan _ hy)).mp hxy

/-- **The last choice of each kind decides.** For every list of choices on a
blank draft, what building gives, an error with its text, is what the rules say
of the last choice of each kind: metrics are on, the application id is open and
the bounds are the default ones where there was no choice. In settings that come
of it the bounds are finite, positive and strictly increasing at every pair of
positions. -/
theorem build_decided_by_last_choices (host : String) (choices : List Choice) :
    (∀ r, ((ofChoices choices).build host).mapError (fun e => (e, e.message)) = r ↔
      Verdict host ((Choice.lastOf Choice.enabled? choices).getD true)
        (Choice.lastOf Choice.appId? choices)
        ((Choice.lastOf Choice.bounds? choices).getD defaultBounds) r) ∧
    ∀ s, (ofChoices choices).build host = .ok s →
      (∀ x ∈ s.bounds, x.isFinite = true ∧ 0 < x.exact) ∧
        s.bounds.Pairwise fun x y => x.lt y = true ∧ x.exact < y.exact := by
  refine ⟨fun r => ?_, fun s hs => bounds_of_build hs⟩
  have hdraft := ofChoices_eq choices
  have hrules : ((ofChoices choices).build host).mapError (fun e => (e, e.message)) = r ↔
      Verdict host (ofChoices choices).enabled (ofChoices choices).appId?
        (ofChoices choices).bounds r := build_eq_iff_verdict
  rw [hdraft] at hrules ⊢
  exact hrules

/-- The blank application id and the bad bound are chosen anew, and the one
that is kept is not trimmed. -/
theorem build_decided_by_last_choices_of_five :
    let choices : List Choice := [.bounds [.zero], .enabled false, .appId "  ",
      .bounds [.ofNat 1, .ofNat 5], .appId " shop "]
    let s : Settings := ⟨false, " shop ", [.ofNat 1, .ofNat 5]⟩
    (ofChoices choices).build "host" = .ok s ∧
    Verdict "host" false (some " shop ") [.ofNat 1, .ofNat 5] (.ok s) ∧
    s.bounds.Pairwise fun x y => x.lt y = true ∧ x.exact < y.exact := by
  intro choices s
  have hok : (ofChoices choices).build "host" = .ok s := by decide +kernel
  obtain ⟨hrules, hbounds⟩ := build_decided_by_last_choices "host" choices
  exact ⟨hok, (hrules (.ok s)).mp (mapError_eq_ok_iff.mpr hok), (hbounds s hok).2⟩

end Draft
end Telemetry
