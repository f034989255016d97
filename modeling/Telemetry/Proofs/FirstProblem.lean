/-
# The first problem of a document decides

A document is read in one pass. Nothing but the end of the settings accepts it
(`State.finish_eq_ok_iff`), and only white space can follow that end, so a
document that ends with its bracket cannot be cut (`read_of_cut`), nor lengthened
by anything else (`read_append_of_ok`). An error met on the way stands. One that is
met only at the end of the text is that of a number that could go on; any
character that does not continue the number shows the same error
(`State.feed_of_finish_eq_error`). A member that stands twice is such an error, as
soon as its key is read for the second time (`feed_repeated_key`).

Key definitions: `ReadError.IsData`, `OpeningText`.
Key theorems: `State.finish_eq_ok_iff`, `read_of_cut`, `read_append_of_ok`,
`read_append_of_error`, `feed_repeated_key`, `first_problem_decides`.
-/
import Mathlib
import Telemetry.Proofs.SettingsDocument

namespace Telemetry.Document

open Json

/-- An error in a document that is well-formed so far: a value of the wrong kind,
or a member that stands twice. -/
def ReadError.IsData : ReadError → Prop
  | .mismatch .. | .repeated _ => True
  | .unfinished | .malformed => False

/-! ### The end of the text -/

namespace State

variable {s : State} {got : Fields}

theorem finish_number {place : Place} {n : NumberState} (hp : n.phase.isComplete = true) :
    (State.within place (.number n)).finish =
      place.accept (.numeral n.read) >>= fun _ => .error .unfinished := by
  simp only [finish, ScalarState.finish?, NumberState.finish?, if_pos hp, Option.map_some]

/-- What the end of the text can mean: the settings are closed, or the document is
incomplete, or a number ends there that is not what its place wants. -/
theorem finish_cases (s : State) :
    (∃ got, s = .closed got) ∨ s.finish = .error .unfinished ∨ s.finish = .error .malformed ∨
    ∃ place n e, s = .within place (.number n) ∧ n.phase.isComplete = true ∧
      place.accept (.numeral n.read) = .error e ∧ s.finish = .error e := by
  cases s with
  | closed got => exact Or.inl ⟨got, rfl⟩
  | before | between | key | colon => exact Or.inr (Or.inl rfl)
  | within place scalar =>
    right
    cases scalar with
    | literal | text => exact Or.inl rfl
    | number n =>
      by_cases hp : n.phase.isComplete = true
      · rw [finish_number hp]
        cases haccept : place.accept (.numeral n.read) with
        | ok o => exact Or.inl rfl
        | error e => exact Or.inr (Or.inr ⟨place, n, e, rfl, hp, haccept, rfl⟩)
      · have hnone : (ScalarState.number n).finish? = none := by
          rw [ScalarState.finish?, NumberState.finish?, if_neg hp, Option.map_none]
        cases hkept : place.isKept <;> simp [finish, hnone, hkept, ScalarState.isNumber]

/-- A text is accepted only where the settings are closed. -/
theorem finish_eq_ok_iff : s.finish = .ok got ↔ s = .closed got := by
  constructor
  · intro h
    rcases s.finish_cases with ⟨got', rfl⟩ | hs | hs | ⟨_, _, _, -, -, -, hs⟩
    · cases h
      rfl
    all_goals
      rw [hs] at h
      cases h
  · rintro rfl
    rfl

/-- A data error at the end of the text is that of a number which is complete
there. -/
theorem number_of_finish_eq_error {e : ReadError} (h : s.finish = .error e) (he : e.IsData) :
    ∃ place n, s = .within place (.number n) ∧ n.phase.isComplete = true ∧
      place.accept (.numeral n.read) = .error e := by
  rcases s.finish_cases with ⟨got, rfl⟩ | hs | hs | ⟨place, n, e', heq, hp, haccept, hs⟩
  · cases h
  · rw [hs] at h
    cases h
    exact he.elim
  · rw [hs] at h
    cases h
    exact he.elim
  · rw [hs] at h
    cases h
    exact ⟨place, n, heq, hp, haccept⟩

/-- The error of a number that ends with the text is also met at any character
that does not continue the number. -/
theorem feed_of_finish_eq_error {e : ReadError} (h : s.finish = .error e) (he : e.IsData)
    {c : Char} (hc : ¬ ContinuesNumber c) (more : List Char) : s.feed (c :: more) = .error e := by
  obtain ⟨place, ⟨p, n⟩, rfl, hp, haccept⟩ := number_of_finish_eq_error h he
  -- the character ends the number, which then goes to its place as at the end of the text
  have hstep : (State.within place (.number ⟨p, n⟩)).step c = .error e := by
    simp only [step, ScalarState.step, NumberState.step_of_not_continues hc hp, haccept]
    rfl
  rw [feed_cons, hstep]
  rfl

/-! ### After the settings -/

/-- After the settings nothing but white space can come. -/
theorem feed_closed_of_not_space {more : List Char} (h : ∃ c ∈ more, isSpace c = false) :
    (State.closed got).feed more = .error .malformed := by
  induction more with
  | nil =>
    obtain ⟨c, hc, -⟩ := h
    exact absurd hc List.not_mem_nil
  | cons c more ih =>
    by_cases hc : isSpace c = true
    · rw [feed_cons_of_step (step_space rfl hc)]
      obtain ⟨d, hd, hspace⟩ := h
      rcases List.mem_cons.mp hd with rfl | hd
      · rw [hc] at hspace
        cases hspace
      · exact ih ⟨d, hd, hspace⟩
    · have hstep : (State.closed got).step c = .error .malformed := if_neg hc
      rw [feed_cons, hstep]
      rfl

end State

/-! ### Cut and lengthened documents -/

variable {document : String}

theorem read_eq_ok_iff {got : Fields} :
    read document = .ok got ↔ State.start.feed document.toList = .ok (.closed got) := by
  rw [read]
  cases hfeed : State.start.feed document.toList with
  | error e =>
    constructor
    · intro h
      cases h
    · intro h
      cases h
  | ok s =>
    rw [Except.ok.injEq]
    exact State.finish_eq_ok_iff

/-- What follows a document that is read goes on after the settings. -/
theorem read_append_of_ok {got : Fields} (h : read document = .ok got) {more : String}
    (hmore : ∃ c ∈ more.toList, isSpace c = false) : read (document ++ more) = .error .malformed := by
  rw [read, String.toList_append, State.feed_append, read_eq_ok_iff.mp h]
  show (do (← (State.closed got).feed more.toList).finish) = Except.error ReadError.malformed
  rw [State.feed_closed_of_not_space hmore]
  rfl

/-- A document that was cut before its last bracket is not read: if it were, that
bracket would come after the settings. -/
theorem read_of_cut {got : Fields} {p q : String} (h : read (p ++ q) = .ok got)
    (hq : ∃ c ∈ q.toList, isSpace c = false) : ∃ e, read p = .error e := by
  cases hp : read p with
  | error e => exact ⟨e, rfl⟩
  | ok got' =>
    rw [read_append_of_ok hp hq] at h
    cases h

/-- A data error stands, unless it is that of a number that goes on. -/
theorem read_append_of_error {e : ReadError} (h : read document = .error e) (he : e.IsData)
    {more : String} (hmore : ∀ c, more.toList.head? = some c → ¬ ContinuesNumber c) :
    read (document ++ more) = .error e := by
  rw [read] at h
  rw [read, String.toList_append]
  cases hfeed : State.start.feed document.toList with
  | error e' =>
    rw [hfeed] at h
    rw [State.feed_append_of_error hfeed]
    exact h
  | ok s =>
    rw [hfeed] at h
    rw [State.feed_append, hfeed]
    show (do (← s.feed more.toList).finish) = Except.error e
    cases htext : more.toList with
    | nil => exact h
    | cons c rest =>
      have hc : ¬ ContinuesNumber c := hmore c (by rw [htext]; rfl)
      rw [State.feed_of_finish_eq_error h he hc]
      rfl

/-! ### Repeated members -/

/-- The beginnings of the objects that have these members first. -/
inductive OpeningText (members : List Member) : List Char → Prop
  | mk {parts : List MemberParts} {text w : List Char} (hw : Padding w)
      (hparts : List.Forall₂ Member.Spells members parts)
      (h : Separated (parts.map MemberParts.text) text) : OpeningText members (w ++ '{' :: text)

theorem Fields.has_set {got : Fields} {m : Member} {f : Field} :
    (got.set m).has f = true ↔ m.field? = some f ∨ got.has f = true := by
  by_cases h : m.field? = some f
  · have hself : (got.set m).has f = true := by
      cases m <;> cases h <;> rfl
    exact iff_of_true hself (Or.inl h)
  · rw [Fields.has_set_of_ne h, or_iff_right h]

theorem Fields.has_foldl_set {members : List Member} {got : Fields} {f : Field} :
    (members.foldl Fields.set got).has f = true ↔
      f ∈ members.filterMap Member.field? ∨ got.has f = true := by
  induction members generalizing got with
  | nil => simp
  | cons m members ih =>
    simp only [List.foldl_cons, ih, Fields.has_set, List.mem_filterMap, List.mem_cons,
      exists_eq_or_imp]
    exact or_left_comm.trans or_assoc.symm

theorem feed_opening {members : List Member} {front rest : List Char}
    (h : OpeningText members front) (hne : members ≠ [])
    (honce : (members.filterMap Member.field?).Nodup) (hrest : AtDelimiter rest) :
    State.start.feed (front ++ rest) =
      (State.between .after (.members (.settings (members.foldl Fields.set {})))).feed rest := by
  obtain @⟨parts, text, w, hw, hparts, h⟩ := h
  have hread := readsItems_members hparts (Once.start honce)
  rw [State.start, List.append_assoc, List.cons_append, State.feed_padding rfl hw,
    State.feed_cons_of_step rfl]
  cases hparts with
  | nil => exact absurd rfl hne
  | cons => exact State.feed_items h hread.takes (by decide) hrest

/-- A member is refused at its key, if the settings have it. -/
theorem feed_repeated_key {members : List Member} {front w key : List Char} {f : Field}
    (h : OpeningText members front) (honce : (members.filterMap Member.field?).Nodup)
    (hf : f ∈ members.filterMap Member.field?) (hw : Padding w)
    (hkey : Json.Spells f.key.toList key) (rest : List Char) :
    State.start.feed (front ++ ',' :: (w ++ '"' :: (key ++ '"' :: rest))) =
      .error (.repeated f) := by
  have hne : members ≠ [] := by
    rintro rfl
    cases hf
  have hhas : (members.foldl Fields.set {}).has f = true := Fields.has_foldl_set.mpr (Or.inl hf)
  have hplace : (Owner.settings (members.foldl Fields.set {})).place f.key =
      .error (.repeated f) := by
    have hof : Field.ofKey? f.key = some f := Field.ofKey?_eq_some_iff.mpr rfl
    simp only [Owner.place, hof, hhas, if_true]
  have hthrough := hkey.through ""
  rw [String.empty_append, String.ofList_toList] at hthrough
  rw [feed_opening h hne honce ⟨_, _, rfl, by decide⟩,
    State.feed_cons_of_step (State.step_comma rfl), State.feed_padding rfl hw,
    State.feed_key (.settings _) hthrough (by decide), hplace]
  rfl

/-! ### The first problem -/

theorem Settings.load_of_read_eq_error {e : ReadError} (h : read document = .error e)
    (host : String) : Settings.load host document = .error (.unreadable e) := by
  rw [Settings.load, h]

/-- **The first problem of a document decides.** If a document is read and ends
with its bracket, then cut anywhere it is not loaded at all, and with anything but
white space after it, it is malformed. If it has a data error, it has the same
error whatever follows, unless that could go on with a number. And the
second member of a kind is such an error as soon as its key is read, whatever its
value and whatever follows. -/
theorem first_problem_decides (document : String) :
    (∀ got, read document = .ok got →
      document.toList.getLast? = some '}' ∨ document.toList.getLast? = some ']' →
      (∀ p q : String, document = p ++ q → q ≠ "" →
        ∃ e, read p = .error e ∧ ∀ host, Settings.load host p = .error (.unreadable e)) ∧
      ∀ more : String, (∃ c ∈ more.toList, isSpace c = false) →
        read (document ++ more) = .error .malformed) ∧
    (∀ e, read document = .error e → e.IsData →
      ∀ more : String, (∀ c, more.toList.head? = some c → ¬ ContinuesNumber c) →
        read (document ++ more) = .error e) ∧
    ∀ (members : List Member) (front w key rest : List Char) (f : Field),
      OpeningText members front → (members.filterMap Member.field?).Nodup →
      f ∈ members.filterMap Member.field? → Padding w → Json.Spells f.key.toList key →
      document.toList = front ++ ',' :: (w ++ '"' :: (key ++ '"' :: rest)) →
      read document = .error (.repeated f) ∧ (ReadError.repeated f).IsData := by
  refine ⟨fun got hread hend => ⟨?_, fun more hmore => read_append_of_ok hread hmore⟩,
    fun e hread he more hmore => read_append_of_error hread he hmore, ?_⟩
  · rintro p q rfl hq
    have hbracket : ∃ c ∈ q.toList, isSpace c = false := by
      have hne : q.toList ≠ [] := fun h => hq (String.toList_eq_nil_iff.mp h)
      rw [String.toList_append, List.getLast?_append_of_ne_nil _ hne] at hend
      rcases hend with hend | hend
      · exact ⟨_, List.mem_of_getLast? hend, rfl⟩
      · exact ⟨_, List.mem_of_getLast? hend, rfl⟩
    obtain ⟨e, he⟩ := read_of_cut hread hbracket
    exact ⟨e, he, Settings.load_of_read_eq_error he⟩
  · intro members front w key rest f h honce hf hw hkey htext
    refine ⟨?_, trivial⟩
    rw [read, htext, feed_repeated_key h honce hf hw hkey]
    rfl

/-- A document that is cut, or lengthened by a bracket; a number that is no choice,
with and without a text after it; and a member that stands twice, its key written in
two ways. -/
theorem first_problem_decides_for_four :
    (∃ e, read "\x7b\"enabled\":true" = .error e) ∧
    read "\x7b\"enabled\":true\x7d ]" = .error .malformed ∧
    read "\x7b\"enabled\":1 what" = .error (.mismatch (.number (.natural 1)) .bool) ∧
    read "\x7b\"enabled\":true, \"\\u0065nabled\":true?" = .error (.repeated .enabled) := by
  have hread : read "\x7b\"enabled\":true\x7d" = .ok { enabled? := some true } := by decide +kernel
  have hnumber : read "\x7b\"enabled\":1" = .error (.mismatch (.number (.natural 1)) .bool) := by
    decide +kernel
  have hfront : OpeningText [.enabled true] "\x7b\"enabled\":true".toList := by
    have hnil : Padding [] := by decide
    have hmember : (Member.enabled true).Spells ⟨"enabled".toList, [], [], "true".toList⟩ :=
      ⟨Field.enabled.spells_key, hnil, hnil, .enabled true⟩
    exact .mk hnil (.cons hmember .nil) (.single hnil hnil)
  have hkey : Json.Spells ('e' :: ['n', 'a', 'b', 'l', 'e', 'd']) "\\u0065nabled".toList := by
    have hunit : HexUnit ['0', '0', '6', '5'] 'e'.toNat := hexUnit_digits 0 0 6 5
    exact .cons (.unit hunit) (spells_self (by simp [IsPlain]))
  obtain ⟨hcut, hlong⟩ := (first_problem_decides _).1 _ hread (Or.inl rfl)
  obtain ⟨e, he, -⟩ := hcut "\x7b\"enabled\":true" "\x7d" rfl (by decide)
  refine ⟨⟨e, he⟩, hlong " ]" ⟨']', by decide, rfl⟩, ?_, ?_⟩
  · exact (first_problem_decides _).2.1 _ hnumber trivial " what" fun c hc => by
      cases hc
      decide
  · have hspace : Padding [' '] := by decide
    exact ((first_problem_decides _).2.2 _ _ [' '] _ ":true?".toList .enabled hfront (by decide)
      (by decide) hspace hkey rfl).1

end Telemetry.Document
