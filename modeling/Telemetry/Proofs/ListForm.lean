/-
# Settings written as a list

A document may write the settings as a list of their values in order, of which
the last may be missing. Each value is read where it stands by its position, as
the value of the member would be that the position stands for
(`feed_field`, `takesItems_values`). So a list is read as the object with these
members is (`read_of_list`, `read_of_members`), and what is missing is left open
in both. After the third value the list takes no more (`read_of_long_list`).

Key definitions: `Positions`, `ListText`.
Key theorems: `takesItems_values`, `read_of_list`, `read_of_long_list`,
`Fields.foldl_set_perm`, `forms_agree`.
-/
import Mathlib
import Telemetry.Proofs.SettingsDocument

namespace Telemetry.Document

open Json

/-! ### The documents -/

/-- The texts of the lists that have the values of these members, in this order. -/
inductive ListText (members : List Member) : List Char → Prop
  | mk {items : List (List Char)} {text w w' : List Char} (hw : Padding w) (hw' : Padding w')
      (hitems : List.Forall₂ Member.SpellsValue members items) (h : Separated items text) :
      ListText members (w ++ '[' :: text ++ ']' :: w')

/-- The members are those that come one after the other from the position of `f?`
on, and `g?` comes after them. -/
inductive Positions : Option Field → List Member → Option Field → Prop
  | nil (f? : Option Field) : Positions f? [] f?
  | cons {f : Field} {m : Member} {ms : List Member} {g? : Option Field}
      (hf : m.field? = some f) (hs : Positions f.next? ms g?) : Positions (some f) (m :: ms) g?

theorem Positions.eq_of_nil {f? g? : Option Field} (h : Positions f? [] g?) : g? = f? := by
  cases h
  rfl

theorem Positions.exists_of_cons {f? g? : Option Field} {m : Member} {ms : List Member}
    (h : Positions f? (m :: ms) g?) :
    ∃ f, f? = some f ∧ m.field? = some f ∧ Positions f.next? ms g? := by
  obtain _ | ⟨hf, hs⟩ := h
  exact ⟨_, rfl, hf, hs⟩

theorem positions_settings (on : Bool) (id : String) (xs : List Binary64) :
    Positions (some .enabled) [.enabled on, .appId id, .bounds xs] none :=
  .cons rfl (.cons rfl (.cons rfl (.nil none)))

theorem Positions.take {f? g? : Option Field} {members : List Member}
    (h : Positions f? members g?) (k : ℕ) : ∃ i?, Positions f? (members.take k) i? := by
  induction h generalizing k with
  | nil f? =>
    rw [List.take_nil]
    exact ⟨f?, .nil f?⟩
  | cons hf _ ih =>
    cases k with
    | zero => exact ⟨_, .nil _⟩
    | succ k =>
      obtain ⟨i?, hs⟩ := ih k
      exact ⟨i?, .cons hf hs⟩

theorem Positions.nodup_map {f? g? : Option Field} {members : List Member}
    (h : Positions f? members g?) (honce : (members.filterMap Member.field?).Nodup) :
    (members.map Member.field?).Nodup := by
  have heq : members.map Member.field? = (members.filterMap Member.field?).map some := by
    clear honce
    induction h with
    | nil => rfl
    | cons hf _ ih => rw [List.map_cons, List.filterMap_cons_some hf, hf, ih, List.map_cons]
  rw [heq]
  exact honce.map (Option.some_injective _)

/-- A text of items is divided at a comma between two of them. -/
theorem exists_comma_of_separated {ts us : List (List Char)} {text : List Char}
    (h : Separated (ts ++ us) text) (hts : ts ≠ []) (hus : us ≠ []) :
    ∃ front back, text = front ++ ',' :: back ∧ Separated ts front := by
  induction ts generalizing text with
  | nil => exact absurd rfl hts
  | cons t ts ih =>
    cases ts with
    | nil =>
      obtain ⟨u, us, rfl⟩ := List.exists_cons_of_ne_nil hus
      obtain _ | _ | ⟨hw, hw', -⟩ := h
      exact ⟨_, _, rfl, .single hw hw'⟩
    | cons t' ts =>
      obtain _ | _ | ⟨hw, hw', h⟩ := h
      obtain ⟨front, back, rfl, hfront⟩ := ih h (List.cons_ne_nil _ _)
      refine ⟨_, back, ?_, .cons hw hw' hfront⟩
      simp only [List.append_assoc, List.cons_append]

/-! ### How they are read -/

/-- The text of a value begins with no delimiter. -/
theorem Member.SpellsValue.exists_head {m : Member} {t : List Char} (h : m.SpellsValue t) :
    ∃ c t', t = c :: t' ∧ c ∉ delimiters := by
  cases h with
  | enabled on => exact (reads_bool true on).exists_head
  | appId | bounds => exact ⟨_, _, rfl, by decide⟩
  | other _ h => exact exists_head_of_valueText h

theorem takesItem_value {m : Member} {f : Field} (hf : m.field? = some f) {t : List Char}
    (h : m.SpellsValue t) (got : Fields) :
    TakesItem (.values (some f) got) t (.values f.next? (got.set m)) := by
  intro gap rest hgap hrest
  rw [State.feed_item rfl hgap h.exists_head]
  exact feed_field hf h .list got hrest

/-- Values are taken up as the members that their positions stand for. -/
theorem takesItems_values {members : List Member} {items : List (List Char)}
    (h : List.Forall₂ Member.SpellsValue members items) (hne : members ≠ []) {f? g? : Option Field}
    (hpos : Positions f? members g?) (got : Fields) :
    TakesItems (.values f? got) items (.values g? (members.foldl Fields.set got)) := by
  induction h generalizing f? got with
  | nil => exact absurd rfl hne
  | @cons m t ms ts h hs ih =>
    obtain ⟨f, rfl, hf, hpos⟩ := hpos.exists_of_cons
    have hitem := takesItem_value hf h got
    cases hs with
    | nil =>
      rw [hpos.eq_of_nil]
      exact .single hitem
    | cons =>
      -- another value is to come, so the settings have a member after this one
      have hmore : (Open.values f.next? (got.set m)).takesMore = true := by
        obtain ⟨g, hg, -⟩ := hpos.exists_of_cons
        rw [hg]
        rfl
      exact .cons hitem hmore (ih (List.cons_ne_nil _ _) hpos _)

/-- A list is read up to what follows its values. -/
theorem feed_list {members : List Member} {items : List (List Char)} {text w rest : List Char}
    (hw : Padding w) (hitems : List.Forall₂ Member.SpellsValue members items)
    (hne : members ≠ []) {g? : Option Field} (hpos : Positions (some .enabled) members g?)
    (h : Separated items text) (hrest : AtDelimiter rest) :
    State.start.feed (w ++ '[' :: (text ++ rest)) =
      (State.between .after (.values g? (members.foldl Fields.set {}))).feed rest := by
  rw [State.start, State.feed_padding rfl hw, State.feed_cons_of_step rfl]
  exact State.feed_items h (takesItems_values hitems hne hpos {}) (by decide) hrest

/-- A list of values is read as their members in order. -/
theorem read_of_list {members : List Member} {document : String}
    (h : ListText members document.toList) {g? : Option Field}
    (hpos : Positions (some .enabled) members g?) :
    read document = .ok (members.foldl Fields.set {}) := by
  have hfeed : State.start.feed document.toList = .ok (.closed (members.foldl Fields.set {})) := by
    generalize document.toList = text at h
    obtain @⟨items, text, w, w', hw, hw', hitems, h⟩ := h
    have hclosing : ∀ {gap next? got}, gap ≠ Gap.next →
        (State.between gap (.values next? got)).feed (']' :: w') = .ok (.closed got) := by
      intro gap next? got hgap
      have hstep : (State.between gap (.values next? got)).step ']' = .ok (.closed got) :=
        State.step_closing (o := .values next? got) hgap
      rw [State.feed_cons_of_step hstep]
      exact State.feed_closed hw' got
    rw [List.append_assoc, List.cons_append]
    cases hitems with
    | nil =>
      obtain ⟨hnone⟩ := h
      rw [State.start, State.feed_padding rfl hw, State.feed_cons_of_step rfl]
      exact (State.feed_padding rfl hnone _).trans (hclosing (by decide))
    | cons hitem hitems =>
      rw [feed_list hw (.cons hitem hitems) (List.cons_ne_nil _ _) hpos h ⟨_, _, rfl, by decide⟩]
      exact hclosing (by decide)
  rw [read, hfeed]
  rfl

/-- After the last value that the settings have, a comma is malformed, whatever
follows it. -/
theorem read_of_long_list {members : List Member} {items extra : List (List Char)}
    {text w rest : List Char} {document : String} (hw : Padding w)
    (hpos : Positions (some .enabled) members none)
    (hitems : List.Forall₂ Member.SpellsValue members items) (hextra : extra ≠ [])
    (h : Separated (items ++ extra) text) (hdocument : document.toList = w ++ '[' :: text ++ rest) :
    read document = .error .malformed := by
  have hne : members ≠ [] := by
    rintro rfl
    cases hpos
  have hitemsne : items ≠ [] := by
    rintro rfl
    exact hne (List.forall₂_nil_right_iff.mp hitems)
  -- the comma before what is extra decides, so that need not be looked at
  obtain ⟨front, back, rfl, hfront⟩ := exists_comma_of_separated h hitemsne hextra
  have hcomma : AtDelimiter (',' :: (back ++ rest)) := ⟨_, _, rfl, by decide⟩
  have hfeed := feed_list hw hitems hne hpos hfront hcomma
  have hend : (State.between .after (.values none (members.foldl Fields.set {}))).feed
      (',' :: (back ++ rest)) = .error .malformed := by
    rw [State.feed_cons]
    rfl
  have htext : document.toList = w ++ '[' :: (front ++ ',' :: (back ++ rest)) := by
    simp [hdocument]
  rw [read, htext, hfeed, hend]
  rfl

/-! ### The two forms -/

/-- Members of different kinds can be taken up in either order. -/
theorem Fields.set_comm {m m' : Member} (h : m.field? ≠ m'.field?) (got : Fields) :
    (got.set m).set m' = (got.set m').set m := by
  cases m <;> cases m' <;> first | rfl | exact absurd rfl h

theorem Fields.foldl_set_perm {members members' : List Member} (h : members'.Perm members)
    (honce : (members.map Member.field?).Nodup) (got : Fields) :
    members'.foldl Fields.set got = members.foldl Fields.set got :=
  foldl_eq_of_perm (fun got _ _ hne => Fields.set_comm hne got) h honce got

/-- The settings of the first values, with the defaults for the others. -/
theorem Fields.toSettings_foldl_set_take (on : Bool) (id : String) (xs : List Binary64) (k : ℕ) :
    (([Member.enabled on, .appId id, .bounds xs].take k).foldl Fields.set {}).toSettings =
      ⟨if 0 < k then on else true, if 1 < k then id else "", if 2 < k then xs else defaultBounds⟩ := by
  match k with
  | 0 | 1 | 2 => rfl
  | k + 3 => simp [Fields.set, Fields.toSettings]

/-- **The two forms of a document agree.** The list of the first `k` of the three
values and the object of the first `k` members, in any order, spelled in any way
and with any white space, are read as the same settings, in which what is missing
is the default. Either is loaded by building the same draft, in which an empty
application id is left open, so both give the same settings or the same error. A
list that goes on after the third value is malformed, whatever comes there. -/
theorem forms_agree (on : Bool) (id : String) (xs : List Binary64) :
    (∀ k : ℕ, ∀ members : List Member,
      members = [Member.enabled on, .appId id, .bounds xs].take k →
      ∀ list : String, ListText members list.toList →
      ∀ (members' : List Member) (object : String), members'.Perm members →
        DocumentText members' object.toList →
      ∃ got, read list = .ok got ∧ read object = .ok got ∧
        got.toSettings = ⟨if 0 < k then on else true, if 1 < k then id else "",
          if 2 < k then xs else defaultBounds⟩ ∧
        got.toDraft = ⟨if 0 < k then on else true, if 1 < k ∧ id ≠ "" then some id else none,
          if 2 < k then xs else defaultBounds⟩ ∧
        ∀ host, Settings.load host list = (got.toDraft.build host).mapError .invalid ∧
          Settings.load host object = (got.toDraft.build host).mapError .invalid) ∧
    ∀ (items extra : List (List Char)) (text w rest : List Char) (list : String), Padding w →
      List.Forall₂ Member.SpellsValue [.enabled on, .appId id, .bounds xs] items → extra ≠ [] →
      Separated (items ++ extra) text → list.toList = w ++ '[' :: text ++ rest →
      read list = .error .malformed := by
  constructor
  · intro k members hmembers list hlist members' object hperm hobject
    obtain ⟨g?, hpos⟩ := (positions_settings on id xs).take k
    rw [← hmembers] at hpos
    have honce : (members.filterMap Member.field?).Nodup := by
      have hall : ([Member.enabled on, .appId id, .bounds xs].filterMap Member.field?).Nodup :=
        show [Field.enabled, .appId, .bounds].Nodup by decide
      rw [hmembers]
      exact hall.sublist ((List.take_sublist k _).filterMap _)
    have hread : read list = _ := read_of_list hlist hpos
    have hread' : read object = .ok (members.foldl Fields.set {}) := by
      rw [← Fields.foldl_set_perm hperm (hpos.nodup_map honce)]
      exact read_of_members hobject (((hperm.filterMap _).nodup_iff).mpr honce)
    have hsettings := Fields.toSettings_foldl_set_take on id xs k
    rw [← hmembers] at hsettings
    refine ⟨_, hread, hread', hsettings, ?_, fun host =>
      ⟨Settings.load_of_read_eq_ok hread host, Settings.load_of_read_eq_ok hread' host⟩⟩
    rw [Fields.toDraft, hsettings, Draft.mk.injEq]
    refine ⟨rfl, ?_, rfl⟩
    by_cases hk : 1 < k
    · simp [hk]
    · simp [hk]
  · intro items extra text w rest list hw hitems hextra h hlist
    exact read_of_long_list hw (positions_settings on id xs) hitems hextra h hlist

/-- A list with white space and a bound in exponent form, and an object with the
same members in another order and an escape in one. Both are loaded as the same
settings. The same list, with more in it, is malformed. -/
theorem forms_agree_of_three :
    (∃ got, read "[false ,\"shop\",[5e0]]" = .ok got ∧
      read "\x7b\"latencyBucketsMs\":[5],\"enabled\":false,\"appId\":\"sh\\u006fp\"\x7d" =
        .ok got ∧
      got.toSettings = ⟨false, "shop", [.ofNat 5]⟩) ∧
    Settings.load "host" "[false ,\"shop\",[5e0]]" = .ok ⟨false, "shop", [.ofNat 5]⟩ ∧
    Settings.load "host"
        "\x7b\"latencyBucketsMs\":[5],\"enabled\":false,\"appId\":\"sh\\u006fp\"\x7d" =
      .ok ⟨false, "shop", [.ofNat 5]⟩ ∧
    read "[false ,\"shop\",[5e0],null]" = .error .malformed := by
  have hnil : Padding [] := by decide
  have hspace : Padding [' '] := by decide
  have hwhole : IsWhole [5] := by decide
  have hdigits : IsDigits [0] := by decide
  have hplain : SpellsBound (.ofNat 5) ['5'] :=
    ⟨⟨false, [5], [], none⟩, .natural 5, @SpellsNumeral.mk _ [] [] hwhole .none .none, rfl, rfl⟩
  have hexponent : SpellsBound (.ofNat 5) ['5', 'e', '0'] :=
    ⟨⟨false, [5], [], some (false, [0])⟩, .float (.ofNat 5),
      @SpellsNumeral.mk _ [] _ hwhole .none (.some (.inl rfl) .none hdigits),
      by decide +kernel, rfl⟩
  have hshop : Json.Spells "shop".toList "shop".toList := spells_self (by simp [IsPlain])
  have hescaped : Json.Spells ['s', 'h', 'o', 'p'] "sh\\u006fp".toList := by
    have hunit : HexUnit ['0', '0', '6', 'f'] 'o'.toNat := hexUnit_digits 0 0 6 15
    exact .cons (.plain (by simp [IsPlain])) (.cons (.plain (by simp [IsPlain]))
      (.cons (.unit hunit) (spells_self (by simp [IsPlain]))))
  have hvalues : List.Forall₂ Member.SpellsValue [.enabled false, .appId "shop", .bounds [.ofNat 5]]
      ["false".toList, "\"shop\"".toList, "[5e0]".toList] :=
    .cons (.enabled false) (.cons (.appId hshop)
      (.cons (.bounds (.single hnil hnil) (.cons hexponent .nil)) .nil))
  have hlist : ListText [.enabled false, .appId "shop", .bounds [.ofNat 5]]
      "[false ,\"shop\",[5e0]]".toList :=
    .mk hnil hnil hvalues (.cons hnil hspace (.cons hnil hnil (.single hnil hnil)))
  have hobject : DocumentText [.bounds [.ofNat 5], .enabled false, .appId "shop"] (String.toList
      "\x7b\"latencyBucketsMs\":[5],\"enabled\":false,\"appId\":\"sh\\u006fp\"\x7d") := by
    have hbounds : (Member.bounds [.ofNat 5]).Spells
        ⟨"latencyBucketsMs".toList, [], [], "[5]".toList⟩ :=
      ⟨Field.bounds.spells_key, hnil, hnil, .bounds (.single hnil hnil) (.cons hplain .nil)⟩
    have henabled : (Member.enabled false).Spells ⟨"enabled".toList, [], [], "false".toList⟩ :=
      ⟨Field.enabled.spells_key, hnil, hnil, .enabled false⟩
    have hid : (Member.appId "shop").Spells ⟨"appId".toList, [], [], "\"sh\\u006fp\"".toList⟩ :=
      ⟨Field.appId.spells_key, hnil, hnil, @Member.SpellsValue.appId "shop" _ hescaped⟩
    exact .mk hnil hnil (.cons hbounds (.cons henabled (.cons hid .nil)))
      (.cons hnil hnil (.cons hnil hnil (.single hnil hnil)))
  obtain ⟨hagree, hlong⟩ := forms_agree false "shop" [.ofNat 5]
  have hperm : [Member.bounds [.ofNat 5], .enabled false, .appId "shop"].Perm
      [.enabled false, .appId "shop", .bounds [.ofNat 5]] := by decide +kernel
  obtain ⟨got, hread, hread', hsettings, hdraft, hload⟩ :=
    hagree 3 _ rfl _ hlist _ _ hperm hobject
  have hbuild : (got.toDraft.build "host").mapError LoadError.invalid =
      .ok ⟨false, "shop", [.ofNat 5]⟩ := by
    rw [hdraft]
    decide +kernel
  refine ⟨⟨got, hread, hread', hsettings⟩, (hload "host").1.trans hbuild,
    (hload "host").2.trans hbuild, ?_⟩
  exact hlong _ ["null".toList] _ [] "]".toList _ hnil hvalues (List.cons_ne_nil _ _)
    (.cons hnil hspace (.cons hnil hnil (.cons hnil hnil (.single hnil hnil)))) rfl

end Telemetry.Document
