/-
# Settings documents in any spelling

A settings document is an object text. Its members are told as they are meant
(`Member`), and the texts that write them are those of the grammar: members in
any order, white space anywhere, keys and texts with any escapes, other members
with any value (`DocumentText`). If no key of the settings stands twice, such a
document is read as its members in order (`read_of_members`), and the settings
are those of a draft with the choices that the members make
(`Settings.load_of_members`). Choices of different kinds commute, so neither the
order of the members nor anything else about the text matters.

Key definitions: `Member`, `Member.choice?`, `Member.Spells`, `DocumentText`,
`Fields.set`, `Once`.
Key theorems: `readsItem_member`, `read_of_members`, `toDraft_foldl_set`,
`Draft.ofChoices_perm`, `Settings.load_of_choices`, `Settings.load_of_members`.
-/
import Mathlib
import Telemetry.Document.Load
import Telemetry.Proofs.DocumentReading

namespace Telemetry

/-- If elements of different kinds commute, and no kind stands twice, a fold does
not depend on the order. -/
theorem foldl_eq_of_perm {α β κ : Type} {f : β → α → β} {kind : α → κ}
    (hcomm : ∀ b a a', kind a ≠ kind a' → f (f b a) a' = f (f b a') a) {as as' : List α}
    (h : as.Perm as') (hn : (as'.map kind).Nodup) (b : β) : as.foldl f b = as'.foldl f b := by
  have hn : (as.map kind).Nodup := ((h.map kind).nodup_iff).mpr hn
  refine h.foldl_eq' (fun a ha a' ha' b => ?_) b
  by_cases hkind : kind a = kind a'
  · rw [List.inj_on_of_nodup_map hn ha ha' hkind]
  · exact hcomm b a a' hkind

/-- The member of a document that makes such a choice. -/
def Choice.field : Choice → Document.Field
  | .enabled _ => .enabled
  | .appId _ => .appId
  | .bounds _ => .bounds

namespace Document

open Json

/-! ### The documents -/

/-- A member of a settings document, as it is meant. -/
inductive Member
  | enabled (on : Bool)
  | appId (id : String)
  | bounds (xs : List Binary64)
  /-- A member that is passed over. -/
  | other (key : String)
deriving DecidableEq, Repr

/-- The ways to write a bound: a numeral, and it denotes a number. -/
def SpellsBound (x : Binary64) (t : List Char) : Prop :=
  ∃ n number, SpellsNumeral n t ∧ n.value? = some number ∧ number.toBinary64 = x

namespace Member

def field? : Member → Option Field
  | .enabled _ => some .enabled
  | .appId _ => some .appId
  | .bounds _ => some .bounds
  | .other _ => none

def key : Member → String
  | .enabled _ => Field.enabled.key
  | .appId _ => Field.appId.key
  | .bounds _ => Field.bounds.key
  | .other key => key

/-- The choice that the member makes. An empty application id is none. -/
def choice? : Member → Option Choice
  | .enabled on => some (.enabled on)
  | .appId id => if id = "" then none else some (.appId id)
  | .bounds xs => some (.bounds xs)
  | .other _ => none

/-- The ways to write the value of a member. -/
inductive SpellsValue : Member → List Char → Prop
  | enabled (on : Bool) :
      SpellsValue (.enabled on)
        (if on then ['t', 'r', 'u', 'e'] else ['f', 'a', 'l', 's', 'e'])
  | appId {id : String} {t : List Char} (h : Json.Spells id.toList t) :
      SpellsValue (.appId id) ('"' :: t ++ ['"'])
  | bounds {xs : List Binary64} {items : List (List Char)} {text : List Char}
      (h : Separated items text) (hitems : List.Forall₂ SpellsBound xs items) :
      SpellsValue (.bounds xs) ('[' :: text ++ [']'])
  | other {key : String} {t : List Char} (hkey : ∀ f : Field, f.key ≠ key) (h : ValueText t) :
      SpellsValue (.other key) t

/-- The ways to write a member. -/
structure Spells (m : Member) (p : MemberParts) : Prop where
  key : Json.Spells m.key.toList p.key
  before : Padding p.before
  after : Padding p.after
  value : m.SpellsValue p.value

end Member

/-- The keys of the settings need no escapes. -/
theorem Field.spells_key (f : Field) : Json.Spells f.key.toList f.key.toList := by
  cases f <;> exact spells_self (by simp [Field.key, IsPlain])

/-- The texts of the documents with these members, in this order. -/
inductive DocumentText (members : List Member) : List Char → Prop
  | mk {parts : List MemberParts} {text w w' : List Char} (hw : Padding w) (hw' : Padding w')
      (hparts : List.Forall₂ Member.Spells members parts)
      (h : Separated (parts.map MemberParts.text) text) :
      DocumentText members (w ++ '{' :: text ++ '}' :: w')

/-! ### What is read of them -/

namespace Fields

/-- Takes up a member. -/
def set (got : Fields) : Member → Fields
  | .enabled on => { got with enabled? := some on }
  | .appId id => { got with appId? := some id }
  | .bounds xs => { got with bounds? := some xs }
  | .other _ => got

theorem has_set_of_ne {got : Fields} {m : Member} {f : Field} (h : m.field? ≠ some f) :
    (got.set m).has f = got.has f := by
  cases m <;> cases f <;> first | rfl | exact absurd rfl h

end Fields

/-- No member of the settings stands twice, among those to come or with what was
read. -/
structure Once (got : Fields) (members : List Member) : Prop where
  fresh : ∀ f ∈ members.filterMap Member.field?, got.has f = false
  nodup : (members.filterMap Member.field?).Nodup

namespace Once

variable {got : Fields} {m : Member} {members : List Member}

theorem start (h : (members.filterMap Member.field?).Nodup) : Once {} members :=
  ⟨fun f _ => by cases f <;> rfl, h⟩

theorem head (h : Once got (m :: members)) {f : Field} (hf : m.field? = some f) :
    got.has f = false := by
  apply h.fresh
  rw [List.filterMap_cons_some hf]
  exact List.mem_cons_self ..

theorem tail (h : Once got (m :: members)) : Once (got.set m) members := by
  obtain ⟨hfresh, hnodup⟩ := h
  cases hm : m.field? with
  | none =>
    rw [List.filterMap_cons_none hm] at hfresh hnodup
    refine ⟨fun f hf => ?_, hnodup⟩
    rw [Fields.has_set_of_ne (by rw [hm]; nofun)]
    exact hfresh f hf
  | some f =>
    rw [List.filterMap_cons_some hm] at hfresh hnodup
    obtain ⟨hnot, hnodup⟩ := List.nodup_cons.mp hnodup
    refine ⟨fun g hg => ?_, hnodup⟩
    have hne : m.field? ≠ some g := by
      rw [hm]
      rintro ⟨⟩
      exact hnot hg
    rw [Fields.has_set_of_ne hne]
    exact hfresh g (List.mem_cons_of_mem _ hg)

end Once

namespace Member

/-- Where the value of the member goes. -/
def place (got : Fields) : Member → Place
  | .enabled _ => .field .enabled .object got
  | .appId _ => .field .appId .object got
  | .bounds _ => .field .bounds .object got
  | .other _ => .skipped [] got

variable {m : Member} {got : Fields}

theorem place_eq {t : List Char} (h : m.SpellsValue t)
    (hfresh : ∀ f, m.field? = some f → got.has f = false) :
    (Owner.settings got).place m.key = .ok (m.place got) := by
  have hfield : ∀ f, m.field? = some f → m.key = f.key → m.place got = .field f .object got →
      (Owner.settings got).place m.key = .ok (m.place got) := by
    intro f hf hkey hplace
    have hof : Field.ofKey? m.key = some f := Field.ofKey?_eq_some_iff.mpr hkey.symm
    simp only [Owner.place, hof, hfresh f hf, Bool.false_eq_true, if_false, hplace]
  cases h with
  | enabled | appId | bounds => exact hfield _ rfl rfl rfl
  | @other key t hkey h =>
    have hof : Field.ofKey? key = none := by
      cases hf : Field.ofKey? key with
      | none => rfl
      | some f => exact absurd (Field.ofKey?_eq_some_iff.mp hf) (hkey f)
    show (Owner.settings got).place key = .ok (.skipped [] got)
    simp only [Owner.place, hof]

end Member

theorem readsItem_bound {form : Form} {got : Fields} {x : Binary64} {t : List Char}
    (h : SpellsBound x t) (before : List Binary64) :
    ReadsItem (.numbers before form got) t (.numbers (before ++ [x]) form got) := by
  obtain ⟨n, number, hspells, hvalue, rfl⟩ := h
  have hread := reads_numeral true hspells
  refine ⟨rfl, rfl, fun hgap hrest => ?_⟩
  rw [State.feed_item rfl hgap hread.exists_head,
    State.feed_scalar (.bound before form got) hread hrest]
  simp only [Place.accept, hvalue]
  rfl

/-- Bounds are taken up in order. -/
theorem readsItems_bounds {form : Form} {got : Fields} {xs : List Binary64}
    {items : List (List Char)} (h : List.Forall₂ SpellsBound xs items) (before : List Binary64) :
    ReadsItems (.numbers before form got) items (.numbers (before ++ xs) form got) := by
  induction h generalizing before with
  | nil =>
    rw [List.append_nil]
    exact .nil _
  | @cons x t xs _ h _ ih =>
    have ih := ih (before ++ [x])
    rw [List.append_assoc, List.singleton_append] at ih
    exact .cons (readsItem_bound h before) ih

/-- The value of a member of the settings is taken up where the member belongs, in
either form of a document. -/
theorem feed_field {m : Member} {f : Field} (hf : m.field? = some f) {t rest : List Char}
    (h : m.SpellsValue t) (form : Form) (got : Fields) (hrest : AtDelimiter rest) :
    (State.before (.field f form got)).feed (t ++ rest) =
      (State.between .after (Place.enclosing f (got.set m) form)).feed rest := by
  cases h with
  | enabled on =>
    cases hf
    exact State.feed_scalar (.field .enabled form got) (reads_bool true on) hrest
  | appId h =>
    cases hf
    exact State.feed_scalar (.field .appId form got) (reads_text h) hrest
  | bounds h hitems =>
    cases hf
    rw [List.append_assoc, List.cons_append, State.feed_cons_of_step rfl]
    exact State.feed_separated h (readsItems_bounds hitems []) (by decide) (fun _ => rfl) rest
  | other => cases hf

theorem feed_value {m : Member} {got : Fields} {t rest : List Char} (h : m.SpellsValue t)
    (hrest : AtDelimiter rest) :
    (State.before (m.place got)).feed (t ++ rest) =
      (State.between .after (.members (.settings (got.set m)))).feed rest := by
  cases m with
  | enabled | appId | bounds => exact feed_field rfl h .object got hrest
  | other =>
    cases h with
    | other _ h => exact State.feed_skipped h [] got hrest

/-- A member is taken up, if the settings have none of its key yet. -/
theorem readsItem_member {m : Member} {p : MemberParts} {got : Fields} (h : m.Spells p)
    (hfresh : ∀ f, m.field? = some f → got.has f = false) :
    ReadsItem (.members (.settings got)) p.text (.members (.settings (got.set m))) := by
  refine ⟨rfl, rfl, fun hgap hrest => ?_⟩
  have hkey := h.key.through ""
  rw [String.empty_append, String.ofList_toList] at hkey
  rw [State.feed_member (.settings got) hkey (Member.place_eq h.value hfresh) h.before h.after hgap,
    feed_value h.value hrest]

theorem readsItems_members {members : List Member} {parts : List MemberParts}
    (h : List.Forall₂ Member.Spells members parts) {got : Fields} (honce : Once got members) :
    ReadsItems (.members (.settings got)) (parts.map MemberParts.text)
      (.members (.settings (members.foldl Fields.set got))) := by
  induction h generalizing got with
  | nil => exact .nil _
  | cons h _ ih => exact .cons (readsItem_member h fun _ => honce.head) (ih honce.tail)

/-- A document without a repeated member is read as its members in order. -/
theorem read_of_members {members : List Member} {document : String}
    (h : DocumentText members document.toList)
    (honce : (members.filterMap Member.field?).Nodup) :
    read document = .ok (members.foldl Fields.set {}) := by
  have hfeed : State.start.feed document.toList = .ok (.closed (members.foldl Fields.set {})) := by
    generalize document.toList = text at h
    obtain @⟨parts, text, w, w', hw, hw', hparts, h⟩ := h
    have hmembers := State.feed_separated h (readsItems_members hparts (Once.start honce))
      (show Gap.first ≠ .after by decide) (fun _ => rfl) w'
    rw [State.start, List.append_assoc, List.cons_append, State.feed_padding rfl hw,
      State.feed_cons_of_step rfl]
    exact hmembers.trans (State.feed_closed hw' _)
  rw [read, hfeed]
  rfl

/-! ### What they choose -/

/-- Taking up a member makes its choice on the draft. -/
theorem toDraft_set {got : Fields} {m : Member}
    (hfresh : ∀ f, m.field? = some f → got.has f = false) :
    (got.set m).toDraft = m.choice?.toList.foldl Draft.choose got.toDraft := by
  cases m with
  | enabled on | bounds xs | other key => rfl
  | appId id =>
    have hnone : got.appId? = none :=
      Option.isNone_iff_eq_none.mp (Option.isSome_eq_false_iff.mp (hfresh .appId rfl))
    by_cases hid : id = ""
    · subst hid
      simp [Fields.set, Fields.toDraft, Fields.toSettings, Member.choice?, hnone]
    · simp [Fields.set, Fields.toDraft, Fields.toSettings, Member.choice?, hid, Draft.choose]

theorem toDraft_foldl_set {members : List Member} {got : Fields} (honce : Once got members) :
    (members.foldl Fields.set got).toDraft =
      (members.filterMap Member.choice?).foldl Draft.choose got.toDraft := by
  induction members generalizing got with
  | nil => rfl
  | cons m members ih =>
    rw [List.foldl_cons, ih honce.tail, toDraft_set fun _ => honce.head, ← List.foldl_append]
    congr 1
    cases hm : m.choice? with
    | none => rw [List.filterMap_cons_none hm]; rfl
    | some c => rw [List.filterMap_cons_some hm]; rfl

theorem Member.field?_of_choice? {m : Member} {c : Choice} (h : m.choice? = some c) :
    m.field? = some c.field := by
  cases m with
  | enabled | bounds =>
    cases h
    rfl
  | appId id =>
    by_cases hid : id = ""
    · rw [Member.choice?, if_pos hid] at h
      cases h
    · rw [Member.choice?, if_neg hid] at h
      cases h
      rfl
  | other => cases h

/-- Each choice is of the kind of its member, and some members make none. -/
theorem field_choices_sublist : ∀ members : List Member,
    ((members.filterMap Member.choice?).map Choice.field).Sublist
      (members.filterMap Member.field?)
  | [] => .slnil
  | m :: members => by
    have ih := field_choices_sublist members
    cases hm : m.choice? with
    | some c =>
      rw [List.filterMap_cons_some hm, List.filterMap_cons_some (Member.field?_of_choice? hm),
        List.map_cons]
      exact ih.cons_cons _
    | none =>
      rw [List.filterMap_cons_none hm]
      cases hf : m.field? with
      | none =>
        rw [List.filterMap_cons_none hf]
        exact ih
      | some f =>
        rw [List.filterMap_cons_some hf]
        exact ih.cons f

end Document

open Document Json

namespace Draft

/-- Choices of different kinds commute. -/
theorem choose_comm {c c' : Choice} (h : c.field ≠ c'.field) (d : Draft) :
    (d.choose c).choose c' = (d.choose c').choose c := by
  cases c <;> cases c' <;> first | rfl | exact absurd rfl h

theorem ofChoices_perm {cs ds : List Choice} (h : cs.Perm ds) (hn : (ds.map Choice.field).Nodup) :
    ofChoices cs = ofChoices ds :=
  foldl_eq_of_perm (fun d _ _ hne => choose_comm hne d) h hn blank

end Draft

/-- What was read is loaded by building its draft. -/
theorem Settings.load_of_read_eq_ok {document : String} {got : Fields}
    (h : read document = .ok got) (host : String) :
    Settings.load host document = (got.toDraft.build host).mapError .invalid := by
  rw [Settings.load, h]
  dsimp only
  cases got.toDraft.build host <;> rfl

/-- A document is loaded as a draft with the choices of its members is built. -/
theorem Settings.load_of_choices {host document : String} {members : List Member}
    {choices : List Choice} (h : DocumentText members document.toList)
    (honce : (members.filterMap Member.field?).Nodup)
    (hperm : choices.Perm (members.filterMap Member.choice?)) :
    Settings.load host document = ((Draft.ofChoices choices).build host).mapError .invalid := by
  have hdraft : (members.foldl Fields.set {}).toDraft = Draft.ofChoices choices := by
    rw [Draft.ofChoices_perm hperm ((field_choices_sublist members).nodup honce)]
    exact toDraft_foldl_set (Once.start honce)
  rw [Settings.load_of_read_eq_ok (read_of_members h honce), hdraft]

/-- A settings document in which no key of the settings stands twice is loaded
as a draft with the choices of its members is built, made in any order, whether
that gives settings or an error. So two documents whose members make the same
choices are loaded alike. -/
theorem Settings.load_of_members {host document : String} {members : List Member}
    (h : DocumentText members document.toList) (honce : (members.filterMap Member.field?).Nodup) :
    (∀ choices : List Choice, choices.Perm (members.filterMap Member.choice?) →
      Settings.load host document = ((Draft.ofChoices choices).build host).mapError .invalid) ∧
    ∀ (document' : String) (members' : List Member), DocumentText members' document'.toList →
      (members'.filterMap Member.field?).Nodup →
      (members'.filterMap Member.choice?).Perm (members.filterMap Member.choice?) →
      Settings.load host document' = Settings.load host document := by
  refine ⟨fun choices hperm => Settings.load_of_choices h honce hperm, ?_⟩
  intro document' members' h' honce' hperm
  rw [Settings.load_of_choices h' honce' hperm.symm, Settings.load_of_choices h honce (.refl _)]

/-- Two documents that choose the same. One has white space, an escape in a key, and
a member that is passed over, with a lone surrogate and a number out of range in
it; the other has only the members of the settings, the other way round. -/
theorem Settings.load_of_members_of_two :
    Settings.load "host"
        " \x7b\"x\" : [\"\\ud800\",1e999] ,\"latencyBucketsMs\":[5],\"\\u0061ppId\":\"shop\"\x7d" =
      .ok ⟨true, "shop", [.ofNat 5]⟩ ∧
    Settings.load "host" "\x7b\"appId\":\"shop\",\"latencyBucketsMs\":[5]\x7d" =
      .ok ⟨true, "shop", [.ofNat 5]⟩ := by
  have hnil : Padding [] := by decide
  have hspace : Padding [' '] := by decide
  have hother : (Member.other "x").Spells
      ⟨['x'], [' '], [' '], "[\"\\ud800\",1e999]".toList⟩ := by
    have hwhole : IsWhole [1] := by decide
    have hdigits : IsDigits [9, 9, 9] := by decide
    have hnumeral : SpellsNumeral ⟨false, [1], [], some (false, [9, 9, 9])⟩ "1e999".toList :=
      @SpellsNumeral.mk _ [] _ hwhole .none (.some (.inl rfl) .none hdigits)
    have hunit : HexUnit ['d', '8', '0', '0'] 0xD800 := hexUnit_digits 13 8 0 0
    have hlist : ValueText "[\"\\ud800\",1e999]".toList := by
      refine @ValueText.list ["\"\\ud800\"".toList, "1e999".toList] _
        (.cons hnil hnil (.single hnil hnil)) ?_
      rintro t (_ | ⟨_, _ | ⟨_, ⟨⟩⟩⟩)
      · exact .text (.unit hunit .nil)
      · exact .numeral hnumeral
    exact ⟨spells_self (by simp [Member.key, IsPlain]), hspace, hspace,
      .other (fun f => by cases f <;> decide) hlist⟩
  have hbounds : (Member.bounds [.ofNat 5]).Spells
      ⟨"latencyBucketsMs".toList, [], [], "[5]".toList⟩ := by
    have hwhole : IsWhole [5] := by decide
    have hbound : SpellsBound (.ofNat 5) ['5'] :=
      ⟨⟨false, [5], [], none⟩, .natural 5, @SpellsNumeral.mk _ [] [] hwhole .none .none, rfl, rfl⟩
    exact ⟨Field.bounds.spells_key, hnil, hnil, .bounds (.single hnil hnil) (.cons hbound .nil)⟩
  have hshop : Json.Spells "shop".toList "shop".toList := spells_self (by simp [IsPlain])
  have hescaped : (Member.appId "shop").Spells
      ⟨"\\u0061ppId".toList, [], [], "\"shop\"".toList⟩ := by
    have hunit : HexUnit ['0', '0', '6', '1'] 'a'.toNat := hexUnit_digits 0 0 6 1
    have hkey : Json.Spells ('a' :: ['p', 'p', 'I', 'd']) _ :=
      .cons (.unit hunit) (spells_self (by simp [IsPlain]))
    exact ⟨hkey, hnil, hnil, .appId hshop⟩
  have hplain : (Member.appId "shop").Spells ⟨"appId".toList, [], [], "\"shop\"".toList⟩ :=
    ⟨Field.appId.spells_key, hnil, hnil, .appId hshop⟩
  have h : DocumentText [.other "x", .bounds [.ofNat 5], .appId "shop"] (String.toList
      " \x7b\"x\" : [\"\\ud800\",1e999] ,\"latencyBucketsMs\":[5],\"\\u0061ppId\":\"shop\"\x7d") :=
    .mk hspace hnil (.cons hother (.cons hbounds (.cons hescaped .nil)))
      (.cons hnil hspace (.cons hnil hnil (.single hnil hnil)))
  have h' : DocumentText [.appId "shop", .bounds [.ofNat 5]]
      "\x7b\"appId\":\"shop\",\"latencyBucketsMs\":[5]\x7d".toList :=
    .mk hnil hnil (.cons hplain (.cons hbounds .nil)) (.cons hnil hnil (.single hnil hnil))
  obtain ⟨hload, halike⟩ := @Settings.load_of_members "host" _ _ h (by decide)
  have hok : ((Draft.ofChoices [.appId "shop", .bounds [.ofNat 5]]).build "host").mapError
      LoadError.invalid = .ok ⟨true, "shop", [.ofNat 5]⟩ := by decide +kernel
  rw [← hok]
  have hsame := halike _ _ h' (by decide) (.swap ..)
  exact ⟨hload _ (.swap ..), hsame.trans (hload _ (.swap ..))⟩

end Telemetry
