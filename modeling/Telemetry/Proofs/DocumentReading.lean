/-
# A document is read along the grammar

What the reader of settings documents does with the parts of a well-formed
text. White space between tokens changes nothing (`State.feed_padding`), a
scalar is put in its place (`State.feed_scalar`), items with commas between them
are read one after the other (`State.feed_items`) up to the bracket that closes
them (`State.feed_separated`), and a member leads to the place that its owner has
for the key (`State.feed_key`, `State.feed_member`). So a value that is passed
over, however deep, leaves what was read as it was (`State.feed_skipped`).

Key definitions: `AtDelimiter`, `ReadsItem`, `ReadsItems`, `TakesItem`, `TakesItems`.
Key theorems: `State.feed_scalar`, `State.feed_items`, `State.feed_separated`,
`State.feed_key`, `State.feed_member`, `State.feed_skipped`.
-/
import Mathlib
import Telemetry.Document.State
import Telemetry.Proofs.JsonScanning

namespace Telemetry.Document

open Json

/-- What follows a value: a delimiter, and more. -/
def AtDelimiter (rest : List Char) : Prop := ∃ c more, rest = c :: more ∧ c ∈ delimiters

theorem isSpace_of_padding {w : List Char} (hw : Padding w) : ∀ c ∈ w, isSpace c = true := by
  intro c hc
  rcases hw c hc with rfl | rfl | rfl | rfl <;> rfl

theorem isSpace_eq_false {c : Char} (hc : c ∉ delimiters) : isSpace c = false := by
  simp only [delimiters, List.mem_cons, not_or] at hc
  simp only [isSpace, hc, decide_false, Bool.or_self]

theorem AtDelimiter.padded {w rest : List Char} (h : AtDelimiter rest) (hw : Padding w) :
    AtDelimiter (w ++ rest) := by
  cases w with
  | nil => exact h
  | cons c w =>
    refine ⟨c, w ++ rest, rfl, ?_⟩
    rcases hw c (List.mem_cons_self ..) with rfl | rfl | rfl | rfl <;> decide

namespace State

variable {s s' : State} {c : Char} {rest : List Char}

theorem feed_cons (s : State) (c : Char) (rest : List Char) :
    s.feed (c :: rest) = s.step c >>= fun t => t.feed rest := by
  rw [feed, List.foldlM_cons]
  rfl

theorem feed_cons_of_step (h : s.step c = .ok s') (rest : List Char) :
    s.feed (c :: rest) = s'.feed rest := by
  rw [feed_cons, h]
  rfl

/-- Whether the state is between two tokens. -/
def isWaiting : State → Bool
  | .within .. | .key .. => false
  | _ => true

theorem step_space (hs : s.isWaiting = true) (hc : isSpace c = true) : s.step c = .ok s := by
  cases s with
  | within | key => cases hs
  | _ => exact if_pos hc

theorem feed_padding (hs : s.isWaiting = true) {w : List Char} (hw : Padding w)
    (rest : List Char) : s.feed (w ++ rest) = s.feed rest := by
  have hspaces := isSpace_of_padding hw
  clear hw
  induction w with
  | nil => rfl
  | cons c w ih =>
    have hc := step_space hs (hspaces c (List.mem_cons_self ..))
    rw [List.cons_append, feed_cons_of_step hc]
    exact ih fun d hd => hspaces d (List.mem_cons_of_mem _ hd)

/-- White space after the settings changes nothing. -/
theorem feed_closed {w : List Char} (hw : Padding w) (got : Fields) :
    (State.closed got).feed w = .ok (.closed got) := by
  have h : (State.closed got).feed (w ++ []) = .ok (.closed got) := feed_padding rfl hw []
  rw [List.append_nil] at h
  exact h

/-- The reader of a token is followed inside the document. -/
theorem feed_through {σ α : Type} {step : Char → σ → Progress σ α} (st : σ → State)
    (hst : ∀ c x x', step c x = .more x' → (st x).step c = .ok (st x')) {x x' : σ}
    {t : List Char} (h : Through step x t x') (rest : List Char) :
    (st x).feed (t ++ rest) = (st x').feed rest := by
  induction h with
  | nil => rfl
  | cons hc _ ih => rw [List.cons_append, feed_cons_of_step (hst _ _ _ hc), ih]

theorem step_before_of_start? {place : Place} {x : ScalarState}
    (h : ScalarState.start? c = some x) : (State.before place).step c = .ok (.within place x) := by
  have hspace := isSpace_eq_false (not_mem_delimiters_of_start? h)
  have hlist : c ≠ '[' := by
    rintro rfl
    cases h
  have hobject : c ≠ '{' := by
    rintro rfl
    cases h
  simp only [step, hspace, Place.start, if_neg hlist, if_neg hobject, h]
  rfl

/-- A scalar goes to its place, and the reading goes on after it. -/
theorem feed_scalar (place : Place) {t : List Char} {v : Scalar} (h : Reads place.isKept t v)
    (hrest : AtDelimiter rest) :
    (State.before place).feed (t ++ rest) =
      place.accept v >>= fun o => (State.between .after o).feed rest := by
  have hwithin : ∀ c x x', ScalarState.step place.isKept c x = .more x' →
      (State.within place x).step c = .ok (.within place x') := by
    intro c x x' hx
    simp only [step, hx]
  cases h with
  | @done c d t x x' v hc h hd =>
    rw [List.append_assoc, List.cons_append, feed_cons_of_step (step_before_of_start? hc),
      feed_through (.within place) hwithin h, List.singleton_append, feed_cons]
    simp only [step, hd]
    cases place.accept v <;> rfl
  | @ended c t x x' v hc h hd =>
    obtain ⟨d, more, rfl, hdm⟩ := hrest
    rw [List.cons_append, feed_cons_of_step (step_before_of_start? hc),
      feed_through (.within place) hwithin h, feed_cons]
    simp only [step, hd d hdm]
    cases place.accept v with
    | error e => rfl
    | ok o => exact (feed_cons (.between .after o) d more).symm

end State

/-! ### Items in a bracket -/

theorem Open.closing_eq_or (o : Open) : o.closing = '}' ∨ o.closing = ']' := by
  unfold Open.closing
  by_cases h : o.isObject = true
  · exact Or.inl (if_pos h)
  · exact Or.inr (if_neg h)

theorem Open.closing_mem (o : Open) : o.closing ∈ delimiters := by
  rcases o.closing_eq_or with h | h <;> rw [h] <;> decide

theorem Open.isSpace_closing (o : Open) : isSpace o.closing = false := by
  rcases o.closing_eq_or with h | h <;> rw [h] <;> rfl

/-- An item takes what was read inside the bracket from `o` to `o'`. -/
structure ReadsItem (o : Open) (t : List Char) (o' : Open) : Prop where
  closing : o'.closing = o.closing
  takesMore : o'.takesMore = true
  feed : ∀ {gap rest}, gap ≠ Gap.after → AtDelimiter rest →
    (State.between gap o).feed (t ++ rest) = (State.between .after o').feed rest

/-- Items one after the other. -/
inductive ReadsItems : Open → List (List Char) → Open → Prop
  | nil (o : Open) : ReadsItems o [] o
  | cons {o o₁ o' : Open} {t : List Char} {ts : List (List Char)} (h : ReadsItem o t o₁)
      (hs : ReadsItems o₁ ts o') : ReadsItems o (t :: ts) o'

/-- Items that change nothing. -/
theorem readsItems_of_forall {o : Open} :
    ∀ {ts : List (List Char)}, (∀ t ∈ ts, ReadsItem o t o) → ReadsItems o ts o
  | [], _ => .nil o
  | t :: _, h => .cons (h t (List.mem_cons_self ..))
      (readsItems_of_forall fun u hu => h u (List.mem_cons_of_mem _ hu))

/-- An item leads from `o` to `o'`, whatever delimiter is after it. -/
def TakesItem (o : Open) (t : List Char) (o' : Open) : Prop :=
  ∀ gap rest, gap ≠ Gap.after → AtDelimiter rest →
    (State.between gap o).feed (t ++ rest) = (State.between .after o').feed rest

/-- Items one after the other, at least one. The bracket takes more after each
but the last. -/
inductive TakesItems : Open → List (List Char) → Open → Prop
  | single {o o' : Open} {t : List Char} (h : TakesItem o t o') : TakesItems o [t] o'
  | cons {o o₁ o' : Open} {t u : List Char} {ts : List (List Char)} (h : TakesItem o t o₁)
      (hmore : o₁.takesMore = true) (hs : TakesItems o₁ (u :: ts) o') :
      TakesItems o (t :: u :: ts) o'

theorem ReadsItems.closing {o o' : Open} {ts : List (List Char)} (h : ReadsItems o ts o') :
    o'.closing = o.closing := by
  induction h with
  | nil => rfl
  | cons h _ ih => rw [ih, h.closing]

theorem ReadsItems.takes {o o' : Open} {t : List Char} {ts : List (List Char)}
    (h : ReadsItems o (t :: ts) o') : TakesItems o (t :: ts) o' := by
  induction ts generalizing o t with
  | nil =>
    obtain _ | ⟨h, hs⟩ := h
    cases hs
    exact .single fun _ _ => h.feed
  | cons u ts ih =>
    obtain _ | ⟨h, hs⟩ := h
    exact .cons (fun _ _ => h.feed) h.takesMore (ih hs)

namespace State

variable {c : Char} {rest : List Char} {gap : Gap} {o o' : Open}

theorem step_closing (hgap : gap ≠ .next) : (State.between gap o).step o.closing = .ok o.close := by
  cases gap with
  | next => exact absurd rfl hgap
  | _ => simp only [step, Open.step, o.isSpace_closing, Bool.false_eq_true, if_false, if_true]

theorem step_comma (ho : o.takesMore = true) :
    (State.between .after o).step ',' = .ok (.between .next o) := by
  have hne : ',' ≠ o.closing := by
    rcases o.closing_eq_or with h | h <;> rw [h] <;> decide
  have hspace : isSpace ',' = false := rfl
  simp only [step, Open.step, hspace, Bool.false_eq_true, if_false, if_neg hne, ho, and_self,
    if_true]

/-- Any other character begins an item. -/
theorem step_item (hgap : gap ≠ .after) (hc : c ∉ delimiters) :
    (State.between gap o).step c = o.startItem c := by
  have hspace := isSpace_eq_false hc
  have hne : c ≠ o.closing := by
    rintro rfl
    exact hc o.closing_mem
  cases gap with
  | after => exact absurd rfl hgap
  | _ => simp only [step, Open.step, hspace, Bool.false_eq_true, if_false, if_neg hne]

/-- Where the items of a bracket are values, an item is read as the value at its
place. -/
theorem feed_item {place : Place} (ho : o.startItem = place.start) (hgap : gap ≠ .after)
    {t : List Char} (ht : ∃ c t', t = c :: t' ∧ c ∉ delimiters) (rest : List Char) :
    (State.between gap o).feed (t ++ rest) = (State.before place).feed (t ++ rest) := by
  obtain ⟨c, t', rfl, hc⟩ := ht
  have hbefore : (State.before place).step c = place.start c := by
    simp only [step, isSpace_eq_false hc, Bool.false_eq_true, if_false]
  rw [List.cons_append, feed_cons, feed_cons, step_item hgap hc, hbefore, ho]

/-- Items with commas between them are read up to what follows the last. -/
theorem feed_items {ts : List (List Char)} {text : List Char} (h : Separated ts text)
    (hitems : TakesItems o ts o') (hgap : gap ≠ .after) (hrest : AtDelimiter rest) :
    (State.between gap o).feed (text ++ rest) = (State.between .after o').feed rest := by
  induction h generalizing o gap with
  | empty => cases hitems
  | @single t w w' hw hw' =>
    obtain ⟨h⟩ := hitems
    rw [List.append_assoc, List.append_assoc, feed_padding rfl hw, h _ _ hgap (hrest.padded hw'),
      feed_padding rfl hw']
  | @cons t u text w w' ts hw hw' _ ih =>
    obtain _ | ⟨h, hmore, hs⟩ := hitems
    have hcomma : AtDelimiter (w' ++ ',' :: (text ++ rest)) :=
      AtDelimiter.padded ⟨_, _, rfl, by decide⟩ hw'
    have hnext : Gap.next ≠ .after := by decide
    rw [List.append_assoc, List.append_assoc, List.append_assoc, List.cons_append,
      feed_padding rfl hw, h _ _ hgap hcomma, feed_padding rfl hw',
      feed_cons_of_step (step_comma hmore), ih hs hnext]

/-- Items, or none, are read up to the bracket that closes them. -/
theorem feed_separated {ts : List (List Char)} {text : List Char} (h : Separated ts text)
    (hitems : ReadsItems o ts o') (hgap : gap ≠ .after) (hnil : ts = [] → gap = .first)
    (rest : List Char) :
    (State.between gap o).feed (text ++ o.closing :: rest) = o'.close.feed rest := by
  cases ts with
  | nil =>
    obtain ⟨hw⟩ := h
    cases hitems
    rw [feed_padding rfl hw, hnil rfl, feed_cons_of_step (step_closing (by decide))]
  | cons t ts =>
    have hrest : AtDelimiter (o.closing :: rest) := ⟨_, _, rfl, o.closing_mem⟩
    rw [feed_items h hitems.takes hgap hrest, ← hitems.closing,
      feed_cons_of_step (step_closing (by decide))]

end State

/-! ### Members and values -/

namespace State

variable {rest : List Char}

/-- A key leads to the place that its owner has for it, or to the error that the
owner has. -/
theorem feed_key (owner : Owner) {key : List Char} {name : String}
    (hkey : Through (TextState.step owner.isKept) .start key (.plain name)) {gap : Gap}
    (hgap : gap ≠ .after) (rest : List Char) :
    (State.between gap (.members owner)).feed ('"' :: (key ++ '"' :: rest)) =
      owner.place name >>= fun place => (State.colon place).feed rest := by
  have hquote : (State.between gap (.members owner)).step '"' = .ok (.key owner .start) := by
    rw [step_item hgap (by decide)]
    rfl
  have hwithin : ∀ c x x', TextState.step owner.isKept c x = .more x' →
      (State.key owner x).step c = .ok (.key owner x') := by
    intro c x x' hx
    simp only [step, hx]
  rw [feed_cons_of_step hquote, feed_through (.key owner) hwithin hkey, feed_cons]
  simp only [step, TextState.step, if_true]
  cases owner.place name <;> rfl

/-- A member leads to the place of its value. -/
theorem feed_member (owner : Owner) {m : MemberParts} {key : String} {place : Place}
    (hkey : Through (TextState.step owner.isKept) .start m.key (.plain key))
    (hplace : owner.place key = .ok place) (hbefore : Padding m.before) (hafter : Padding m.after)
    {gap : Gap} (hgap : gap ≠ .after) (rest : List Char) :
    (State.between gap (.members owner)).feed (m.text ++ rest) =
      (State.before place).feed (m.value ++ rest) := by
  have htext : m.text ++ rest =
      '"' :: (m.key ++ '"' :: (m.before ++ ':' :: (m.after ++ (m.value ++ rest)))) := by
    simp [MemberParts.text]
  have hcolon : (State.colon place).feed (m.before ++ ':' :: (m.after ++ (m.value ++ rest))) =
      (State.before place).feed (m.value ++ rest) := by
    rw [feed_padding rfl hbefore, feed_cons_of_step rfl, feed_padding rfl hafter]
  rw [htext, feed_key owner hkey hgap, hplace]
  exact hcolon

end State

/-- A value begins with no delimiter. -/
theorem exists_head_of_valueText {t : List Char} (h : ValueText t) :
    ∃ c t', t = c :: t' ∧ c ∉ delimiters := by
  cases h with
  | null => exact (reads_null true).exists_head
  | bool b => exact (reads_bool true b).exists_head
  | numeral h => exact (reads_numeral true h).exists_head
  | text _ | list _ _ | object _ _ _ => exact ⟨_, _, rfl, by decide⟩

namespace State

/-- A value that is passed over, however deep, leaves what was read as it was. -/
theorem feed_skipped {t : List Char} (h : ValueText t) (outer : List Bracket) (got : Fields)
    {rest : List Char} (hrest : AtDelimiter rest) :
    (State.before (.skipped outer got)).feed (t ++ rest) =
      (State.between .after (Place.resume got outer)).feed rest := by
  induction h generalizing outer rest with
  | null => exact feed_scalar (.skipped outer got) (reads_null false) hrest
  | bool b => exact feed_scalar (.skipped outer got) (reads_bool false b) hrest
  | numeral h => exact feed_scalar (.skipped outer got) (reads_numeral false h) hrest
  | text h =>
    obtain ⟨s, hs⟩ := reads_loose h
    exact feed_scalar (.skipped outer got) hs hrest
  | @list items text h hitems ih =>
    have hread : ReadsItems (.skipped outer got) items (.skipped outer got) :=
      readsItems_of_forall fun t ht =>
        { closing := rfl
          takesMore := rfl
          feed := fun hgap hrest => by
            rw [feed_item rfl hgap (exists_head_of_valueText (hitems t ht)),
              ih t ht (.list :: outer) hrest]
            rfl }
    rw [List.append_assoc, List.cons_append, feed_cons_of_step rfl]
    exact feed_separated h hread (by decide) (fun _ => rfl) rest
  | @object members text h hkeys hvalues ih =>
    have hread : ReadsItems (.members (.skipped outer got)) (members.map MemberParts.text)
        (.members (.skipped outer got)) := by
      apply readsItems_of_forall
      intro t ht
      obtain ⟨m, hm, rfl⟩ := List.mem_map.mp ht
      obtain ⟨hkey, hbefore, hafter⟩ := hkeys m hm
      obtain ⟨key, hkey⟩ := hkey.through ""
      exact
        { closing := rfl
          takesMore := rfl
          feed := fun hgap hrest => by
            rw [feed_member (.skipped outer got) hkey rfl hbefore hafter hgap,
              ih m hm (.object :: outer) hrest]
            rfl }
    rw [List.append_assoc, List.cons_append, feed_cons_of_step rfl]
    exact feed_separated h hread (by decide) (fun _ => rfl) rest

end State

end Telemetry.Document
