/-
# Tokens are read as the grammar spells them

The readers of texts and numerals take a token character by character. Here
they are followed along the grammar: each part of a token leads the reader from
one state to another (`Through`), and the parts compose. A text ends with its
quote, a numeral only with the character after it, so what comes of a scalar is
told for both at once (`Reads`): either its last character completes it, or any
delimiter after it does.

Key definitions: `Through`, `delimiters`, `ContinuesNumber`, `Reads`.
Key theorems: `Spells.through`, `Loose.through`, `SpellsNumeral.through`,
`NumberState.step_of_not_continues`, `reads_numeral`, `reads_text`, `reads_loose`.
-/
import Mathlib
import Telemetry.Proofs.JsonGrammar

namespace Telemetry.Json

/-- The characters lead from one state to another, and no token ends on the
way. -/
inductive Through {σ α : Type} (step : Char → σ → Progress σ α) : σ → List Char → σ → Prop
  | nil (s : σ) : Through step s [] s
  | cons {s s' t : σ} {c : Char} {cs : List Char} (h : step c s = .more s')
      (hs : Through step s' cs t) : Through step s (c :: cs) t

namespace Through

variable {σ τ α β : Type} {step : Char → σ → Progress σ α}

theorem append {s t u : σ} {cs ds : List Char} (h : Through step s cs t)
    (h' : Through step t ds u) : Through step s (cs ++ ds) u := by
  induction h with
  | nil => exact h'
  | cons hc _ ih => exact .cons hc (ih h')

/-- A reader inside another is followed by following the other. -/
theorem map {step' : Char → τ → Progress τ β} (f : σ → τ)
    (hf : ∀ c s s', step c s = .more s' → step' c (f s) = .more (f s')) {s t : σ}
    {cs : List Char} (h : Through step s cs t) : Through step' (f s) cs (f t) := by
  induction h with
  | nil => exact .nil _
  | cons hc _ ih => exact .cons (hf _ _ _ hc) ih

end Through

/-! ### Texts -/

theorem HexDigit.hexDigit?_eq {c : Char} {d : ℕ} (h : HexDigit c d) :
    hexDigit? c = some d ∧ c.utf8Size = 1 := by
  obtain ⟨hd, h⟩ := h
  have hall : ∀ d < 16, (hexDigit? (Nat.digitChar d) = some d ∧ (Nat.digitChar d).utf8Size = 1) ∧
      hexDigit? (Nat.digitChar d).toUpper = some d ∧ (Nat.digitChar d).toUpper.utf8Size = 1 := by
    decide
  rcases h with rfl | rfl
  · exact (hall d hd).1
  · exact (hall d hd).2

/-- The four digits of an escape are taken up one by one, whatever is made of
the code unit after the last. -/
theorem HexUnit.through {paired : Bool} (st : List Char → TextState)
    (after : ℕ → Progress TextState String)
    (hst : ∀ c digits, TextState.step paired c (st digits) =
      if isFull (digits ++ [c]) then
        match hexNumber? (digits ++ [c]) with
        | some unit => after unit
        | none => .malformed
      else .more (st (digits ++ [c])))
    {digits : List Char} {n : ℕ} (h : HexUnit digits n) {s : TextState}
    (hafter : after n = .more s) :
    Through (TextState.step paired) (st []) digits s := by
  obtain @⟨c₁, c₂, c₃, c₄, d₁, d₂, d₃, d₄, h₁, h₂, h₃, h₄⟩ := h
  obtain ⟨h₁, hs₁⟩ := h₁.hexDigit?_eq
  obtain ⟨h₂, hs₂⟩ := h₂.hexDigit?_eq
  obtain ⟨h₃, hs₃⟩ := h₃.hexDigit?_eq
  obtain ⟨h₄, hs₄⟩ := h₄.hexDigit?_eq
  have hmore : ∀ c digits, isFull (digits ++ [c]) = false →
      TextState.step paired c (st digits) = .more (st (digits ++ [c])) := by
    intro c digits hfull
    rw [hst, hfull]
    rfl
  have hlast : TextState.step paired c₄ (st [c₁, c₂, c₃]) = .more s := by
    have hfull : isFull ([c₁, c₂, c₃] ++ [c₄]) = true := by
      simp [isFull, byteSize, hs₁, hs₂, hs₃, hs₄]
    have hnumber : hexNumber? ([c₁, c₂, c₃] ++ [c₄]) =
        some (16 * (16 * (16 * d₁ + d₂) + d₃) + d₄) := by
      simp [hexNumber?, h₁, h₂, h₃, h₄]
    rw [hst, hfull, hnumber]
    exact hafter
  refine .cons (hmore c₁ [] ?_) (.cons (hmore c₂ [c₁] ?_) (.cons (hmore c₃ [c₁, c₂] ?_)
    (.cons hlast (.nil s))))
  all_goals simp [isFull, byteSize, hs₁, hs₂, hs₃]

theorem escaped?_of_mem {l c : Char} (h : (l, c) ∈ letterEscapes) :
    l ≠ 'u' ∧ escaped? l = some c := by
  have hall : ∀ p ∈ letterEscapes, p.1 ≠ 'u' ∧ escaped? p.1 = some p.2 := by decide
  exact hall (l, c) h

theorem IsPlain.step {c : Char} (h : IsPlain c) (paired : Bool) (kept : String) :
    TextState.step paired c (.plain kept) = .more (.plain (kept.push c)) := by
  obtain ⟨hquote, hslash, hcontrol⟩ := h
  rw [TextState.step, if_neg hquote, if_neg hslash, if_neg (Nat.not_lt.mpr hcontrol)]

/-- An escape of one letter is taken up, in a text of either kind. -/
theorem through_letter {l c : Char} (h : (l, c) ∈ letterEscapes) (paired : Bool) (kept : String) :
    Through (TextState.step paired) (.plain kept) ['\\', l] (.plain (kept.push c)) := by
  obtain ⟨hne, heq⟩ := escaped?_of_mem h
  refine .cons rfl (.cons ?_ (.nil _))
  rw [TextState.step, if_neg hne, heq]

/-- A character is not a surrogate. -/
theorem not_surrogate (c : Char) : isTrailing c.toNat = false ∧ isLeading c.toNat = false := by
  have hvalid : c.toNat < 0xD800 ∨ 0xDFFF < c.toNat ∧ c.toNat < 0x110000 := c.valid
  constructor
  · rw [isTrailing, Bool.and_eq_false_iff, decide_eq_false_iff_not, decide_eq_false_iff_not]
    omega
  · rw [isLeading, Bool.and_eq_false_iff, decide_eq_false_iff_not, decide_eq_false_iff_not]
    omega

theorem TextState.afterUnit_char (kept : String) (c : Char) :
    TextState.afterUnit true kept c.toNat = .more (.plain (kept.push c)) := by
  obtain ⟨htrailing, hleading⟩ := not_surrogate c
  simp [TextState.afterUnit, htrailing, hleading]

theorem TextState.afterUnit_leading (kept : String) {high : ℕ} (h : high < 0x400) :
    TextState.afterUnit true kept (0xD800 + high) = .more (.pair kept (0xD800 + high)) := by
  have htrailing : isTrailing (0xD800 + high) = false := by
    simp [isTrailing]
    omega
  have hleading : isLeading (0xD800 + high) = true := by
    simp [isLeading]
    omega
  simp [TextState.afterUnit, htrailing, hleading]

theorem TextState.afterPair_trailing (kept : String) {c : Char} {high low : ℕ} (h : low < 0x400)
    (hc : c.toNat = 0x10000 + high * 0x400 + low) :
    TextState.afterPair kept (0xD800 + high) (0xDC00 + low) = .more (.plain (kept.push c)) := by
  have htrailing : isTrailing (0xDC00 + low) = true := by
    simp [isTrailing]
    omega
  have hpair : pairChar (0xD800 + high) (0xDC00 + low) = c := by
    rw [pairChar, Nat.add_sub_cancel_left, Nat.add_sub_cancel_left, ← hc, Char.ofNat_toNat]
  rw [TextState.afterPair, htrailing, hpair]
  rfl

theorem SpellsChar.through {c : Char} {t : List Char} (h : SpellsChar c t) (kept : String) :
    Through (TextState.step true) (.plain kept) t (.plain (kept.push c)) := by
  cases h with
  | plain h => exact .cons (h.step true kept) (.nil _)
  | letter h => exact through_letter h true kept
  | unit h =>
    have hunit : Through (TextState.step true) (.codeUnit kept []) _ _ :=
      h.through (.codeUnit kept) (TextState.afterUnit true kept) (fun _ _ => rfl)
        (TextState.afterUnit_char kept c)
    exact .cons rfl (.cons rfl hunit)
  | @pair high low _ _ hhigh hlow hc hleading htrailing =>
    have hfirst : Through (TextState.step true) (.codeUnit kept []) _ _ :=
      hleading.through (.codeUnit kept) (TextState.afterUnit true kept) (fun _ _ => rfl)
        (TextState.afterUnit_leading kept hhigh)
    have hsecond : Through (TextState.step true) (.pairCodeUnit kept (0xD800 + high) []) _ _ :=
      htrailing.through (.pairCodeUnit kept (0xD800 + high))
        (TextState.afterPair kept (0xD800 + high)) (fun _ _ => rfl)
        (TextState.afterPair_trailing kept hlow hc)
    exact .cons rfl (.cons rfl (hfirst.append (.cons rfl (.cons rfl hsecond))))

/-- A spelled text is kept as what it denotes. -/
theorem Spells.through {cs t : List Char} (h : Spells cs t) (kept : String) :
    Through (TextState.step true) (.plain kept) t (.plain (kept ++ String.ofList cs)) := by
  induction h generalizing kept with
  | nil =>
    rw [String.ofList_nil, String.append_empty]
    exact .nil _
  | @cons c cs _ _ h _ ih =>
    have hpush : kept ++ String.ofList (c :: cs) = kept.push c ++ String.ofList cs := by
      apply String.toList_inj.mp
      simp
    rw [hpush]
    exact (h.through kept).append (ih (kept.push c))

theorem Loose.through {t : List Char} (h : Loose t) (kept : String) :
    ∃ kept', Through (TextState.step false) (.plain kept) t (.plain kept') := by
  induction h generalizing kept with
  | nil => exact ⟨kept, .nil _⟩
  | @plain c _ h _ ih =>
    obtain ⟨kept', ih⟩ := ih (kept.push c)
    exact ⟨kept', .cons (h.step false kept) ih⟩
  | @letter _ c _ h _ ih =>
    obtain ⟨kept', ih⟩ := ih (kept.push c)
    exact ⟨kept', (through_letter h false kept).append ih⟩
  | unit h _ ih =>
    obtain ⟨kept', ih⟩ := ih kept
    have hunit : Through (TextState.step false) (.codeUnit kept []) _ (.plain kept) :=
      h.through (.codeUnit kept) (TextState.afterUnit false kept) (fun _ _ => rfl) rfl
    exact ⟨kept', .cons rfl (.cons rfl (hunit.append ih))⟩

/-! ### Numerals -/

theorem digit?_digitChar {d : ℕ} (h : d < 10) : digit? (Nat.digitChar d) = some d := by
  have hall : ∀ d < 10, digit? (Nat.digitChar d) = some d := by decide
  exact hall d h

namespace NumberState

/-- Digits are taken up in a phase that they do not leave; `read` is the numeral
as it depends on them. -/
theorem through_digits {q : Phase} (read : List ℕ → Numeral)
    (hq : ∀ d < 10, q.next? (Nat.digitChar d) = some q)
    (hread : ∀ ds, ∀ d < 10, (read ds).add (Nat.digitChar d) q = read (ds ++ [d])) :
    ∀ {es : List ℕ}, (∀ d ∈ es, d < 10) → ∀ ds,
      Through step ⟨q, read ds⟩ (digitText es) ⟨q, read (ds ++ es)⟩
  | [], _, ds => by
    rw [List.append_nil]
    exact .nil _
  | e :: es, hes, ds => by
    have he := hes e (List.mem_cons_self ..)
    have ih := through_digits read hq hread (fun d hd => hes d (List.mem_cons_of_mem _ hd))
      (ds ++ [e])
    rw [List.append_assoc] at ih
    refine .cons ?_ ih
    simp only [step, hq e he, hread ds e he]

/-- The same after a phase from which the first digit leads there. -/
theorem through_digits_of_next {p q : Phase} (read : List ℕ → Numeral)
    (hp : ∀ d < 10, p.next? (Nat.digitChar d) = some q)
    (hq : ∀ d < 10, q.next? (Nat.digitChar d) = some q)
    (hread : ∀ ds, ∀ d < 10, (read ds).add (Nat.digitChar d) q = read (ds ++ [d]))
    {ds : List ℕ} (h : IsDigits ds) :
    Through step ⟨p, read []⟩ (digitText ds) ⟨q, read ds⟩ := by
  obtain ⟨hne, hlt⟩ := h
  obtain ⟨d, es, rfl⟩ := List.exists_cons_of_ne_nil hne
  have hd := hlt d (List.mem_cons_self ..)
  refine .cons ?_ (through_digits read hq hread (fun e he => hlt e (List.mem_cons_of_mem _ he)) [d])
  simp only [step, hp d hd, hread [] d hd, List.nil_append]

/-- The phase after the first digit of a whole part. -/
def afterFirst (d : ℕ) : Phase := if d = 0 then .zero else .whole

theorem afterFirst_eq_or (d : ℕ) : afterFirst d = .zero ∨ afterFirst d = .whole := by
  by_cases h : d = 0
  · exact Or.inl (if_pos h)
  · exact Or.inr (if_neg h)

/-- After the first digit zero stands alone, and any other goes on with
digits. -/
theorem through_whole_tail (negative : Bool) {d : ℕ} {es : List ℕ} (h : IsWhole (d :: es)) :
    Through step ⟨afterFirst d, { negative := negative, whole := [d] }⟩ (digitText es)
      ⟨afterFirst d, { negative := negative, whole := d :: es }⟩ := by
  obtain ⟨⟨-, hlt⟩, hzero⟩ := h
  by_cases h0 : d = 0
  · have hes : es = [] := (List.cons.inj (hzero (by rw [h0, List.head?_cons]))).2
    rw [hes]
    exact .nil _
  · rw [afterFirst, if_neg h0]
    refine through_digits (fun ds => { negative := negative, whole := ds }) (by decide) ?_
      (fun e he => hlt e (List.mem_cons_of_mem _ he)) [d]
    intro ds e he
    simp only [Numeral.add, digit?_digitChar he, Option.toList_some]

/-- The sign and the whole part are taken up, after which a fraction or an
exponent may follow. -/
theorem through_whole (negative : Bool) {ds : List ℕ} (h : IsWhole ds) :
    ∃ c t p, (if negative then ['-'] else []) ++ digitText ds = c :: t ∧
      ScalarState.start? c = some (.number (start c)) ∧ (p = .zero ∨ p = .whole) ∧
      Through step (start c) t ⟨p, { negative := negative, whole := ds }⟩ := by
  obtain ⟨d, es, rfl⟩ := List.exists_cons_of_ne_nil h.1.1
  have hd : d < 10 := h.1.2 d (List.mem_cons_self ..)
  have hfirst : ∀ d < 10, Phase.sign.next? (Nat.digitChar d) = some (afterFirst d) ∧
      start (Nat.digitChar d) = ⟨afterFirst d, { whole := [d] }⟩ ∧
      ScalarState.start? (Nat.digitChar d) = some (.number (start (Nat.digitChar d))) := by
    decide
  obtain ⟨hnext, hstart, hscalar⟩ := hfirst d hd
  have htail := through_whole_tail negative h
  cases negative with
  | false =>
    refine ⟨Nat.digitChar d, digitText es, afterFirst d, rfl, hscalar, afterFirst_eq_or d, ?_⟩
    rw [hstart]
    exact htail
  | true =>
    refine ⟨'-', digitText (d :: es), afterFirst d, rfl, rfl, afterFirst_eq_or d, .cons ?_ htail⟩
    have hadd : ({ negative := true } : Numeral).add (Nat.digitChar d) (afterFirst d) =
        { negative := true, whole := [d] } := by
      rcases afterFirst_eq_or d with hp | hp <;>
        simp only [hp, Numeral.add, digit?_digitChar hd, Option.toList_some, List.nil_append]
    show step (Nat.digitChar d) ⟨.sign, { negative := true }⟩ = _
    simp only [step, hnext, hadd]

theorem through_fraction {ds : List ℕ} {t : List Char} (h : SpellsFraction ds t) {p : Phase}
    (hp : p = .zero ∨ p = .whole) (n : Numeral) (hn : n.fraction = []) :
    ∃ q : Phase, (q = .zero ∨ q = .whole ∨ q = .fraction) ∧
      Through step ⟨p, n⟩ t ⟨q, { n with fraction := ds }⟩ := by
  cases h with
  | none =>
    refine ⟨p, hp.imp_right Or.inl, ?_⟩
    rw [← hn]
    exact .nil _
  | some h =>
    have hpoint : step '.' ⟨p, n⟩ = .more ⟨.point, { n with fraction := [] }⟩ := by
      rw [← hn]
      rcases hp with rfl | rfl <;> rfl
    refine ⟨.fraction, Or.inr (Or.inr rfl), .cons hpoint ?_⟩
    refine through_digits_of_next (fun ds => { n with fraction := ds }) (by decide) (by decide) ?_ h
    intro ds d hd
    simp only [Numeral.add, digit?_digitChar hd, Option.toList_some]

theorem through_exponent {e? : Option (Bool × List ℕ)} {t : List Char} (h : SpellsExponent e? t)
    {p : Phase} (hp : p = .zero ∨ p = .whole ∨ p = .fraction) (n : Numeral)
    (hn : n.exponent? = none) :
    ∃ q : Phase, q.isComplete = true ∧ Through step ⟨p, n⟩ t ⟨q, { n with exponent? := e? }⟩ := by
  cases h with
  | none =>
    refine ⟨p, ?_, ?_⟩
    · rcases hp with rfl | rfl | rfl <;> rfl
    · rw [← hn]
      exact .nil _
  | @some mark negative sign ds hmark hsign h =>
    have hstep : step mark ⟨p, n⟩ = .more ⟨.mark, { n with exponent? := some (false, []) }⟩ := by
      rcases hp with rfl | rfl | rfl <;> rcases hmark with rfl | rfl <;> rfl
    have hread : ∀ ds, ∀ d < 10, ({ n with exponent? := some (negative, ds) } : Numeral).add
        (Nat.digitChar d) .power = { n with exponent? := some (negative, ds ++ [d]) } := by
      intro ds d hd
      simp only [Numeral.add, digit?_digitChar hd, Option.toList_some, Option.map_some]
    refine ⟨.power, rfl, .cons hstep ?_⟩
    cases hsign with
    | none =>
      exact through_digits_of_next (fun ds => { n with exponent? := some (false, ds) }) (by decide)
        (by decide) hread h
    | plus =>
      exact .cons rfl (through_digits_of_next (fun ds => { n with exponent? := some (false, ds) })
        (by decide) (by decide) hread h)
    | minus =>
      exact .cons rfl (through_digits_of_next (fun ds => { n with exponent? := some (true, ds) })
        (by decide) (by decide) hread h)

end NumberState

/-- A numeral is read to a phase in which it can end. -/
theorem SpellsNumeral.through {n : Numeral} {t : List Char} (h : SpellsNumeral n t) :
    ∃ c t' p, t = c :: t' ∧ ScalarState.start? c = some (.number (.start c)) ∧
      p.isComplete = true ∧
      Through NumberState.step (.start c) t' ⟨p, n⟩ := by
  obtain @⟨fraction, exponent, hwhole, hfraction, hexponent⟩ := h
  obtain ⟨c, t', p, heq, hc, hp, h₁⟩ := NumberState.through_whole n.negative hwhole
  obtain ⟨q, hq, h₂⟩ := NumberState.through_fraction hfraction hp
    { negative := n.negative, whole := n.whole } rfl
  obtain ⟨r, hr, h₃⟩ := NumberState.through_exponent hexponent hq
    { negative := n.negative, whole := n.whole, fraction := n.fraction } rfl
  refine ⟨c, t' ++ fraction ++ exponent, r, ?_, hc, hr, (h₁.append h₂).append h₃⟩
  rw [heq]
  rfl

/-! ### Scalars -/

/-- The characters that may follow a scalar. -/
def delimiters : List Char := [' ', '\t', '\n', '\r', ',', ']', '}']

/-- The characters with which a number that could end may go on. -/
def ContinuesNumber (c : Char) : Prop := ('0' ≤ c ∧ c ≤ '9') ∨ c = '.' ∨ c = 'e' ∨ c = 'E'

instance : DecidablePred ContinuesNumber := fun c =>
  inferInstanceAs (Decidable (('0' ≤ c ∧ c ≤ '9') ∨ c = '.' ∨ c = 'e' ∨ c = 'E'))

/-- Any other character ends a number that can end, and is not taken. -/
theorem NumberState.step_of_not_continues {c : Char} (hc : ¬ ContinuesNumber c) {p : Phase}
    (hp : p.isComplete = true) (n : Numeral) : step c ⟨p, n⟩ = .ended n := by
  simp only [ContinuesNumber, not_or] at hc
  obtain ⟨hdigit, hpoint, he, hE⟩ := hc
  have hno : digit? c = none := if_neg hdigit
  have hnext : p.next? c = none := by
    cases p with
    | zero | whole | fraction | power =>
      simp [Phase.next?, Phase.next?.afterWhole?, Phase.next?.afterFraction?, hno, hpoint, he, hE]
    | _ => cases hp
  simp [step, hnext, hno, hp]

theorem NumberState.step_of_delimiter {c : Char} (hc : c ∈ delimiters) {p : Phase}
    (hp : p.isComplete = true) (n : Numeral) : step c ⟨p, n⟩ = .ended n := by
  have hnot : ¬ ContinuesNumber c := by
    simp only [delimiters, List.mem_cons, List.not_mem_nil, or_false] at hc
    rcases hc with rfl | rfl | rfl | rfl | rfl | rfl | rfl <;> decide
  exact step_of_not_continues hnot hp n

/-- A scalar is read to its end: its last character completes it, or any
delimiter after it does. -/
inductive Reads (kept : Bool) : List Char → Scalar → Prop
  | done {c d : Char} {t : List Char} {s s' : ScalarState} {v : Scalar}
      (hc : ScalarState.start? c = some s) (h : Through (ScalarState.step kept) s t s')
      (hd : s'.step kept d = .done v) : Reads kept (c :: t ++ [d]) v
  | ended {c : Char} {t : List Char} {s s' : ScalarState} {v : Scalar}
      (hc : ScalarState.start? c = some s) (h : Through (ScalarState.step kept) s t s')
      (hd : ∀ d ∈ delimiters, s'.step kept d = .ended v) : Reads kept (c :: t) v

/-- A scalar begins with no delimiter. -/
theorem not_mem_delimiters_of_start? {c : Char} {s : ScalarState}
    (h : ScalarState.start? c = some s) : c ∉ delimiters := by
  intro hc
  simp only [delimiters, List.mem_cons, List.not_mem_nil, or_false] at hc
  rcases hc with rfl | rfl | rfl | rfl | rfl | rfl | rfl <;> cases h

theorem Reads.exists_head {kept : Bool} {t : List Char} {v : Scalar} (h : Reads kept t v) :
    ∃ c t', t = c :: t' ∧ c ∉ delimiters := by
  cases h with
  | done hc _ _ => exact ⟨_, _, rfl, not_mem_delimiters_of_start? hc⟩
  | ended hc _ _ => exact ⟨_, _, rfl, not_mem_delimiters_of_start? hc⟩

theorem reads_null (kept : Bool) : Reads kept ['n', 'u', 'l', 'l'] .null :=
  .done (t := ['u', 'l']) rfl (.cons rfl (.cons rfl (.nil _))) rfl

theorem reads_bool (kept b : Bool) :
    Reads kept (if b then ['t', 'r', 'u', 'e'] else ['f', 'a', 'l', 's', 'e']) (.bool b) := by
  cases b with
  | false => exact .done (t := ['a', 'l', 's']) rfl (.cons rfl (.cons rfl (.cons rfl (.nil _)))) rfl
  | true => exact .done (t := ['r', 'u']) rfl (.cons rfl (.cons rfl (.nil _))) rfl

theorem reads_numeral (kept : Bool) {n : Numeral} {t : List Char} (h : SpellsNumeral n t) :
    Reads kept t (.numeral n) := by
  obtain ⟨c, t', p, rfl, hc, hp, h⟩ := h.through
  refine .ended hc (h.map ScalarState.number ?_) ?_
  · intro c s s' hs
    simp only [ScalarState.step, hs]
  · intro d hd
    simp only [ScalarState.step, NumberState.step_of_delimiter hd hp]

/-- A reader of a text that has come to its end is done at the quote. -/
theorem reads_quoted {kept : Bool} {t : List Char} {s : String}
    (h : Through (TextState.step kept) .start t (.plain s)) :
    Reads kept ('"' :: t ++ ['"']) (.text s) := by
  refine .done (s := .text .start) rfl (h.map ScalarState.text ?_) rfl
  intro c s s' hs
  simp only [ScalarState.step, hs]

theorem reads_text {s : String} {t : List Char} (h : Spells s.toList t) :
    Reads true ('"' :: t ++ ['"']) (.text s) := by
  have ht := h.through ""
  rw [String.empty_append, String.ofList_toList] at ht
  exact reads_quoted ht

theorem reads_loose {t : List Char} (h : Loose t) :
    ∃ s, Reads false ('"' :: t ++ ['"']) (.text s) := by
  obtain ⟨s, hs⟩ := h.through ""
  exact ⟨s, reads_quoted hs⟩

end Telemetry.Json
