/-
# The grammar of JSON texts

What a JSON text is, told without a reader: which characters spell a text
between quotes, a numeral, or any value, with white space wherever it may
stand. A text that has to be understood is told together with what it denotes
(`Spells`), so there each escape of a leading surrogate is followed by that of a
trailing one. Of a value that is passed over only the form matters
(`ValueText`): in its texts and keys a surrogate may stand alone (`Loose`), and
its numerals may be of any size.

Key definitions: `Padding`, `HexUnit`, `SpellsChar`, `Spells`, `Loose`,
`SpellsNumeral`, `Separated`, `MemberParts`, `ValueText`.
-/
import Mathlib
import Telemetry.Json.Scalar

namespace Telemetry.Json

/-- White space. -/
def Padding (w : List Char) : Prop := ∀ c ∈ w, c = ' ' ∨ c = '\t' ∨ c = '\n' ∨ c = '\r'

instance : DecidablePred Padding := fun w =>
  List.decidableBAll (fun c => c = ' ' ∨ c = '\t' ∨ c = '\n' ∨ c = '\r') w

/-! ### Texts -/

/-- A hexadecimal digit in either case, and its value. -/
def HexDigit (c : Char) (d : ℕ) : Prop :=
  d < 16 ∧ (c = Nat.digitChar d ∨ c = (Nat.digitChar d).toUpper)

/-- Four hexadecimal digits, and the code unit that they denote. -/
inductive HexUnit : List Char → ℕ → Prop
  | mk {c₁ c₂ c₃ c₄ : Char} {d₁ d₂ d₃ d₄ : ℕ} (h₁ : HexDigit c₁ d₁) (h₂ : HexDigit c₂ d₂)
      (h₃ : HexDigit c₃ d₃) (h₄ : HexDigit c₄ d₄) :
      HexUnit [c₁, c₂, c₃, c₄] (16 * (16 * (16 * d₁ + d₂) + d₃) + d₄)

theorem hexUnit_digits (d₁ d₂ d₃ d₄ : Fin 16) :
    HexUnit [Nat.digitChar d₁, Nat.digitChar d₂, Nat.digitChar d₃, Nat.digitChar d₄]
      (16 * (16 * (16 * d₁ + d₂) + d₃) + d₄) :=
  .mk ⟨d₁.isLt, .inl rfl⟩ ⟨d₂.isLt, .inl rfl⟩ ⟨d₃.isLt, .inl rfl⟩ ⟨d₄.isLt, .inl rfl⟩

/-- The escapes of one letter, and the characters that they denote. -/
def letterEscapes : List (Char × Char) :=
  [('"', '"'), ('\\', '\\'), ('/', '/'), ('b', '\x08'), ('f', '\x0c'), ('n', '\n'), ('r', '\r'),
    ('t', '\t')]

/-- A character that stands for itself between quotes. -/
def IsPlain (c : Char) : Prop := c ≠ '"' ∧ c ≠ '\\' ∧ 0x20 ≤ c.toNat

/-- The ways to write a character between quotes: as it is, by an escape of one
letter, by its code unit, or by the two of a surrogate pair. -/
inductive SpellsChar (c : Char) : List Char → Prop
  | plain (h : IsPlain c) : SpellsChar c [c]
  | letter {l : Char} (h : (l, c) ∈ letterEscapes) : SpellsChar c ['\\', l]
  | unit {digits : List Char} (h : HexUnit digits c.toNat) : SpellsChar c ('\\' :: 'u' :: digits)
  | pair {high low : ℕ} {leading trailing : List Char} (hhigh : high < 0x400) (hlow : low < 0x400)
      (hc : c.toNat = 0x10000 + high * 0x400 + low) (hleading : HexUnit leading (0xD800 + high))
      (htrailing : HexUnit trailing (0xDC00 + low)) :
      SpellsChar c ('\\' :: 'u' :: leading ++ '\\' :: 'u' :: trailing)

/-- What the characters between two quotes denote. -/
inductive Spells : List Char → List Char → Prop
  | nil : Spells [] []
  | cons {c : Char} {cs t ts : List Char} (h : SpellsChar c t) (hs : Spells cs ts) :
      Spells (c :: cs) (t ++ ts)

/-- Plain characters spell themselves. -/
theorem spells_self : ∀ {cs : List Char}, (∀ c ∈ cs, IsPlain c) → Spells cs cs
  | [], _ => .nil
  | c :: _, h => .cons (.plain (h c (List.mem_cons_self ..)))
      (spells_self fun d hd => h d (List.mem_cons_of_mem _ hd))

/-- Characters between two quotes, with surrogates paired or not. -/
inductive Loose : List Char → Prop
  | nil : Loose []
  | plain {c : Char} {ts : List Char} (h : IsPlain c) (hs : Loose ts) : Loose (c :: ts)
  | letter {l c : Char} {ts : List Char} (h : (l, c) ∈ letterEscapes) (hs : Loose ts) :
      Loose ('\\' :: l :: ts)
  | unit {digits ts : List Char} {n : ℕ} (h : HexUnit digits n) (hs : Loose ts) :
      Loose ('\\' :: 'u' :: digits ++ ts)

/-! ### Numerals -/

def digitText (ds : List ℕ) : List Char := ds.map Nat.digitChar

/-- Decimal digits, at least one. -/
def IsDigits (ds : List ℕ) : Prop := ds ≠ [] ∧ ∀ d ∈ ds, d < 10

instance : DecidablePred IsDigits := fun ds =>
  inferInstanceAs (Decidable (ds ≠ [] ∧ ∀ d ∈ ds, d < 10))

/-- The digits of a whole part: zero alone, or digits that do not begin with
it. -/
def IsWhole (ds : List ℕ) : Prop := IsDigits ds ∧ (ds.head? = some 0 → ds = [0])

instance : DecidablePred IsWhole := fun ds =>
  inferInstanceAs (Decidable (IsDigits ds ∧ (ds.head? = some 0 → ds = [0])))

inductive SpellsFraction : List ℕ → List Char → Prop
  | none : SpellsFraction [] []
  | some {ds : List ℕ} (h : IsDigits ds) : SpellsFraction ds ('.' :: digitText ds)

/-- The ways to write the sign of an exponent. -/
inductive SpellsSign : Bool → List Char → Prop
  | none : SpellsSign false []
  | plus : SpellsSign false ['+']
  | minus : SpellsSign true ['-']

inductive SpellsExponent : Option (Bool × List ℕ) → List Char → Prop
  | none : SpellsExponent none []
  | some {mark : Char} {negative : Bool} {sign : List Char} {ds : List ℕ}
      (hmark : mark = 'e' ∨ mark = 'E') (hsign : SpellsSign negative sign) (h : IsDigits ds) :
      SpellsExponent (some (negative, ds)) (mark :: sign ++ digitText ds)

/-- The ways to write a numeral. -/
inductive SpellsNumeral (n : Numeral) : List Char → Prop
  | mk {fraction exponent : List Char} (hwhole : IsWhole n.whole)
      (hfraction : SpellsFraction n.fraction fraction)
      (hexponent : SpellsExponent n.exponent? exponent) :
      SpellsNumeral n
        ((if n.negative then ['-'] else []) ++ digitText n.whole ++ fraction ++ exponent)

/-! ### Values -/

/-- Items with a comma between any two, and white space around each. -/
inductive Separated : List (List Char) → List Char → Prop
  | empty {w : List Char} (hw : Padding w) : Separated [] w
  | single {t w w' : List Char} (hw : Padding w) (hw' : Padding w') :
      Separated [t] (w ++ t ++ w')
  | cons {t u text w w' : List Char} {ts : List (List Char)} (hw : Padding w) (hw' : Padding w')
      (h : Separated (u :: ts) text) : Separated (t :: u :: ts) (w ++ t ++ w' ++ ',' :: text)

/-- A member of an object: its key, without the quotes, the white space around
the colon, and its value. -/
structure MemberParts where
  key : List Char
  before : List Char
  after : List Char
  value : List Char

def MemberParts.text (m : MemberParts) : List Char :=
  '"' :: m.key ++ '"' :: m.before ++ ':' :: m.after ++ m.value

/-- The texts of values that are passed over. -/
inductive ValueText : List Char → Prop
  | null : ValueText ['n', 'u', 'l', 'l']
  | bool (b : Bool) : ValueText (if b then ['t', 'r', 'u', 'e'] else ['f', 'a', 'l', 's', 'e'])
  | numeral {n : Numeral} {t : List Char} (h : SpellsNumeral n t) : ValueText t
  | text {t : List Char} (h : Loose t) : ValueText ('"' :: t ++ ['"'])
  | list {items : List (List Char)} {text : List Char} (h : Separated items text)
      (hitems : ∀ t ∈ items, ValueText t) : ValueText ('[' :: text ++ [']'])
  | object {members : List MemberParts} {text : List Char}
      (h : Separated (members.map MemberParts.text) text)
      (hkeys : ∀ m ∈ members, Loose m.key ∧ Padding m.before ∧ Padding m.after)
      (hvalues : ∀ m ∈ members, ValueText m.value) : ValueText ('{' :: text ++ ['}'])

end Telemetry.Json
