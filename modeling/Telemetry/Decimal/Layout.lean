/-
# Layouts of decimal text

How the shortest digits of a number are laid out as text is a handful of
choices: which leading exponents are written positionally and which in
exponent form, whether a whole number keeps `.0`, whether a positive exponent
has its sign, and which of two equally near decimals is taken. A `Layout`
holds the choices and `Layout.write` applies them. Infinities and NaN are
`inf`, `-inf` and `NaN` in every layout, and a negative zero keeps its sign.

Key definitions: `Layout`, `Layout.write`.
-/
import Telemetry.Decimal.Shortest

namespace Telemetry

/-- The choices that lay out a number as text. -/
structure Layout where
  /-- The least and greatest leading exponent that is written positionally;
  every exponent if there is none. -/
  positional : Option (Int × Int)
  /-- Whether a whole number in positional form ends in `.0`. -/
  pointOnWhole : Bool
  /-- Whether an exponent that is not negative has a plus sign. -/
  plusSign : Bool
  tie : Tie

namespace Layout

/-- Whether a number with this leading exponent is written positionally. -/
def isPositional (l : Layout) (leading : Int) : Bool :=
  match l.positional with
  | none => true
  | some (least, most) => decide (least ≤ leading ∧ leading ≤ most)

private def zeros (n : Nat) : List Char := List.replicate n '0'

/-- The digits with the point after place `leading`, counted from the first. -/
def positionalForm (l : Layout) (digits : List Char) (leading : Int) : List Char :=
  if leading < 0 then
    '0' :: '.' :: zeros ((-leading).toNat - 1) ++ digits
  else
    let whole := leading.toNat + 1
    if digits.length ≤ whole then
      digits ++ zeros (whole - digits.length) ++ if l.pointOnWhole then ['.', '0'] else []
    else
      digits.take whole ++ '.' :: digits.drop whole

/-- One digit, the others after a point, and the leading exponent. -/
def exponentForm (l : Layout) (digits : List Char) (leading : Int) : List Char :=
  let fraction := match digits.drop 1 with
    | [] => []
    | rest => '.' :: rest
  let sign := if leading < 0 then ['-'] else if l.plusSign then ['+'] else []
  digits.take 1 ++ fraction ++ 'e' :: sign ++ Nat.toDigits 10 leading.natAbs

/-- The text of a finite magnitude, by its rank. -/
def magnitude (l : Layout) (rank : Nat) : List Char :=
  if rank = 0 then if l.pointOnWhole then ['0', '.', '0'] else ['0']
  else
    let d := Decimal.shortest l.tie rank
    let digits := Nat.toDigits 10 d.digits
    let leading := d.exponent + (digits.length - 1 : Nat)
    if l.isPositional leading then l.positionalForm digits leading
    else l.exponentForm digits leading

/-- The text of a number in this layout. -/
def write (l : Layout) (x : Binary64) : String :=
  if x.isNaN then "NaN"
  else
    let body := if x.isFinite then l.magnitude x.rank else ['i', 'n', 'f']
    String.ofList (if x.isNegative then '-' :: body else body)

end Layout
end Telemetry
