/-
# Character classes

A class of characters is a list of ranges of code points, both ends included, in
increasing order. White space are the code points with the property White_Space;
a text is blank when it is made of nothing else, and the empty text is.

Key definitions: `inRanges`, `isBlank`, `isBlankText`.
-/

namespace Telemetry

/-- Whether the character's code point lies in one of the ranges. -/
def inRanges (ranges : List (Nat × Nat)) (c : Char) : Bool :=
  ranges.any fun r => r.1 ≤ c.toNat && c.toNat ≤ r.2

/-- The ranges of the white space characters. -/
def blankRanges : List (Nat × Nat) :=
  [(0x9, 0xD), (0x20, 0x20), (0x85, 0x85), (0xA0, 0xA0), (0x1680, 0x1680), (0x2000, 0x200A),
    (0x2028, 0x2029), (0x202F, 0x202F), (0x205F, 0x205F), (0x3000, 0x3000)]

def isBlank (c : Char) : Bool := inRanges blankRanges c

/-- Whether the text has no character but white space. -/
def isBlankText (s : String) : Bool := s.toList.all isBlank

end Telemetry
