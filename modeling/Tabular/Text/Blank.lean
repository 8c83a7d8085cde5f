/-!
# Blank characters

The characters that leave white space: tabs and line ends, the four separators among the controls,
and every space of Unicode that may be broken at, with the no-break ones.

* `isBlank`: a character that leaves white space.
* `dropBlanks`: a text without those at its beginning.
-/

namespace Tabular.Text

/-- The intervals of blank code points, in ascending order. -/
def blankIntervals : List (Nat × Nat) := [
  (0x9, 0xD), (0x1C, 0x20), (0x85, 0x85), (0xA0, 0xA0), (0x1680, 0x1680), (0x2000, 0x200A),
  (0x2028, 0x2029), (0x202F, 0x202F), (0x205F, 0x205F), (0x3000, 0x3000)]

/-- A character that leaves white space. -/
def isBlank (c : Char) : Bool :=
  blankIntervals.any fun r => r.1 ≤ c.toNat && c.toNat ≤ r.2

/-- The text without its leading blanks. -/
def dropBlanks (cs : List Char) : List Char :=
  cs.dropWhile isBlank

end Tabular.Text
