import Tabular.Rule.Basic
import Tabular.Rule.Comparison

/-!
# Positions left out

The position rules of a list work together. Each number names a position to leave out. The
comparisons name those that meet all of them; a text that is no comparison, and a bare truth value,
is met by none.

* `PositionTest`: a comparison, or a test that nothing passes.
* `leavesOut`: whether position rules together leave out a position.
-/

namespace Tabular

/-- A test of positions. -/
inductive PositionTest where
  | comparison (c : Comparison)
  | never

namespace PositionTest

/-- The test that a text describes. -/
def ofText (s : String) : PositionTest :=
  (Comparison.read? s.toList).elim never comparison

/-- The verdict of a test on a position. -/
def holds : PositionTest → Int → Bool
  | comparison c, i => c.holds i
  | never, _ => false

end PositionTest

/-- The cells that name positions in a position rule. -/
def namedPositions : Cell → List Cell
  | .list cells => cells
  | .text _ => []
  | .bool _ => []
  | c => [c]

/-- The test in a position rule. -/
def positionTest? : Cell → Option PositionTest
  | .text s => some (.ofText s)
  | .bool _ => some .never
  | _ => none

/-- Whether a cell names a position: by the number of the same value, never by a truth value. -/
def namesPosition (i : Int) : Cell → Bool
  | .bool _ => false
  | c => c.looselyEqual (.int i)

/-- Whether position rules leave out a position. -/
def leavesOut (positions : List Cell) (i : Int) : Bool :=
  let tests := positions.filterMap positionTest?
  (positions.flatMap namedPositions).any (namesPosition i) ||
    (!tests.isEmpty && tests.all (·.holds i))

/-- Whether rules that give positions leave one out; without position rules none is. -/
def FilterRule.excludes (rules : List FilterRule) (i : Int) : Bool :=
  leavesOut (positionRules rules) i

end Tabular
