import Tabular.Cell.Equality
import Tabular.Cell.Printer

/-!
# Selectors

Which rows or columns a rule looks at: all of them, or the listed ones. A listed cell stands for the
positions that it is loosely equal to; positions are picked from a line by whole numbers only.

* `Selector.ofCell`: reading a selector.
* `Selector.selects`: whether a position is selected.
* `Selector.pick`: the selected elements of a line.
-/

namespace Tabular

/-- A choice of rows or columns. -/
inductive Selector where
  | any
  | only (indices : List Cell)

namespace Selector

/-- Nothing and the word any select everything, a list is taken as it is, and any other cell selects
itself. -/
def ofCell : Cell → Selector
  | .null => any
  | .text s => if s = "any" then any else only [.text s]
  | .list cells => only cells
  | c => only [c]

/-- The selection of a position. -/
def selects : Selector → Int → Bool
  | any, _ => true
  | only indices, i => indices.any fun c => c.looselyEqual (.int i)

/-- The listed positions that a line of some length has, in the order listed, with repeats. -/
def inBounds (indices : List Cell) (length : Nat) : List Nat :=
  indices.filterMap fun
    | .int n => if 0 ≤ n ∧ n < length then some n.toNat else none
    | _ => none

/-- The selected elements of a line. -/
def pick {α : Type} : Selector → List α → List α
  | any, elements => elements
  | only indices, elements => (inBounds indices elements.length).filterMap (elements[·]?)

/-- The written form of a list of positions. -/
def indexSetText (indices : List Cell) : String :=
  "IndexSet([" ++ String.ofList (Cell.literals indices) ++ "])"

/-- Equality of selectors, their cells being compared loosely. -/
def same : Selector → Selector → Bool
  | any, any => true
  | only xs, only ys => Cell.listsEqual xs ys
  | _, _ => false

/-- Which of several selectors equal the first one; the first one itself does in any case. -/
def equalToFirst : List Selector → List Bool
  | [] => []
  | s :: ss => true :: ss.map s.same

/-- Lists and records cannot be members of a set. -/
def isPlain : Selector → Bool
  | any => true
  | only indices => indices.all Cell.isPlain

/-- Membership of columns in a set of cells, if none of them is a list or a record. -/
def columnSet? (cells : List Cell) : Option (Nat → Bool) :=
  if cells.all Cell.isPlain then some fun column => (only cells).selects column else none

/-- The count of different selectors; none may hold a list or a record. -/
def countDistinct? (selectors : List Selector) : Option Nat :=
  if selectors.all isPlain then
    some (selectors.foldl
      (fun seen s => if seen.any (·.same s) then seen else s :: seen) []).length
  else none

end Selector

end Tabular
