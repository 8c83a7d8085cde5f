import Tabular.Cell.Basic

/-!
# Equality of cells

Two relations. Under loose equality a truth value is the number one or zero and numbers are compared
by value, at any depth. Under strict equality, which rules use for the cells of a table, a truth value
only equals a truth value; inside lists and records it is loose again.

* `Cell.looselyEqual`: the equality of lists, records and positions.
* `Cell.strictlyEqual`: the equality of the cells of a table.
-/

namespace Tabular.Cell

/-- The place of a number on the line of numbers, truth values counting as one and zero. -/
def place? : Cell → Option Place
  | bool b => some (Place.ofInt b.toNat)
  | int n => some (Place.ofInt n)
  | float x => x.place?
  | _ => none

/-- Equal places; what has none equals nothing. -/
def samePlace (a b : Cell) : Bool :=
  match a.place?, b.place? with
  | some p, some q => p.same q
  | _, _ => false

mutual

/-- Equality with truth values as numbers. -/
def looselyEqual : Cell → Cell → Bool
  | null, null => true
  | text s, text t => s == t
  | list xs, list ys => listsEqual xs ys
  | record xs, record ys => xs.length == ys.length && fieldsWithin xs ys
  | a, b => samePlace a b

/-- Equality of lists, cell by cell. -/
def listsEqual : List Cell → List Cell → Bool
  | [], [] => true
  | x :: xs, y :: ys => looselyEqual x y && listsEqual xs ys
  | _, _ => false

/-- Every field is found, with an equal value, among other fields. -/
def fieldsWithin : List (String × Cell) → List (String × Cell) → Bool
  | [], _ => true
  | (k, x) :: xs, ys =>
    (match ys.lookup k with
    | some y => looselyEqual x y
    | none => false) && fieldsWithin xs ys

end

/-- Equality of the cells of a table: truth values only equal each other, numbers are compared by
value. -/
def strictlyEqual : Cell → Cell → Bool
  | bool a, bool b => a == b
  | bool _, _ => false
  | _, bool _ => false
  | a, b => looselyEqual a b

end Tabular.Cell
