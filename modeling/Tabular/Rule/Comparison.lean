import Tabular.Number.Binary64
import Tabular.Text.Blank

/-!
# Comparisons

A position compared with a number: an operator and a decimal number, with blanks around either. The
number is rounded to floating point, the comparison itself is exact.

* `Relation`: the six operators.
* `Comparison.read?`: reading a text as a comparison.
* `Comparison.holds`: the verdict on a position.
-/

namespace Tabular

open Text

/-- The operator of a comparison. -/
inductive Relation where
  | equal
  | notEqual
  | greater
  | greaterOrEqual
  | less
  | lessOrEqual
deriving DecidableEq

namespace Relation

/-- The operator at the beginning of a text, and what comes behind it; the longer operators are tried first. -/
def read? : List Char → Option (Relation × List Char)
  | '=' :: '=' :: cs => some (equal, cs)
  | '!' :: '=' :: cs => some (notEqual, cs)
  | '>' :: '=' :: cs => some (greaterOrEqual, cs)
  | '<' :: '=' :: cs => some (lessOrEqual, cs)
  | '>' :: cs => some (greater, cs)
  | '<' :: cs => some (less, cs)
  | _ => none

/-- Whether two places stand in a relation. -/
def holds : Relation → Place → Place → Bool
  | equal, p, q => p.same q
  | notEqual, p, q => !p.same q
  | greater, p, q => q.before p
  | greaterOrEqual, p, q => !p.before q
  | less, p, q => p.before q
  | lessOrEqual, p, q => !q.before p

end Relation

/-- An operator and the number to compare with. -/
structure Comparison where
  relation : Relation
  bound : Binary64
deriving DecidableEq

namespace Comparison

/-- A text without the blanks at either end. -/
def trim (cs : List Char) : List Char :=
  (dropBlanks (dropBlanks cs).reverse).reverse

/-- The comparison that a text is: an operator and a number, with blanks around and between them. -/
def read? (cs : List Char) : Option Comparison := do
  let (relation, rest) ← Relation.read? (trim cs)
  let number ← Decimal.read? (dropBlanks rest)
  return ⟨relation, Binary64.ofDecimal number⟩

/-- Whether a position meets a comparison. From the undefined number every position only differs. -/
def holds (c : Comparison) (index : Int) : Bool :=
  match c.bound.place? with
  | some place => c.relation.holds (Place.ofInt index) place
  | none => c.relation == .notEqual

end Comparison

end Tabular
