import Tabular.Calendar.Pattern
import Tabular.Proofs.Text.Expression

/-!
# What a pattern matches

A pattern is matched item by item, and each item may give way to the items behind it.

* `Pattern.Matches`: a match is put together from stretches that the items describe.
* `Pattern.matches_of_matchStart?`, `Pattern.matches_of_match?`: what is found is a match.
* `Pattern.matchStart?_of_head?`: an item whose preferred stretch leaves a text that the items behind it match
  does not give way.
-/

namespace Tabular.Calendar

open Text

/-- What an item captures of the stretch that it takes. -/
def PatternItem.captures : PatternItem → List Char → List Capture
  | .field d, taken => [(d, taken)]
  | _, _ => []

namespace Pattern

/-- A pattern, a text that it describes as a whole, and the captures of its fields. -/
inductive Matches : Pattern → List Char → List Capture → Prop where
  | nil : Matches [] [] []
  | cons {item taken p cs captures} : item.expression.Describes taken → Matches p cs captures →
    Matches (item :: p) (taken ++ cs) (item.captures taken ++ captures)

variable {item : PatternItem} {p : Pattern} {cs taken later rest : List Char} {captures : List Capture}

/-- A match of a pattern is one of its first item, and behind it one of the other items. -/
lemma Matches.exists_of_cons (h : Matches (item :: p) cs captures) : ∃ taken later captures',
    item.expression.Describes taken ∧ p.Matches later captures' ∧ cs = taken ++ later ∧
      captures = item.captures taken ++ captures' := by
  cases h with
  | cons hitem hlater => exact ⟨_, _, _, hitem, hlater, rfl, rfl⟩

/-- The search tries the stretches of the first item in the order of preference. -/
lemma matchStart?_cons (item : PatternItem) (p : Pattern) (cs : List Char) :
    matchStart? (item :: p) cs = (item.expression.splits cs).findSome? fun (taken, rest) =>
      (matchStart? p rest).map fun (captures, rest) => (item.captures taken ++ captures, rest) := by
  cases item <;> rfl

/-- What is found is a match of the part of the text in front of the rest. -/
lemma matches_of_matchStart? (h : matchStart? p cs = some (captures, rest)) :
    ∃ taken, cs = taken ++ rest ∧ p.Matches taken captures := by
  induction p generalizing cs captures rest with
  | nil =>
    cases h
    exact ⟨[], rfl, .nil⟩
  | cons item p ih =>
    rw [matchStart?_cons] at h
    obtain ⟨⟨taken, later⟩, hcut, hfound⟩ := List.exists_of_findSome?_eq_some h
    obtain ⟨⟨captures, rest⟩, hlater, e⟩ := Option.map_eq_some_iff.mp hfound
    cases e
    obtain ⟨rfl, hitem⟩ := Expression.mem_splits_iff.mp hcut
    obtain ⟨front, rfl, hfront⟩ := ih hlater
    exact ⟨taken ++ front, (List.append_assoc ..).symm, .cons hitem hfront⟩

/-- Only a text that the pattern describes as a whole is matched. -/
lemma matches_of_match? (h : p.match? cs = some captures) : p.Matches cs captures := by
  rw [match?] at h
  split at h
  · rename_i hstart
    cases h
    obtain ⟨taken, rfl, hmatch⟩ := matches_of_matchStart? hstart
    rwa [List.append_nil]
  · cases h

/-- The preferred stretch of an item is kept if the items behind it match what it leaves. -/
lemma matchStart?_of_head? (hcut : (item.expression.splits cs).head? = some (taken, later))
    (hlater : matchStart? p later = some (captures, rest)) :
    matchStart? (item :: p) cs = some (item.captures taken ++ captures, rest) := by
  obtain ⟨cuts, hcuts⟩ := List.head?_eq_some_iff.mp hcut
  rw [matchStart?_cons, hcuts, List.findSome?_cons]
  dsimp only
  rw [hlater]
  rfl

end Pattern

end Tabular.Calendar
