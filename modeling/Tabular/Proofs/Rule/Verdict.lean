import Tabular.Proofs.Filter.Exchange
import Tabular.Proofs.Number.Rounding
import Tabular.Proofs.Rule.Written

/-!
# The verdicts of comparisons

A comparison says of each position whether it stands in the relation of its operator to its number. The six
operators go in three pairs that contradict each other: a table loses some rows to one of a pair and the others
to the other. Where the number is a whole one of at most 53 binary digits the verdict is exact, however the
number is written; any other number is rounded first.

* `Relation.complement`: the operator that contradicts another.
* `existsUnique_holds`: a position is less than a number, equal to it, or greater.
* `holds_ofInt_iff`: exact verdicts.
* `positionTest_ofText_holds`: the verdicts of a comparison on positions and on tables.
-/

namespace Tabular

/-- Of two places one comes first, or they are the same. -/
lemma Place.trichotomy (p q : Place) :
    (p.before q = true ∧ p.same q = false ∧ q.before p = false) ∨
      (p.before q = false ∧ p.same q = true ∧ q.before p = false) ∨
      (p.before q = false ∧ p.same q = false ∧ q.before p = true) := by
  cases p with
  | negativeInfinity =>
    cases q with
    | negativeInfinity => exact .inr (.inl ⟨rfl, rfl, rfl⟩)
    | finite => exact .inl ⟨rfl, rfl, rfl⟩
    | positiveInfinity => exact .inl ⟨rfl, rfl, rfl⟩
  | positiveInfinity =>
    cases q with
    | negativeInfinity => exact .inr (.inr ⟨rfl, rfl, rfl⟩)
    | finite => exact .inr (.inr ⟨rfl, rfl, rfl⟩)
    | positiveInfinity => exact .inr (.inl ⟨rfl, rfl, rfl⟩)
  | finite c e =>
    cases q with
    | negativeInfinity => exact .inr (.inr ⟨rfl, rfl, rfl⟩)
    | positiveInfinity => exact .inl ⟨rfl, rfl, rfl⟩
    | finite d f =>
      simp only [← Bool.not_eq_true, before_finite_iff, same_finite_iff]
      rcases lt_trichotomy ((c : ℚ) * 2 ^ e) (d * 2 ^ f) with h | h | h
      · exact .inl ⟨h, h.ne, h.le.not_gt⟩
      · exact .inr (.inl ⟨h.not_lt, h, h.not_gt⟩)
      · exact .inr (.inr ⟨h.le.not_gt, h.ne', h⟩)

namespace Relation

/-- The operator that holds where another one does not. -/
def complement : Relation → Relation
  | equal => notEqual
  | notEqual => equal
  | greater => lessOrEqual
  | greaterOrEqual => less
  | less => greaterOrEqual
  | lessOrEqual => greater

/-- The relation of two whole numbers that an operator stands for. -/
def Compares : Relation → Int → Int → Prop
  | equal, i, n => i = n
  | notEqual, i, n => i ≠ n
  | greater, i, n => n < i
  | greaterOrEqual, i, n => n ≤ i
  | less, i, n => i < n
  | lessOrEqual, i, n => i ≤ n

variable {p q : Place} {i n : Int}

/-- Of an operator and its complement exactly one holds. -/
lemma holds_complement (relation : Relation) : relation.complement.holds p q = !relation.holds p q := by
  cases relation <;> simp [complement, holds]

/-- Two places stand in exactly one of three relations. -/
lemma existsUnique_holds (p q : Place) :
    ∃! relation, relation ∈ [less, equal, greater] ∧ relation.holds p q = true := by
  rcases p.trichotomy q with ⟨hless, hequal, hgreater⟩ | ⟨hless, hequal, hgreater⟩ | ⟨hless, hequal, hgreater⟩
  · exact ⟨less, by simp [holds, hless], by simp [holds, hequal, hgreater]⟩
  · exact ⟨equal, by simp [holds, hequal], by simp [holds, hless, hgreater]⟩
  · exact ⟨greater, by simp [holds, hgreater], by simp [holds, hless, hequal]⟩

/-- At the place of a whole number the relation is that of the numbers. -/
lemma holds_ofInt_iff (hq : q.value? = some (n : ℚ)) (relation : Relation) :
    relation.holds (.ofInt i) q = true ↔ relation.Compares i n := by
  cases q with
  | negativeInfinity => cases hq
  | positiveInfinity => cases hq
  | finite c e =>
    have hvalue : (c : ℚ) * 2 ^ e = n := Option.some.inj hq
    have hequal : (Place.ofInt i).same (.finite c e) = true ↔ i = n := by
      rw [Place.ofInt, Place.same_finite_iff, hvalue, zpow_zero, mul_one, Int.cast_inj]
    have hless : (Place.ofInt i).before (.finite c e) = true ↔ i < n := by
      rw [Place.ofInt, Place.before_finite_iff, hvalue, zpow_zero, mul_one, Int.cast_lt]
    have hgreater : (Place.finite c e).before (.ofInt i) = true ↔ n < i := by
      rw [Place.ofInt, Place.before_finite_iff, hvalue, zpow_zero, mul_one, Int.cast_lt]
    cases relation with
    | equal => exact hequal
    | notEqual => rw [holds, Bool.not_eq_true', ← Bool.not_eq_true, hequal, Compares]
    | greater => exact hgreater
    | greaterOrEqual => rw [holds, Bool.not_eq_true', ← Bool.not_eq_true, hless, Compares, not_lt]
    | less => exact hless
    | lessOrEqual => rw [holds, Bool.not_eq_true', ← Bool.not_eq_true, hgreater, Compares, not_lt]

end Relation

namespace PositionTest

variable {s : String} {number : List Char} {relation : Relation} {x : Decimal} {place : Place} {i : Int}

/-- No position passes the test of a text that is no comparison. -/
lemma holds_ofText_of_not_written (h : ¬ Comparison.Written s.toList) (i : Int) : (ofText s).holds i = false := by
  have hnone : Comparison.read? s.toList = none := by
    rwa [← Option.not_isSome_iff_eq_none, Comparison.isSome_read?_iff]
  rw [ofText, hnone]
  rfl

/-- A written comparison asks for the place of its number. -/
lemma holds_ofText (hs : Comparison.WrittenAs relation number s.toList) (hnumber : Decimal.Written number)
    (hx : Decimal.read? number = some x) (hplace : (Binary64.ofDecimal x).place? = some place) :
    (ofText s).holds i = relation.holds (.ofInt i) place := by
  rw [ofText, hs.read?_eq hnumber hx, Option.elim_some, holds, Comparison.holds, hplace]

end PositionTest

/-- A comparison alone keeps the rows whose index does not meet it. -/
lemma FilterRule.keepsAsList_position_text (row : Row) (i : Nat) (s : String) :
    keepsAsList row i [.position (.text s)] = !(PositionTest.ofText s).holds i := by
  simp [keepsAsList, excludes, leavesOut, positionRules, positionTest?, namedPositions, votes, vote?,
    Quorum.decide]

/-- Rules that keep what others do not leave the rows that the others take. -/
lemma Table.ignoreRows_append_perm (t : Table) {rules others : List FilterRule}
    (h : ∀ row i, FilterRule.keepsAsList row i others = !FilterRule.keepsAsList row i rules) :
    (t.ignoreRows rules ++ t.ignoreRows others).Perm t := by
  rw [ignoreRows, ignoreRows, ← List.map_append]
  simp only [h]
  have hperm := List.filter_append_perm (fun line : Row × Nat => FilterRule.keepsAsList line.1 line.2 rules) t.zipIdx
  simpa using hperm.map Prod.fst

/-- The texts that are comparisons are those that are written as one, and no other text holds of a position. At
a number, however it is written, exactly one of less, equal and greater holds of each position, and an operator
holds where its complement does not, so that every row of a table goes by just one of the two. The verdicts are
those on whole numbers when the number is a whole one within the precision of floating point. -/
theorem positionTest_ofText_holds :
    (∀ s : String, (Comparison.read? s.toList).isSome = true ↔ Comparison.Written s.toList) ∧
      (∀ s : String, ¬ Comparison.Written s.toList → ∀ i, (PositionTest.ofText s).holds i = false) ∧
      ∀ number, Decimal.Written number → ∀ text : Relation → String,
        (∀ relation, Comparison.WrittenAs relation number (text relation).toList) →
          (∀ i, ∃! relation, relation ∈ [.less, .equal, .greater] ∧
            (PositionTest.ofText (text relation)).holds i = true) ∧
          (∀ relation i, (PositionTest.ofText (text relation.complement)).holds i =
            !(PositionTest.ofText (text relation)).holds i) ∧
          (∀ relation (t : Table),
            (∀ i < t.length, t.RemovesRow [.position (.text (text relation.complement))] i ↔
              ¬ t.RemovesRow [.position (.text (text relation))] i) ∧
            (t.ignoreRows [.position (.text (text relation))] ++
              t.ignoreRows [.position (.text (text relation.complement))]).Perm t) ∧
          ∀ n : Int, Decimal.Denotes number n → n.natAbs ≤ 2 ^ 53 → ∀ relation i,
            (PositionTest.ofText (text relation)).holds i = true ↔ relation.Compares i n := by
  refine ⟨fun s => Comparison.isSome_read?_iff, fun s => PositionTest.holds_ofText_of_not_written, ?_⟩
  intro number hnumber text htext
  obtain ⟨x, hx⟩ := Option.isSome_iff_exists.mp (Decimal.isSome_read?_iff.mpr hnumber)
  obtain ⟨place, hplace⟩ := Binary64.exists_place x
  have holds (relation i) : (PositionTest.ofText (text relation)).holds i = relation.holds (.ofInt i) place :=
    PositionTest.holds_ofText (htext relation) hnumber hx hplace
  have complement (relation i) : (PositionTest.ofText (text relation.complement)).holds i =
      !(PositionTest.ofText (text relation)).holds i := by
    rw [holds, holds, Relation.holds_complement]
  have keeps (relation row i) : FilterRule.keepsAsList row i [.position (.text (text relation.complement))] =
      !FilterRule.keepsAsList row i [.position (.text (text relation))] := by
    rw [FilterRule.keepsAsList_position_text, FilterRule.keepsAsList_position_text, complement]
  refine ⟨fun i => ?_, complement, fun relation t => ⟨fun i hi => ?_, ?_⟩, fun n hn hbound relation i => ?_⟩
  · simp only [holds]
    exact Relation.existsUnique_holds _ _
  · simp [Table.RemovesRow, List.getElem?_eq_getElem hi, keeps]
  · exact t.ignoreRows_append_perm (keeps relation)
  · obtain ⟨y, hy, hvalue⟩ := Decimal.exists_read?_of_denotes hn
    cases hx.symm.trans hy
    obtain ⟨exact, hexact, hplaceValue⟩ := Binary64.exists_place_of_value hvalue hbound
    cases hplace.symm.trans hexact
    rw [holds, Relation.holds_ofInt_iff hplaceValue]

/-- Thirty tenths are three: of five rows the first three are removed for being less, and the others are not. -/
theorem positionTest_ofText_holds_thirty_tenths :
    Decimal.Written ['3', '0', 'e', '-', '1'] ∧
      (∀ i, (PositionTest.ofText "<30e-1").holds i = true ↔ i < 3) ∧
      (∀ i, (PositionTest.ofText ">=30e-1").holds i = !(PositionTest.ofText "<30e-1").holds i) ∧
      ¬ Table.RemovesRow [[], [], [], [], []] [.position (.text "<30e-1")] 4 := by
  have hsignificand : Decimal.SignificandDenotes ['3', '0'] (Text.digitsValue ['3', '0']) :=
    .whole (by decide) (by decide)
  have hexponent : Decimal.ExponentDenotes ['e', '-', '1'] (-1 * Text.digitsValue ['1']) :=
    .some (.inl rfl) .minus (by decide) (by decide)
  have hdenotes : Decimal.Denotes ['3', '0', 'e', '-', '1'] (3 : Int) := by
    have h := Decimal.Denotes.intro .none hsignificand hexponent
    have hthirty : Text.digitsValue ['3', '0'] = 30 := by decide
    have hone : Text.digitsValue ['1'] = 1 := by decide
    rw [hthirty, hone] at h
    norm_num at h
    exact_mod_cast h
  have hnumber : Decimal.Written ['3', '0', 'e', '-', '1'] := Decimal.written_iff.mpr ⟨_, hdenotes⟩
  obtain ⟨-, complement, rows, whole⟩ := positionTest_ofText_holds.2.2 _ hnumber
    (fun relation => String.ofList (relation.symbol ++ ['3', '0', 'e', '-', '1'])) fun relation => by
      rw [String.toList_ofList]
      exact Comparison.writtenAs_append relation _
  refine ⟨hnumber, whole 3 hdenotes (by decide) .less, complement .less, ?_⟩
  refine ((rows .greaterOrEqual [[], [], [], [], []]).1 4 (by decide)).not.mpr (not_not_intro ?_)
  refine ⟨_, rfl, ?_⟩
  rw [FilterRule.keepsAsList_position_text, Bool.not_eq_false']
  exact (whole 3 hdenotes (by decide) .greaterOrEqual 4).mpr (show (3 : Int) ≤ 4 by decide)

end Tabular
