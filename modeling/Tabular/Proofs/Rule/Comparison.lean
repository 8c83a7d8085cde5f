import Mathlib.Data.List.TakeWhile
import Mathlib.Tactic.Lemma
import Tabular.Rule.Comparison

/-!
# The written form of comparisons

A comparison is written as an operator and a number, with blanks before, between and behind them. The number
has a sign or none, digits with at most one point, and an exponent or none. No other text is read as a
comparison.

* `Decimal.Written`: the grammar of numbers.
* `Comparison.Written`: the grammar of comparisons.
* `Comparison.written_of_read?`: nothing else is read.
-/

namespace Tabular

open Text

namespace Decimal

/-- A sign, or none. -/
inductive IsSign : List Char → Prop where
  | none : IsSign []
  | plus : IsSign ['+']
  | minus : IsSign ['-']

/-- Digits, and nothing else. -/
def AreDigits (cs : List Char) : Prop :=
  ∀ c ∈ cs, isDigit c = true

/-- Whether characters are all digits can be computed. -/
instance (cs : List Char) : Decidable (AreDigits cs) :=
  List.decidableBAll (fun c => isDigit c = true) cs

/-- Digits, of which there is at least one, with a point in front of, among or behind them, or none. -/
inductive IsSignificand : List Char → Prop where
  | whole {digits} : digits ≠ [] → AreDigits digits → IsSignificand digits
  | fraction {whole fraction} : whole ≠ [] → AreDigits whole → AreDigits fraction →
    IsSignificand (whole ++ '.' :: fraction)
  | point {fraction} : fraction ≠ [] → AreDigits fraction → IsSignificand ('.' :: fraction)

/-- The letter e and a run of digits that may have a sign, or nothing. -/
inductive IsExponent : List Char → Prop where
  | none : IsExponent []
  | some {letter sign digits} : letter = 'e' ∨ letter = 'E' → IsSign sign → digits ≠ [] → AreDigits digits →
    IsExponent (letter :: (sign ++ digits))

/-- The written form of a number. -/
inductive Written : List Char → Prop where
  | intro {sign significand exponent} : IsSign sign → IsSignificand significand → IsExponent exponent →
    Written (sign ++ (significand ++ exponent))

variable {cs : List Char}

/-- What is read off as a sign is one. -/
lemma exists_sign_append (cs : List Char) : ∃ sign, IsSign sign ∧ cs = sign ++ (readSign cs).2 := by
  unfold readSign
  split
  · exact ⟨_, .minus, rfl⟩
  · exact ⟨_, .plus, rfl⟩
  · exact ⟨_, .none, rfl⟩

/-- What is read off as digits are digits. -/
lemma areDigits_readDigits (cs : List Char) : AreDigits (readDigits cs).1 :=
  fun _ hc => List.mem_takeWhile_imp hc

/-- Reading off digits loses nothing. -/
lemma readDigits_append (cs : List Char) : (readDigits cs).1 ++ (readDigits cs).2 = cs :=
  List.takeWhile_append_dropWhile

/-- What is read as an exponent is one. -/
lemma isExponent_of_readExponent? {e : Int} (h : readExponent? cs = some e) : IsExponent cs := by
  cases cs with
  | nil => exact .none
  | cons letter cs =>
    rw [readExponent?] at h
    split at h
    · rename_i hletter
      obtain ⟨sign, hsign, hcs⟩ := exists_sign_append cs
      simp only at h
      split at h
      · rename_i hdigits
        have happend := readDigits_append (readSign cs).2
        rw [hdigits.2, List.append_nil] at happend
        rw [hcs, ← happend]
        exact .some hletter hsign hdigits.1 (areDigits_readDigits _)
      · cases h
    · cases h

/-- What is read off as a fraction stands behind a point, or is empty. -/
lemma eq_cons_or_of_readFraction (cs : List Char) :
    cs = '.' :: ((readFraction cs).1 ++ (readFraction cs).2) ∧ AreDigits (readFraction cs).1 ∨
      (readFraction cs).1 = [] ∧ (readFraction cs).2 = cs := by
  unfold readFraction
  split
  · rename_i cs
    exact .inl ⟨congrArg _ (readDigits_append cs).symm, areDigits_readDigits cs⟩
  · exact .inr ⟨rfl, rfl⟩

/-- Only the written forms of numbers are read as numbers. -/
lemma written_of_read? {x : Decimal} (h : read? cs = some x) : Written cs := by
  simp only [read?] at h
  obtain ⟨sign, hsign, hcs⟩ := exists_sign_append cs
  generalize (readSign cs).2 = unsigned at h hcs
  have hwhole := areDigits_readDigits unsigned
  have happend := readDigits_append unsigned
  generalize (readDigits unsigned).1 = whole at h hwhole happend
  generalize (readDigits unsigned).2 = rest at h happend
  split at h
  · cases h
  · rename_i hdigits
    obtain ⟨e, he, -⟩ := Option.map_eq_some_iff.mp h
    have hexponent := isExponent_of_readExponent? he
    rw [hcs, ← happend]
    rcases eq_cons_or_of_readFraction rest with ⟨hrest, hfraction⟩ | ⟨hnone, hrest⟩
    · rw [hrest]
      by_cases hnil : whole = []
      · subst hnil
        have hne : (readFraction rest).1 ≠ [] := fun hnone => hdigits ⟨rfl, hnone⟩
        simpa using Written.intro hsign (.point hne hfraction) hexponent
      · simpa using Written.intro hsign (.fraction hnil hwhole hfraction) hexponent
    · have hne : whole ≠ [] := fun hnil => hdigits ⟨hnil, hnone⟩
      rw [hrest] at hexponent
      exact .intro hsign (.whole hne hwhole) hexponent

end Decimal

namespace Relation

/-- The operator of a relation. -/
def symbol : Relation → List Char
  | equal => ['=', '=']
  | notEqual => ['!', '=']
  | greater => ['>']
  | greaterOrEqual => ['>', '=']
  | less => ['<']
  | lessOrEqual => ['<', '=']

/-- What is read off as an operator is its symbol. -/
lemma symbol_append_of_read? {cs rest : List Char} {relation : Relation} (h : read? cs = some (relation, rest)) :
    cs = relation.symbol ++ rest := by
  unfold read? at h
  split at h <;> cases h <;> rfl

end Relation

namespace Comparison

/-- Blanks, and nothing else. -/
def AreBlanks (cs : List Char) : Prop :=
  ∀ c ∈ cs, isBlank c = true

/-- The written form of a comparison. -/
inductive Written : List Char → Prop where
  | intro {before between after number} (relation : Relation) : AreBlanks before → AreBlanks between →
    Decimal.Written number → AreBlanks after →
    Written (before ++ (relation.symbol ++ (between ++ number)) ++ after)

/-- What is dropped are blanks. -/
lemma exists_dropBlanks_append (cs : List Char) : ∃ blanks, AreBlanks blanks ∧ cs = blanks ++ dropBlanks cs :=
  ⟨cs.takeWhile isBlank, fun _ hc => List.mem_takeWhile_imp hc, List.takeWhile_append_dropWhile.symm⟩

/-- What is trimmed off are blanks on both sides. -/
lemma exists_trim_append (cs : List Char) :
    ∃ before after, AreBlanks before ∧ AreBlanks after ∧ cs = before ++ trim cs ++ after := by
  obtain ⟨before, hbefore, hcs⟩ := exists_dropBlanks_append cs
  obtain ⟨after, hafter, hrev⟩ := exists_dropBlanks_append (dropBlanks cs).reverse
  refine ⟨before, after.reverse, hbefore, fun c hc => hafter c (List.mem_reverse.mp hc), ?_⟩
  have h : dropBlanks cs = trim cs ++ after.reverse := by
    rw [trim, ← List.reverse_append, ← hrev, List.reverse_reverse]
  rw [List.append_assoc, ← h]
  exact hcs

/-- There is no comparison without one of the characters of operators. -/
lemma Written.exists_mem {cs : List Char} (h : Written cs) : ∃ c ∈ cs, c = '=' ∨ c = '>' ∨ c = '<' := by
  cases h with
  | intro relation =>
    have symbol : ∃ c ∈ relation.symbol, c = '=' ∨ c = '>' ∨ c = '<' := by
      cases relation <;> simp [Relation.symbol]
    obtain ⟨c, hc, h⟩ := symbol
    refine ⟨c, ?_, h⟩
    simp [hc]

/-- Only the written forms of comparisons are read as comparisons. -/
lemma written_of_read? {cs : List Char} {comparison : Comparison} (h : read? cs = some comparison) : Written cs := by
  obtain ⟨before, after, hbefore, hafter, hcs⟩ := exists_trim_append cs
  simp only [read?, Option.bind_eq_bind, Option.bind_eq_some_iff] at h
  obtain ⟨⟨relation, rest⟩, hrelation, number, hnumber, -⟩ := h
  obtain ⟨between, hbetween, hrest⟩ := exists_dropBlanks_append rest
  rw [hcs, Relation.symbol_append_of_read? hrelation, hrest]
  exact .intro relation hbefore hbetween (Decimal.written_of_read? hnumber) hafter

end Comparison

end Tabular
