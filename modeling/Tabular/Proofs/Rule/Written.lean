import Tabular.Proofs.Number.Literal
import Tabular.Proofs.Rule.Comparison
import Tabular.Proofs.Text.Digit

/-!
# Every written comparison is read

No text that is not written as a comparison is read as one. Here is the converse: whatever blanks stand around
its operator and number, a written comparison is read as the one that it is written as.

* `WrittenAs`: a text is an operator and a number.
* `WrittenAs.read?_eq`: it is read as these.
* `isSome_read?_iff`: the texts that are read as comparisons.
-/

namespace Tabular

open Text

/-- A number is written in digits of any script and these five characters. -/
lemma Decimal.Written.isDigit_or_mem {number : List Char} (h : Written number) {c : Char} (hc : c ∈ number) :
    isDigit c = true ∨ c ∈ ['+', '-', '.', 'e', 'E'] := by
  have hsigns {sign : List Char} (hsign : IsSign sign) (hc : c ∈ sign) : c ∈ ['+', '-', '.', 'e', 'E'] := by
    cases hsign with
    | none => cases hc
    | plus => simpa using .inl (List.mem_singleton.mp hc)
    | minus => simpa using .inr (.inl (List.mem_singleton.mp hc))
  cases h with
  | intro hsign hsignificand hexponent =>
    rcases List.mem_append.mp hc with hc | hc
    · exact .inr (hsigns hsign hc)
    rcases List.mem_append.mp hc with hc | hc
    · cases hsignificand with
      | whole _ hdigits => exact .inl (hdigits c hc)
      | fraction _ hwhole hfraction =>
        rcases List.mem_append.mp hc with hc | hc
        · exact .inl (hwhole c hc)
        rcases List.mem_cons.mp hc with rfl | hc
        · exact .inr (by decide)
        · exact .inl (hfraction c hc)
      | point _ hfraction =>
        rcases List.mem_cons.mp hc with rfl | hc
        · exact .inr (by decide)
        · exact .inl (hfraction c hc)
    · cases hexponent with
      | none => cases hc
      | some hletter hsign _ hdigits =>
        rcases List.mem_cons.mp hc with rfl | hc
        · exact .inr (by rcases hletter with rfl | rfl <;> decide)
        rcases List.mem_append.mp hc with hc | hc
        · exact .inr (hsigns hsign hc)
        · exact .inl (hdigits c hc)

/-- No number has a blank in it. -/
lemma Decimal.Written.not_isBlank {number : List Char} (h : Written number) {c : Char} (hc : c ∈ number) :
    isBlank c = false := by
  rcases h.isDigit_or_mem hc with hdigit | hmem
  · exact isBlank_of_isDigit hdigit
  · simp only [List.mem_cons, List.not_mem_nil, or_false] at hmem
    rcases hmem with rfl | rfl | rfl | rfl | rfl <;> decide

/-- No number has an equals sign in it, so an operator ends where a number begins. -/
lemma Decimal.Written.ne_equals {number : List Char} (h : Written number) {c : Char} (hc : c ∈ number) : c ≠ '=' := by
  rcases h.isDigit_or_mem hc with hdigit | hmem
  · exact ne_of_isDigit hdigit (by decide)
  · simp only [List.mem_cons, List.not_mem_nil, or_false] at hmem
    rcases hmem with rfl | rfl | rfl | rfl | rfl <;> decide

/-- A number has a character. -/
lemma Decimal.Written.ne_nil {number : List Char} (h : Written number) : number ≠ [] := by
  rintro rfl
  rw [← isSome_read?_iff] at h
  cases h

/-- An operator is read unless it goes on in the text. -/
lemma Relation.read?_symbol_append (relation : Relation) {rest : List Char} (h : ∀ c ∈ rest.head?, c ≠ '=') :
    read? (relation.symbol ++ rest) = some (relation, rest) := by
  have hrest : ∀ cs, rest ≠ '=' :: cs := by
    rintro cs rfl
    exact h _ rfl rfl
  cases relation with
  | greater =>
    rw [symbol, List.singleton_append, read?]
    rintro cs ⟨⟩
    exact hrest _ rfl
  | less =>
    rw [symbol, List.singleton_append, read?]
    rintro cs ⟨⟩
    exact hrest _ rfl
  | _ => rfl

namespace Comparison

/-- The texts that write the comparison with an operator and a number, whatever blanks are in them. -/
inductive WrittenAs (relation : Relation) (number : List Char) : List Char → Prop where
  | intro {before between after} : AreBlanks before → AreBlanks between → AreBlanks after →
    WrittenAs relation number (before ++ (relation.symbol ++ (between ++ number)) ++ after)

variable {before between middle after number cs rest : List Char} {relation : Relation}

/-- Blanks are dropped up to the first other character. -/
lemma dropBlanks_append (hbefore : AreBlanks before) (hrest : ∀ c ∈ rest.head?, isBlank c = false) :
    dropBlanks (before ++ rest) = rest := by
  rw [dropBlanks, List.dropWhile_append_of_pos hbefore]
  cases rest with
  | nil => rfl
  | cons c rest => rw [List.dropWhile_cons_of_neg (by simp [hrest c rfl])]

/-- Blanks are trimmed off from both sides of what neither begins nor ends with one. -/
lemma trim_append (hbefore : AreBlanks before) (hafter : AreBlanks after)
    (hhead : ∀ c ∈ (middle ++ after).head?, isBlank c = false) (hlast : ∀ c ∈ middle.getLast?, isBlank c = false) :
    trim (before ++ middle ++ after) = middle := by
  have hreverse : AreBlanks after.reverse := fun c hc => hafter c (List.mem_reverse.mp hc)
  rw [trim, List.append_assoc, dropBlanks_append hbefore hhead, List.reverse_append,
    dropBlanks_append hreverse (by rwa [List.head?_reverse]), List.reverse_reverse]

/-- There need be no blanks. -/
lemma writtenAs_append (relation : Relation) (number : List Char) :
    WrittenAs relation number (relation.symbol ++ number) := by
  have hnone : AreBlanks [] := nofun
  simpa using WrittenAs.intro hnone hnone hnone

/-- A comparison is written as an operator and a number, with blanks around and between them. -/
lemma written_iff : Written cs ↔ ∃ relation number, Decimal.Written number ∧ WrittenAs relation number cs := by
  constructor
  · rintro ⟨relation, hbefore, hbetween, hnumber, hafter⟩
    exact ⟨relation, _, hnumber, .intro hbefore hbetween hafter⟩
  · rintro ⟨relation, number, hnumber, hbefore, hbetween, hafter⟩
    exact .intro relation hbefore hbetween hnumber hafter

/-- A written comparison is read as its operator and the floating point number nearest to its number. -/
lemma WrittenAs.read?_eq (h : WrittenAs relation number cs) (hnumber : Decimal.Written number) {x : Decimal}
    (hx : Decimal.read? number = some x) : read? cs = some ⟨relation, Binary64.ofDecimal x⟩ := by
  cases h with
  | @intro before between after hbefore hbetween hafter =>
    have hmem {c : Char} (hc : c ∈ number.head?) : c ∈ number := List.mem_of_head? hc
    have hblank : ∀ c ∈ number.head?, isBlank c = false := fun c hc => hnumber.not_isBlank (hmem hc)
    have hequals : ∀ c ∈ (between ++ number).head?, c ≠ '=' := by
      cases between with
      | nil => exact fun c hc => hnumber.ne_equals (hmem hc)
      | cons blank between =>
        rintro _ ⟨⟩ rfl
        exact absurd (hbetween '=' List.mem_cons_self) (by decide)
    have htrim : trim (before ++ (relation.symbol ++ (between ++ number)) ++ after) =
        relation.symbol ++ (between ++ number) := by
      refine trim_append hbefore hafter ?_ ?_
      · intro c hc
        cases relation <;> cases hc <;> decide
      · intro c hc
        rw [← List.append_assoc, List.getLast?_append_of_ne_nil _ hnumber.ne_nil] at hc
        exact hnumber.not_isBlank (List.mem_of_getLast? hc)
    rw [read?, htrim, relation.read?_symbol_append hequals, Option.bind_eq_bind, Option.bind_some]
    dsimp only
    rw [dropBlanks_append hbetween hblank, hx]
    rfl

/-- Exactly the written forms of comparisons are read. -/
lemma isSome_read?_iff : (read? cs).isSome = true ↔ Written cs := by
  constructor
  · intro h
    obtain ⟨comparison, hread⟩ := Option.isSome_iff_exists.mp h
    exact written_of_read? hread
  · intro h
    obtain ⟨relation, number, hnumber, hcs⟩ := written_iff.mp h
    obtain ⟨x, hx⟩ := Option.isSome_iff_exists.mp (Decimal.isSome_read?_iff.mpr hnumber)
    rw [hcs.read?_eq hnumber hx]
    rfl

end Comparison

end Tabular
