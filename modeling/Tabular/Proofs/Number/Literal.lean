import Tabular.Proofs.Number.Rounding
import Tabular.Proofs.Rule.Comparison
import Tabular.Proofs.Text.Digit

/-!
# What the written forms of numbers denote

A number in writing denotes a rational number: the digits before the point count in units, those behind it in
parts of a power of ten, the exponent moves the point and the sign stands for a factor. Every written form of a
number is read, and as the number that it denotes.

* `Denotes`: a text denotes a number.
* `written_iff`: the written forms are the texts that denote one.
* `exists_read?_of_denotes`: they are read as it.
-/

namespace Tabular.Decimal

open Text

/-- A sign, or none, and its factor. -/
inductive SignDenotes : List Char → Int → Prop where
  | none : SignDenotes [] 1
  | plus : SignDenotes ['+'] 1
  | minus : SignDenotes ['-'] (-1)

/-- Digits with at most one point, and the number that they denote. -/
inductive SignificandDenotes : List Char → ℚ → Prop where
  | whole {digits} : digits ≠ [] → AreDigits digits → SignificandDenotes digits (digitsValue digits)
  | fraction {whole fraction} : whole ≠ [] → AreDigits whole → AreDigits fraction →
    SignificandDenotes (whole ++ '.' :: fraction)
      (digitsValue whole + digitsValue fraction / 10 ^ fraction.length)
  | point {fraction} : fraction ≠ [] → AreDigits fraction →
    SignificandDenotes ('.' :: fraction) (digitsValue fraction / 10 ^ fraction.length)

/-- An exponent, or none, and its number. -/
inductive ExponentDenotes : List Char → Int → Prop where
  | none : ExponentDenotes [] 0
  | some {letter sign factor digits} : letter = 'e' ∨ letter = 'E' → SignDenotes sign factor → digits ≠ [] →
    AreDigits digits → ExponentDenotes (letter :: (sign ++ digits)) (factor * digitsValue digits)

/-- The written form of a number, and the number. -/
inductive Denotes : List Char → ℚ → Prop where
  | intro {sign factor significand q exponent e} : SignDenotes sign factor → SignificandDenotes significand q →
    ExponentDenotes exponent e → Denotes (sign ++ (significand ++ exponent)) (factor * (q * 10 ^ e))

variable {cs digits rest sign significand exponent : List Char} {factor e : Int} {q : ℚ}

/-- Exactly the signs denote a factor. -/
lemma isSign_iff : IsSign sign ↔ ∃ factor, SignDenotes sign factor := by
  constructor
  · rintro (- | - | -)
    · exact ⟨_, .none⟩
    · exact ⟨_, .plus⟩
    · exact ⟨_, .minus⟩
  · rintro ⟨_, - | - | -⟩
    · exact .none
    · exact .plus
    · exact .minus

/-- Exactly the significands denote a number. -/
lemma isSignificand_iff : IsSignificand significand ↔ ∃ q, SignificandDenotes significand q := by
  constructor
  · intro h
    cases h with
    | whole hne hdigits => exact ⟨_, .whole hne hdigits⟩
    | fraction hne hwhole hfraction => exact ⟨_, .fraction hne hwhole hfraction⟩
    | point hne hfraction => exact ⟨_, .point hne hfraction⟩
  · rintro ⟨_, h⟩
    cases h with
    | whole hne hdigits => exact .whole hne hdigits
    | fraction hne hwhole hfraction => exact .fraction hne hwhole hfraction
    | point hne hfraction => exact .point hne hfraction

/-- Exactly the exponents denote a whole number. -/
lemma isExponent_iff : IsExponent exponent ↔ ∃ e, ExponentDenotes exponent e := by
  constructor
  · intro h
    cases h with
    | none => exact ⟨_, .none⟩
    | some hletter hsign hne hdigits =>
      obtain ⟨factor, hsign⟩ := isSign_iff.mp hsign
      exact ⟨_, .some hletter hsign hne hdigits⟩
  · rintro ⟨_, h⟩
    cases h with
    | none => exact .none
    | some hletter hsign hne hdigits => exact .some hletter (isSign_iff.mpr ⟨_, hsign⟩) hne hdigits

/-- The written forms of numbers are the texts that denote one. -/
lemma written_iff : Written cs ↔ ∃ q, Denotes cs q := by
  constructor
  · rintro ⟨hsign, hsignificand, hexponent⟩
    obtain ⟨factor, hsign⟩ := isSign_iff.mp hsign
    obtain ⟨q, hsignificand⟩ := isSignificand_iff.mp hsignificand
    obtain ⟨e, hexponent⟩ := isExponent_iff.mp hexponent
    exact ⟨_, .intro hsign hsignificand hexponent⟩
  · rintro ⟨_, hsign, hsignificand, hexponent⟩
    exact .intro (isSign_iff.mpr ⟨_, hsign⟩) (isSignificand_iff.mpr ⟨_, hsignificand⟩)
      (isExponent_iff.mpr ⟨_, hexponent⟩)

/-- Digits are read up to the first character that is none. -/
lemma readDigits_eq (hdigits : AreDigits digits) (hrest : ∀ c ∈ rest.head?, isDigit c = false) :
    readDigits (digits ++ rest) = (digits, rest) := by
  rw [readDigits, List.takeWhile_append_of_pos hdigits, List.dropWhile_append_of_pos hdigits]
  cases rest with
  | nil => simp
  | cons c rest =>
    have hc : ¬ isDigit c = true := by simp [hrest c rfl]
    rw [List.takeWhile_cons_of_neg hc, List.dropWhile_cons_of_neg hc, List.append_nil]

/-- A digit differs from what is no digit. -/
lemma ne_of_isDigit {c d : Char} (hc : isDigit c = true) (hd : isDigit d = false) : c ≠ d := by
  rintro rfl
  rw [hc] at hd
  cases hd

/-- A sign is read off whatever does not begin with one. -/
lemma SignDenotes.readSign_append (h : SignDenotes sign factor) (hcs : ∀ c ∈ cs.head?, c ≠ '-' ∧ c ≠ '+') :
    ∃ negative, readSign (sign ++ cs) = (negative, cs) ∧ factor = if negative then -1 else 1 := by
  cases h with
  | none =>
    refine ⟨false, ?_, rfl⟩
    rw [List.nil_append, readSign]
    · rintro cs rfl
      exact (hcs _ rfl).1 rfl
    · rintro cs rfl
      exact (hcs _ rfl).2 rfl
  | plus => exact ⟨false, rfl, rfl⟩
  | minus => exact ⟨true, rfl, rfl⟩

/-- Digits come first if there are any. -/
lemma head?_append_of_areDigits (hne : digits ≠ []) (hdigits : AreDigits digits) (rest : List Char) :
    ∀ c ∈ (digits ++ rest).head?, isDigit c = true := by
  obtain ⟨d, digits, rfl⟩ := List.exists_cons_of_ne_nil hne
  rintro _ ⟨⟩
  exact hdigits d List.mem_cons_self

/-- An exponent begins neither with a digit nor with a point. -/
lemma ExponentDenotes.head?_eq (h : ExponentDenotes cs e) : ∀ c ∈ cs.head?, isDigit c = false ∧ c ≠ '.' := by
  cases h with
  | none => exact nofun
  | some hletter =>
    rintro _ ⟨⟩
    rcases hletter with rfl | rfl <;> decide

/-- An exponent is read as the number that it denotes. -/
lemma ExponentDenotes.readExponent?_eq (h : ExponentDenotes cs e) : readExponent? cs = Option.some e := by
  cases h with
  | none => rfl
  | @some letter sign factor digits hletter hsign hne hdigits =>
    have hhead : ∀ c ∈ digits.head?, c ≠ '-' ∧ c ≠ '+' := by
      intro c hc
      have hdigit := head?_append_of_areDigits hne hdigits [] c (by rwa [List.append_nil])
      exact ⟨ne_of_isDigit hdigit (by decide), ne_of_isDigit hdigit (by decide)⟩
    obtain ⟨negative, hread, rfl⟩ := hsign.readSign_append hhead
    have hend : ∀ c ∈ ([] : List Char).head?, isDigit c = false := nofun
    have hall := readDigits_eq hdigits hend
    rw [List.append_nil] at hall
    rw [readExponent?, if_pos hletter, hread]
    dsimp only
    rw [hall]
    dsimp only
    rw [if_pos ⟨hne, rfl⟩]
    cases negative <;> simp

/-- A significand is read as the digits before and behind the point. -/
lemma SignificandDenotes.read (h : SignificandDenotes significand q)
    (hrest : ∀ c ∈ rest.head?, isDigit c = false ∧ c ≠ '.') :
    ∃ whole fraction tail, readDigits (significand ++ rest) = (whole, tail) ∧
      readFraction tail = (fraction, rest) ∧ ¬ (whole = [] ∧ fraction = []) ∧
      q = digitsValue (whole ++ fraction) / 10 ^ fraction.length := by
  have hdigits : ∀ c ∈ rest.head?, isDigit c = false := fun c hc => (hrest c hc).1
  have hpoint : ∀ c ∈ ('.' :: rest).head?, isDigit c = false := by
    rintro _ ⟨⟩
    decide
  cases h with
  | whole hne hwhole =>
    refine ⟨significand, [], rest, readDigits_eq hwhole hdigits, ?_, fun h => hne h.1, by simp⟩
    rw [readFraction]
    rintro cs rfl
    exact (hrest _ rfl).2 rfl
  | @fraction whole fraction hne hwhole hfraction =>
    refine ⟨whole, fraction, '.' :: (fraction ++ rest), ?_, readDigits_eq hfraction hdigits, fun h => hne h.1, ?_⟩
    · rw [List.append_assoc]
      exact readDigits_eq hwhole hpoint
    · rw [digitsValue_append]
      push_cast
      rw [add_div, mul_div_cancel_right₀ _ (by positivity)]
  | @point fraction hne hfraction =>
    have hnone : AreDigits [] := nofun
    exact ⟨[], fraction, '.' :: (fraction ++ rest), readDigits_eq hnone hpoint,
      readDigits_eq hfraction hdigits, fun h => hne h.2, rfl⟩

/-- A significand does not begin with a sign. -/
lemma SignificandDenotes.head?_append (h : SignificandDenotes significand q) (rest : List Char) :
    ∀ c ∈ (significand ++ rest).head?, c ≠ '-' ∧ c ≠ '+' := by
  have digit {c : Char} (hc : isDigit c = true) : c ≠ '-' ∧ c ≠ '+' :=
    ⟨ne_of_isDigit hc (by decide), ne_of_isDigit hc (by decide)⟩
  cases h with
  | whole hne hdigits => exact fun c hc => digit (head?_append_of_areDigits hne hdigits rest c hc)
  | fraction hne hwhole =>
    rw [List.append_assoc]
    exact fun c hc => digit (head?_append_of_areDigits hne hwhole _ c hc)
  | point =>
    rintro _ ⟨⟩
    decide

/-- Written forms are read as the numbers that they denote. -/
lemma exists_read?_of_denotes (h : Denotes cs q) : ∃ x, read? cs = some x ∧ x.value = q := by
  cases h with
  | @intro sign factor significand q exponent e hsign hsignificand hexponent =>
    obtain ⟨negative, hnegative, rfl⟩ := hsign.readSign_append (hsignificand.head?_append exponent)
    obtain ⟨whole, fraction, tail, hwhole, hfraction, hne, rfl⟩ := hsignificand.read hexponent.head?_eq
    refine ⟨⟨negative, digitsValue (whole ++ fraction), e - fraction.length⟩, ?_, ?_⟩
    · rw [read?, hnegative]
      dsimp only
      rw [hwhole]
      dsimp only
      rw [hfraction]
      dsimp only
      rw [if_neg hne, hexponent.readExponent?_eq]
      rfl
    · have hpow : (10 : ℚ) ^ (e - fraction.length) = 10 ^ e / 10 ^ fraction.length := by
        rw [zpow_sub₀ (by norm_num), zpow_natCast]
      rw [value, hpow]
      push_cast
      ring

/-- Exactly the written forms of numbers are read. -/
lemma isSome_read?_iff : (read? cs).isSome = true ↔ Written cs := by
  constructor
  · intro h
    obtain ⟨x, hx⟩ := Option.isSome_iff_exists.mp h
    exact written_of_read? hx
  · intro h
    obtain ⟨q, hq⟩ := written_iff.mp h
    obtain ⟨x, hx, -⟩ := exists_read?_of_denotes hq
    rw [hx]
    rfl

end Tabular.Decimal
