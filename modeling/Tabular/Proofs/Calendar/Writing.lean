import Mathlib.Data.List.Forall2
import Tabular.Number.Decimal
import Tabular.Proofs.Calendar.Instant
import Tabular.Proofs.Number.Numeral

/-!
# Dates and times in writing

A date and time is written as seven numbers, each in ASCII digits and with a mark behind it. The numbers are
read back from the text, and texts whose numbers have equally many digits are ordered like their numbers.

* `WrittenField`: a number with its mark.
* `readFields?_writeAll`: the numbers are read back.
* `writeAll_lt_iff`: texts of one layout are ordered like their numbers.
* `numbers_eq_iff`, `numbers_lt_iff`: the numbers of a date and time tell its millisecond.
-/

namespace Tabular.Calendar

open Text

/-- A number in ASCII digits and the mark behind it. -/
structure WrittenField where
  digits : List Char
  mark : Char
  areDigits : ∀ c ∈ digits, c.isDigit = true
  ne_nil : digits ≠ []
  not_isDigit : isDigit mark = false

namespace WrittenField

/-- The number that is written. -/
def value (f : WrittenField) : Nat :=
  Nat.ofDigitChars 10 f.digits 0

/-- Fields one behind the other. -/
def writeAll (fields : List WrittenField) : List Char :=
  fields.flatMap fun f => f.digits ++ [f.mark]

/-- Fields are written one after the other, each with its mark behind it. -/
lemma writeAll_cons (f : WrittenField) (fields : List WrittenField) :
    writeAll (f :: fields) = f.digits ++ f.mark :: writeAll fields := by
  simp [writeAll]

/-- The count of digits and the mark. -/
def layout (f : WrittenField) : Nat × Char :=
  (f.digits.length, f.mark)

end WrittenField

open WrittenField

/-- Reads digits up to a mark, as a number. -/
def readField? (mark : Char) (cs : List Char) : Option (Nat × List Char) :=
  match Decimal.readDigits cs with
  | (digits, c :: rest) => if digits ≠ [] ∧ c = mark then some (digitsValue digits, rest) else none
  | (_, []) => none

/-- Reads numbers with the given marks behind them, up to the end of the text. -/
def readFields? : List Char → List Char → Option (List Nat)
  | [], cs => if cs = [] then some [] else none
  | mark :: marks, cs => do
    let (n, cs) ← readField? mark cs
    return n :: (← readFields? marks cs)

variable {cs : List Char}

/-- A written field is read back up to its mark. -/
lemma readField?_write (f : WrittenField) (cs : List Char) :
    readField? f.mark (f.digits ++ f.mark :: cs) = some (f.value, cs) := by
  have hdigits : ∀ c ∈ f.digits, isDigit c = true := fun c hc => isDigit_of_ascii (f.areDigits c hc)
  have hread : Decimal.readDigits (f.digits ++ f.mark :: cs) = (f.digits, f.mark :: cs) := by
    rw [Decimal.readDigits, List.takeWhile_append_of_pos hdigits, List.dropWhile_append_of_pos hdigits,
      List.takeWhile_cons_of_neg (by simp [f.not_isDigit]), List.dropWhile_cons_of_neg (by simp [f.not_isDigit]),
      List.append_nil]
  rw [readField?, hread]
  dsimp only
  rw [if_pos ⟨f.ne_nil, rfl⟩, digitsValue_eq_ofDigitChars f.areDigits, value]

/-- What is written is read back. -/
lemma readFields?_writeAll (fields : List WrittenField) :
    readFields? (fields.map mark) (writeAll fields) = some (fields.map value) := by
  induction fields with
  | nil => rfl
  | cons f fields ih =>
    rw [List.map_cons, readFields?, writeAll_cons, readField?_write, Option.bind_eq_bind, Option.bind_some]
    dsimp only
    rw [ih]
    rfl

/-- Runs of equally many digits are ordered by their numbers, and then by what stands behind them. -/
lemma append_lt_append_iff {ds es : List Char} (hlength : ds.length = es.length)
    (hds : ∀ c ∈ ds, c.isDigit = true) (hes : ∀ c ∈ es, c.isDigit = true) (rest rest' : List Char) (m n : Nat) :
    m < n ∨ m = n ∧ ds ++ rest < es ++ rest' ↔
      Nat.ofDigitChars 10 ds m < Nat.ofDigitChars 10 es n ∨
        Nat.ofDigitChars 10 ds m = Nat.ofDigitChars 10 es n ∧ rest < rest' := by
  induction ds generalizing es m n with
  | nil =>
    cases es with
    | nil => simp
    | cons e es => cases hlength
  | cons d ds ih =>
    cases es with
    | nil => cases hlength
    | cons e es =>
      obtain ⟨hd, hds⟩ := List.forall_mem_cons.mp hds
      obtain ⟨he, hes⟩ := List.forall_mem_cons.mp hes
      rw [Nat.ofDigitChars_cons, Nat.ofDigitChars_cons, ← ih (Nat.succ.inj hlength) hds hes, List.cons_append,
        List.cons_append, List.cons_lt_cons_iff, lt_iff_of_isDigit hd, eq_iff_of_isDigit hd he]
      have hlt := sub_lt_of_isDigit hd
      have hlt' := sub_lt_of_isDigit he
      by_cases hrest : ds ++ rest < es ++ rest'
      · simp only [hrest, and_true]
        omega
      · simp only [hrest, and_false, or_false]
        omega

/-- Fields of the same layout are ordered by their numbers. -/
lemma writeAll_lt_iff {fields fields' : List WrittenField} (h : fields.map layout = fields'.map layout) :
    writeAll fields < writeAll fields' ↔ fields.map value < fields'.map value := by
  induction fields generalizing fields' with
  | nil =>
    cases fields' with
    | nil => simp [writeAll]
    | cons g fields' => cases h
  | cons f fields ih =>
    cases fields' with
    | nil => cases h
    | cons g fields' =>
      rw [List.map_cons, List.map_cons, List.cons.injEq, layout, layout, Prod.mk.injEq] at h
      obtain ⟨⟨hlength, hmark⟩, hlayout⟩ := h
      have hmarks : f.mark :: writeAll fields < g.mark :: writeAll fields' ↔ writeAll fields < writeAll fields' := by
        rw [hmark, List.cons_lt_cons_iff]
        simp
      have hfields := append_lt_append_iff hlength f.areDigits g.areDigits (f.mark :: writeAll fields)
        (g.mark :: writeAll fields') 0 0
      simp only [Nat.lt_irrefl, false_or, true_and, hmarks, ih hlayout] at hfields
      rw [writeAll_cons, writeAll_cons, List.map_cons, List.map_cons, List.cons_lt_cons_iff]
      exact hfields

/-- A text of the form of a template, in which the letter d stands for digits. -/
def Follows (template cs : List Char) : Prop :=
  List.Forall₂ (fun p c => if p = 'd' then c.isDigit = true else c = p) template cs

/-- Digits follow a shape of as many places for digits. -/
lemma follows_digits {ds : List Char} (h : ∀ c ∈ ds, c.isDigit = true) :
    Follows (List.replicate ds.length 'd') ds := by
  induction ds with
  | nil => exact .nil
  | cons d ds ih =>
    obtain ⟨hd, hds⟩ := List.forall_mem_cons.mp h
    exact .cons hd (ih hds)

/-- Fields follow the template of their layout. -/
lemma follows_writeAll {fields : List WrittenField} (h : ∀ f ∈ fields, f.mark ≠ 'd') :
    Follows ((fields.map layout).flatMap fun (width, mark) => List.replicate width 'd' ++ [mark]) (writeAll fields) := by
  induction fields with
  | nil => exact .nil
  | cons f fields ih =>
    obtain ⟨hf, hfields⟩ := List.forall_mem_cons.mp h
    have hmark : Follows [f.mark] [f.mark] := .cons (by rw [if_neg hf]) .nil
    exact List.rel_append (List.rel_append (follows_digits f.areDigits) hmark) (ih hfields)

namespace DateTime

variable {t u : DateTime} {width n : Nat}

/-- A padded number is written with digits only. -/
lemma isDigit_of_mem_padded {c : Char} (hc : c ∈ padded width n) : c.isDigit = true := by
  rcases List.mem_append.mp hc with hc | hc
  · rw [List.eq_of_mem_replicate hc]
    rfl
  · exact Integer.isDigit_of_mem_naturalChars hc

/-- Zeros in front do not change the number. -/
lemma ofDigitChars_padded (width n : Nat) : Nat.ofDigitChars 10 (padded width n) 0 = n := by
  rw [padded, Nat.ofDigitChars_append, Nat.ofDigitChars_replicate_zero, Nat.mul_zero]
  exact Nat.ofDigitChars_ten_toDigits

/-- A padded number takes up the width or, if it is longer, as many digits as it has. -/
lemma length_padded (width n : Nat) : (padded width n).length = max width (Integer.naturalChars n).length := by
  rw [padded, List.length_append, List.length_replicate]
  omega

/-- A padded number has a digit. -/
lemma padded_ne_nil : padded width n ≠ [] :=
  List.append_ne_nil_of_right_ne_nil _ Nat.toDigits_ne_nil

/-- The field of a number in a least width. -/
def field (width n : Nat) (mark : Char) (h : isDigit mark = false := by decide) : WrittenField where
  digits := padded width n
  mark := mark
  areDigits _ := isDigit_of_mem_padded
  ne_nil := padded_ne_nil
  not_isDigit := h

/-- Year, month, day, hour, minute, second and millisecond. -/
def numbers (t : DateTime) : List Nat :=
  [t.date.year, t.date.month, t.date.day, t.sinceMidnight / second / 3600, t.sinceMidnight / second / 60 % 60,
    t.sinceMidnight / second % 60, t.sinceMidnight % second / 1000]

/-- The fields of which the written form is made. -/
def fields (t : DateTime) : List WrittenField :=
  [field 0 t.date.year '-', field 2 t.date.month '-', field 2 t.date.day 'T',
    field 2 (t.sinceMidnight / second / 3600) ':', field 2 (t.sinceMidnight / second / 60 % 60) ':',
    field 2 (t.sinceMidnight / second % 60) '.', field 3 (t.sinceMidnight % second / 1000) 'Z']

/-- The text of a date and time is that of its seven fields. -/
lemma toChars_eq_writeAll (t : DateTime) : t.toChars = writeAll t.fields := by
  simp [toChars, fields, writeAll, field, padded]

/-- The fields hold the seven numbers. -/
lemma map_value_fields (t : DateTime) : t.fields.map value = t.numbers := by
  simp [fields, numbers, field, value, ofDigitChars_padded]

/-- A number that fits a width takes up exactly this width. -/
lemma length_padded_of_lt (hwidth : 0 < width) (h : n < 10 ^ width) : (padded width n).length = width := by
  rw [length_padded, max_eq_left]
  exact (Nat.length_toDigits_le_iff (by decide) hwidth).mpr h

/-- The fields have a fixed layout but for the year. -/
lemma map_layout_fields (t : DateTime) : t.fields.map layout =
    [((Integer.naturalChars t.date.year).length, '-'), (2, '-'), (2, 'T'), (2, ':'), (2, ':'), (2, '.'), (3, 'Z')] := by
  have hmonth := t.date.isDate.2.1.2
  have hday := t.date.isDate.2.2.2.trans (daysInMonth_le _ _)
  have hwithin := t.within_day
  rw [dayLength, daySeconds, second] at hwithin
  have two {n : Nat} (h : n < 100) : (padded 2 n).length = 2 := length_padded_of_lt Nat.two_pos h
  have three {n : Nat} (h : n < 1000) : (padded 3 n).length = 3 := length_padded_of_lt (Nat.succ_pos 2) h
  simp only [fields, List.map_cons, List.map_nil, layout, field, second]
  rw [length_padded, Nat.zero_max, two (by omega), two (by omega), two (by omega), two (by omega), two (by omega),
    three (by omega)]

/-- The seven numbers are read back from the text. -/
lemma readFields?_toChars (t : DateTime) : readFields? (t.fields.map mark) t.toChars = some t.numbers := by
  rw [toChars_eq_writeAll, ← map_value_fields]
  exact readFields?_writeAll t.fields

/-- The text and the numbers determine each other. -/
lemma toChars_eq_iff : t.toChars = u.toChars ↔ t.numbers = u.numbers := by
  constructor
  · intro h
    have ht : readFields? (u.fields.map mark) u.toChars = some t.numbers := h ▸ readFields?_toChars t
    rw [readFields?_toChars] at ht
    exact (Option.some.inj ht).symm
  · intro h
    simp only [numbers, List.cons.injEq, and_true] at h
    obtain ⟨hyear, hmonth, hday, hhour, hminute, hsecond, hmillisecond⟩ := h
    rw [toChars_eq_writeAll, toChars_eq_writeAll, fields, fields, hyear, hmonth, hday, hhour, hminute, hsecond,
      hmillisecond]

/-- Hours, minutes, seconds and milliseconds are ordered like the milliseconds of the day. -/
lemma timeOfDay_lt_iff (a b : Nat) : a / 1000 < b / 1000 ↔
    a / second / 3600 < b / second / 3600 ∨ a / second / 3600 = b / second / 3600 ∧
      (a / second / 60 % 60 < b / second / 60 % 60 ∨ a / second / 60 % 60 = b / second / 60 % 60 ∧
        (a / second % 60 < b / second % 60 ∨ a / second % 60 = b / second % 60 ∧
          a % second / 1000 < b % second / 1000)) := by
  rw [second]
  omega

/-- Two times of the day are in the same millisecond exactly if their hours, minutes, seconds and milliseconds
agree. -/
lemma timeOfDay_eq_iff (a b : Nat) : a / 1000 = b / 1000 ↔
    a / second / 3600 = b / second / 3600 ∧ a / second / 60 % 60 = b / second / 60 % 60 ∧
      a / second % 60 = b / second % 60 ∧ a % second / 1000 = b % second / 1000 := by
  rw [second]
  omega

/-- The numbers of a date and time are ordered like its milliseconds. -/
lemma numbers_lt_iff : t.numbers < u.numbers ↔ t.instant / 1000 < u.instant / 1000 := by
  rw [instant_ediv_lt_iff, timeOfDay_lt_iff, Date.lt_iff, Date.eq_iff]
  simp only [numbers, List.cons_lt_cons_iff, List.lt_irrefl, and_false, or_false]
  tauto

/-- The seven numbers agree exactly if the instants are in the same millisecond. -/
lemma numbers_eq_iff : t.numbers = u.numbers ↔ t.instant / 1000 = u.instant / 1000 := by
  rw [instant_ediv_eq_iff, timeOfDay_eq_iff, Date.eq_iff]
  simp only [numbers, List.cons.injEq, and_true, and_assoc]

end DateTime

end Tabular.Calendar
