import Tabular.Proofs.Calendar.Instant
import Tabular.Proofs.Outcome

/-!
# Where reading a date fails

A text that is no date is no error. Reading fails for two causes only: the format names a field twice, or it
has an offset and the text shows, at its offset, an instant outside the calendar. As an offset is less than a
day, such a text shows the first or the last day of the calendar.

* `Aborts`: the two causes.
* `ofFormat_eq_error_iff`: reading fails for them and for nothing else.
* `Aborts.exists_day`: the day that a text shows if it makes reading fail.
-/

namespace Tabular.Calendar

variable {iso : IsoRule} {p : Pattern} {cs rest : List Char} {captures : List Capture} {f f' : Fields} {t : DateTime}
  {o : Option Offset}

/-- Each directive has a letter of its own. -/
lemma Directive.letter_injective : Function.Injective Directive.letter := by
  intro d d' h
  have hd := ofLetter?_letter d
  rw [h, ofLetter?_letter d'] at hd
  exact (Option.some.inj hd).symm

namespace Pattern

/-- The fields that a pattern names, in order. -/
def fields (p : Pattern) : List Directive :=
  p.filterMap fun
    | .field d => some d
    | _ => none

/-- An empty pattern names no field. -/
@[simp] lemma fields_nil : fields [] = [] :=
  rfl

/-- A pattern that begins with a field names it first. -/
@[simp] lemma fields_field (d : Directive) (p : Pattern) : fields (.field d :: p) = d :: p.fields :=
  rfl

/-- Behind the letter of one field, only other fields can have a letter that was not seen. -/
lemma lookup_letter_eq_none_iff {seen : List (Char × Nat)} {n : Nat} {d d' : Directive} :
    ((d.letter, n) :: seen).lookup d'.letter = none ↔ d' ≠ d ∧ seen.lookup d'.letter = none := by
  rw [List.lookup_cons]
  split
  · rename_i h
    exact ⟨nofun, fun h' => absurd (Directive.letter_injective (beq_iff_eq.mp h)) h'.1⟩
  · rename_i h
    have hne : d' ≠ d := by
      rintro rfl
      exact absurd h (by rw [beq_self_eq_true]; exact nofun)
    exact (and_iff_right hne).symm

/-- No field is found to be repeated if all are different, and none is among those seen before. -/
lemma findRepeated_eq_none_iff {seen : List (Char × Nat)} {groups length : Nat} :
    findRepeated seen groups length p = none ↔
      p.fields.Nodup ∧ ∀ d ∈ p.fields, seen.lookup d.letter = none := by
  -- A field that is passed joins the letters seen, so the fields behind it have to differ from it.
  induction p generalizing seen groups length with
  | nil => simp [findRepeated]
  | cons item p ih =>
    cases item with
    | blanks => exact ih
    | literal c => exact ih
    | field d =>
      rw [findRepeated, fields_field, List.nodup_cons, List.forall_mem_cons]
      cases hseen : seen.lookup d.letter with
      | some first => exact ⟨nofun, fun h => nomatch h.2.1⟩
      | none =>
        show findRepeated _ _ _ p = none ↔ _
        rw [ih]
        simp only [lookup_letter_eq_none_iff, forall_and, true_and]
        constructor
        · rintro ⟨hp, hne, hlookup⟩
          exact ⟨⟨fun hmem => hne d hmem rfl, hp⟩, hlookup⟩
        · rintro ⟨⟨hd, hp⟩, hlookup⟩
          exact ⟨hp, fun d' hmem e => hd (e ▸ hmem), hlookup⟩

/-- A pattern is refused exactly if it names some field twice. -/
lemma repeated?_eq_none_iff : p.repeated? = none ↔ p.fields.Nodup := by
  rw [repeated?, findRepeated_eq_none_iff]
  exact and_iff_left fun _ _ => rfl

/-- The captures of a match are those of the fields of the pattern, in order. -/
lemma map_fst_matchStart? (h : matchStart? p cs = some (captures, rest)) : captures.map Prod.fst = p.fields := by
  induction p generalizing cs captures rest with
  | nil =>
    cases h
    rfl
  | cons item p ih =>
    obtain ⟨⟨taken, later⟩, -, hsplit⟩ := List.exists_of_findSome?_eq_some h
    obtain ⟨⟨captures', rest'⟩, hmatch, e⟩ := Option.map_eq_some_iff.mp hsplit
    have hfields := ih hmatch
    cases item with
    | field d =>
      cases e
      exact congrArg (d :: ·) hfields
    | blanks | literal c =>
      cases e
      exact hfields

/-- What is captured are the fields of the pattern, in their order. -/
lemma map_fst_match? (h : p.match? cs = some captures) : captures.map Prod.fst = p.fields := by
  rw [match?] at h
  split at h
  · rename_i hmatch
    cases h
    exact map_fst_matchStart? hmatch
  · cases h

end Pattern

namespace Fields

/-- Only the capture of an offset tells the offset. -/
lemma offset_of_add? {c : Capture} (h : add? captures f c = some f') (hc : c.1 ≠ .offset) : f'.offset = f.offset := by
  obtain ⟨d, cs⟩ := c
  cases d with
  | offset => exact absurd rfl hc
  | weekdayName | weekdayShort | monthName | monthShort =>
    obtain ⟨n, -, h⟩ := Option.bind_eq_some_iff.mp h
    cases h
    rfl
  | _ =>
    cases h
    rfl

/-- Captures without one of an offset leave the offset as it is. -/
lemma offset_of_foldlM {all : List Capture} (h : captures.foldlM (add? all) f = some f')
    (hc : .offset ∉ captures.map Prod.fst) : f'.offset = f.offset := by
  induction captures generalizing f with
  | nil =>
    cases h
    rfl
  | cons c captures ih =>
    obtain ⟨g, hg, h⟩ := Option.bind_eq_some_iff.mp h
    rw [List.map_cons, List.mem_cons, not_or] at hc
    calc f'.offset = g.offset := ih h hc.2
      _ = f.offset := offset_of_add? hg (Ne.symm hc.1)

/-- Without a capture of an offset there is no offset. -/
lemma offset_of_ofCaptures? (h : ofCaptures? captures = some f) (hc : .offset ∉ captures.map Prod.fst) :
    f.offset = none :=
  offset_of_foldlM h hc

/-- Without an offset among the fields, the date and time has none. -/
lemma offset_of_resolve? (h : f.resolve? iso = some (t, o)) (hf : f.offset = none) : o = none := by
  have resolved : ∀ date, (do
      let time ← DateTime.ofDate? date f.hour f.minute f.second f.microsecond
      return (time, none)) = some (t, o) → o = none := by
    intro date h
    obtain ⟨time, -, h⟩ := Option.bind_eq_some_iff.mp h
    cases h
    rfl
  simp only [resolve?, hf] at h
  obtain ⟨-, -, h⟩ := Option.bind_eq_some_iff.mp h
  obtain ⟨date, -, h⟩ := Option.bind_eq_some_iff.mp h
  split at h
  · obtain ⟨date', -, h⟩ := Option.bind_eq_some_iff.mp h
    exact resolved _ h
  · exact resolved _ h

end Fields

namespace DateTime

variable {format text : List Char} {e e' : DateError}

/-- A pattern without an offset gives none. -/
lemma offset_of_ofPattern? (h : ofPattern? iso p text = some (t, o)) (hp : .offset ∉ p.fields) : o = none := by
  obtain ⟨captures, hmatch, h⟩ := Option.bind_eq_some_iff.mp h
  obtain ⟨f, hf, h⟩ := Option.bind_eq_some_iff.mp h
  rw [← Pattern.map_fst_match? hmatch] at hp
  exact Fields.offset_of_resolve? h (Fields.offset_of_ofCaptures? hf hp)

/-- A clock shows an instant outside the calendar only on its first or last day. -/
lemma ordinal_of_universal_eq_error (h : t.universal o = .error e) :
    t.date.ordinal = 1 ∨ t.date.ordinal = Date.lastOrdinal := by
  cases o with
  | none => cases h
  | some offset =>
    have hout := (universal_eq_error_iff.mp h).2
    have hoffset := offset.less_than_day
    have htime := t.within_day
    have hfirst := t.date.lt_ordinal
    have hlast := t.date.ordinal_le_last
    rw [instantAt, instant, firstInstant, endInstant, Option.elim_some] at hout
    simp only [show dayLength = 86400000000 from rfl] at *
    omega

/-- The causes for which a text cannot be read under a format. -/
inductive Aborts (iso : IsoRule) (format text : List Char) : DateError → Prop where
  /-- The format names a field twice. -/
  | repeated {p : Pattern} {field : RepeatedField} (hp : Pattern.ofChars? format = some p)
    (hfield : p.repeated? = some field) : Aborts iso format text (.repeated field)
  /-- The text shows, at an offset, an instant outside the calendar. -/
  | outOfRange {p : Pattern} {t : DateTime} {offset : Offset} (hp : Pattern.ofChars? format = some p)
    (hfields : p.fields.Nodup) (ht : ofPattern? iso p text = some (t, some offset))
    (hout : ¬ (firstInstant ≤ t.instantAt (some offset) ∧ t.instantAt (some offset) < endInstant)) :
    Aborts iso format text .outOfRange

/-- Reading a text fails for these causes only. -/
lemma ofFormat_eq_error_iff : ofFormat iso format text = .error e ↔ Aborts iso format text e := by
  constructor
  · intro h
    rw [ofFormat] at h
    split at h
    · cases h
    · rename_i p hp
      split at h
      · rename_i field hfield
        cases h
        exact .repeated hp hfield
      · rename_i hnone
        split at h
        · cases h
        · rename_i t o ht
          cases o with
          | none => cases h
          | some offset =>
            obtain ⟨rfl, hout⟩ := universal_eq_error_iff.mp (map_eq_error_iff.mp h)
            exact .outOfRange hp (Pattern.repeated?_eq_none_iff.mp hnone) ht hout
  · rintro (⟨hp, hfield⟩ | ⟨hp, hfields, ht, hout⟩)
    · rw [ofFormat, hp]
      simp only [hfield]
    · rw [ofFormat, hp]
      simp only [Pattern.repeated?_eq_none_iff.mpr hfields, ht, universal_eq_error_iff.mpr ⟨rfl, hout⟩]
      rfl

namespace Aborts

/-- The format alone tells the cause. -/
lemma exists_pattern (h : Aborts iso format text e) :
    ∃ p, Pattern.ofChars? format = some p ∧ e = p.repeated?.elim .outOfRange .repeated := by
  cases h with
  | @repeated p _ hp hfield =>
    refine ⟨p, hp, ?_⟩
    rw [hfield]
    rfl
  | @outOfRange p _ _ hp hfields =>
    refine ⟨p, hp, ?_⟩
    rw [Pattern.repeated?_eq_none_iff.mpr hfields]
    rfl

/-- A format aborts the reading of whatever text for one cause only. -/
lemma unique {text' : List Char} (h : Aborts iso format text e) (h' : Aborts iso format text' e') : e = e' := by
  obtain ⟨p, hp, rfl⟩ := h.exists_pattern
  obtain ⟨p', hp', rfl⟩ := h'.exists_pattern
  cases hp.symm.trans hp'
  rfl

/-- Under a format that names no field twice, only dates with an offset fail, on the first or last day. -/
lemma exists_day (h : Aborts iso format text e) (hp : Pattern.ofChars? format = some p) (hfields : p.fields.Nodup) :
    ∃ t offset, ofPattern? iso p text = some (t, some offset) ∧
      (t.date.ordinal = 1 ∨ t.date.ordinal = Date.lastOrdinal) := by
  cases h with
  | repeated hp' hfield =>
    cases hp.symm.trans hp'
    cases hfield.symm.trans (Pattern.repeated?_eq_none_iff.mpr hfields)
  | @outOfRange _ t offset hp' _ ht hout =>
    cases hp.symm.trans hp'
    exact ⟨t, offset, ht, ordinal_of_universal_eq_error (universal_eq_error_iff.mpr ⟨rfl, hout⟩)⟩

end Aborts

end DateTime

end Tabular.Calendar
