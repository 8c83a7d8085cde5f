import Mathlib.Data.List.Chain
import Mathlib.Data.List.DropRight
import Tabular.Proofs.TableName

/-!
# Tidy names

The words of a label are tidy: characters of names only, with single separators, none of them at an end.
Names are made to leave tidy texts alone, so a name is made from itself. There is one exception, the name
of labels without letters and digits: its separator stands at the end, and is lost.

* `Tidy`: characters that are left alone.
* `ofLabel_ofLabel`: a name is made from itself, with the one exception.
* `WellFormed`, `wellFormed_ofLabel`: the form of names.
-/

namespace Tabular.TableName

/-- Characters of names, with single separators between words only. -/
structure Tidy (cs : List Char) : Prop where
  plain : Plain cs
  single : cs.IsChain fun c d => ¬ (c = separator ∧ d = separator)
  head : cs.head? ≠ some separator
  last : cs.getLast? ≠ some separator

/-- The name made from labels without letters and digits. -/
def bare : String := "t_"

/-- Shortening runs keeps the first character. -/
lemma head?_collapse (cs : List Char) : (collapse cs).head? = cs.head? := by
  induction cs with
  | nil => rfl
  | cons c cs ih =>
    rw [collapse]
    split
    · rename_i h
      rw [ih, h.2, List.head?_cons, h.1]
    · rfl

/-- After shortening no separator follows another. -/
lemma single_collapse (cs : List Char) :
    (collapse cs).IsChain fun c d => ¬ (c = separator ∧ d = separator) := by
  induction cs with
  | nil => exact .nil
  | cons c cs ih =>
    rw [collapse]
    split
    · exact ih
    · rename_i h
      refine List.isChain_cons.mpr ⟨?_, ih⟩
      rintro d hd ⟨rfl, rfl⟩
      rw [head?_collapse] at hd
      exact h ⟨rfl, hd⟩

/-- Where no separator follows another there is nothing to shorten. -/
lemma collapse_of_single {cs : List Char}
    (h : cs.IsChain fun c d => ¬ (c = separator ∧ d = separator)) : collapse cs = cs := by
  induction cs with
  | nil => rfl
  | cons c cs ih =>
    obtain ⟨hc, hcs⟩ := List.isChain_cons.mp h
    have hne : ¬ (c = separator ∧ cs.head? = some separator) := fun ⟨e, hd⟩ => hc separator hd ⟨e, rfl⟩
    rw [collapse, if_neg hne, ih hcs]

/-- Separators are stripped from the front, then from the back. -/
lemma strip_eq (cs : List Char) :
    strip cs = (cs.dropWhile (· == separator)).rdropWhile (· == separator) :=
  rfl

/-- What is left by stripping is a stretch of the text. -/
lemma exists_append_strip (cs : List Char) : ∃ before after, before ++ strip cs ++ after = cs := by
  obtain ⟨before, hbefore⟩ := List.dropWhile_suffix (l := cs) (· == separator)
  obtain ⟨after, hafter⟩ := List.rdropWhile_prefix (· == separator) (cs.dropWhile (· == separator))
  refine ⟨before, after, ?_⟩
  rw [List.append_assoc, strip_eq, hafter, hbefore]

/-- Nothing stripped begins with a separator. -/
lemma head?_strip (cs : List Char) : (strip cs).head? ≠ some separator := by
  intro h
  obtain ⟨rest, e⟩ : strip cs <+: cs.dropWhile (· == separator) := List.rdropWhile_prefix _ _
  have hdrop := List.head?_dropWhile_not (· == separator) cs
  rw [← e, List.head?_append, h] at hdrop
  cases hdrop

/-- Nothing stripped ends with a separator. -/
lemma getLast?_strip (cs : List Char) : (strip cs).getLast? ≠ some separator := by
  intro h
  obtain ⟨hne, e⟩ := List.mem_getLast?_eq_getLast h
  have hlast := List.rdropWhile_last_not (· == separator) (cs.dropWhile (· == separator)) hne
  exact hlast (beq_iff_eq.mpr e.symm)

/-- Without separators at its ends a text is not stripped. -/
lemma strip_of_ends {cs : List Char} (hhead : cs.head? ≠ some separator)
    (hlast : cs.getLast? ≠ some separator) : strip cs = cs := by
  have hdrop : cs.dropWhile (· == separator) = cs := by
    refine List.dropWhile_eq_self_iff.mpr fun hpos e => hhead ?_
    rw [List.head?_eq_getElem?, List.getElem?_eq_getElem hpos, eq_of_beq e]
  rw [strip_eq, hdrop, List.rdropWhile_eq_self_iff]
  intro hne e
  exact hlast (by rw [List.getLast?_eq_some_getLast hne, eq_of_beq e])

/-- The words of a label are tidy. -/
lemma tidy_words (label : List Char) : Tidy (words label) where
  plain := plain_words label
  single := by
    have hsingle := single_collapse (label.map nameChar)
    obtain ⟨before, after, e⟩ := exists_append_strip (collapse (label.map nameChar))
    rw [← e] at hsingle
    exact hsingle.left_of_append.right_of_append
  head := head?_strip _
  last := getLast?_strip _

/-- Tidy characters are their own words. -/
lemma words_of_tidy {cs : List Char} (h : Tidy cs) : words cs = cs := by
  rw [words, map_nameChar h.plain, collapse_of_single h.single, strip_of_ends h.head h.last]

/-- Words stay tidy behind a letter and a separator, if there are any. -/
lemma Tidy.cons {cs : List Char} (h : Tidy cs) (hne : cs ≠ []) : Tidy ('t' :: separator :: cs) where
  plain := List.forall_mem_cons.mpr ⟨rfl, List.forall_mem_cons.mpr ⟨rfl, h.plain⟩⟩
  single := by
    refine List.isChain_cons.mpr ⟨fun _ _ e => absurd e.1 (by decide), List.isChain_cons.mpr ⟨?_, h.single⟩⟩
    rintro d hd ⟨-, rfl⟩
    exact h.head hd
  head := by simp [separator]
  last := by
    obtain ⟨c, cs, rfl⟩ := List.exists_cons_of_ne_nil hne
    rw [List.getLast?_cons_cons, List.getLast?_cons_cons]
    exact h.last

/-- A tidy text that begins with no digit is the name made from it. -/
lemma ofLabel_of_tidy {name : String} (h : Tidy name.toList) (hhead : name.toList.head?.all Char.isDigit = false) :
    ofLabel name = name := by
  simp only [ofLabel, words_of_tidy h, hhead]
  exact String.ofList_toList

/-- No name begins with a digit. -/
lemma head?_ofLabel (label : String) : (ofLabel label).toList.head?.all Char.isDigit = false := by
  simp only [ofLabel]
  split
  · rw [String.toList_ofList]
    rfl
  · rename_i h
    rwa [String.toList_ofList, ← Bool.not_eq_true]

/-- A name is tidy, unless it is that of labels without letters and digits. -/
lemma tidy_ofLabel {label : String} (h : ofLabel label ≠ bare) : Tidy (ofLabel label).toList := by
  have htidy := tidy_words label.toList
  rcases toList_ofLabel label with e | e
  · rwa [e]
  · have hne : words label.toList ≠ [] := by
      intro hnil
      rw [hnil] at e
      exact h (String.toList_inj.mp e)
    rw [e]
    exact htidy.cons hne

/-- A name is the name made from it, unless it is that of labels without letters and digits. -/
lemma ofLabel_ofLabel {label : String} (h : ofLabel label ≠ bare) : ofLabel (ofLabel label) = ofLabel label :=
  ofLabel_of_tidy (tidy_ofLabel h) (head?_ofLabel label)

/-! ## The form of names -/

/-- Small letters of the plain alphabet, digits and single separators, a letter first. -/
structure WellFormed (name : String) : Prop where
  chars : ∀ c ∈ name.toList, c.isLower = true ∨ c.isDigit = true ∨ c = '_'
  head : ∃ c, name.toList.head? = some c ∧ c.isLower = true
  single : ¬ ['_', '_'] <:+: name.toList

/-- What is kept as it is, is a small letter, a digit or an underscore. -/
lemma isLower_or_isDigit_of_nameChar_eq {c : Char} (h : nameChar c = c) :
    c.isLower = true ∨ c.isDigit = true ∨ c = '_' := by
  by_cases halnum : c.isAlphanum = true
  · refine of_isAlphanum (p := fun c => nameChar c = c → c.isLower = true ∨ c.isDigit = true ∨ c = '_') ?_ halnum h
    decide
  · rw [nameChar, if_neg halnum] at h
    exact .inr (.inr h.symm)

/-- Tidy characters have no two underscores in a row. -/
lemma Tidy.not_infix {cs : List Char} (h : Tidy cs) : ¬ ['_', '_'] <:+: cs := by
  intro hinfix
  cases h.single.infix hinfix with
  | cons_cons hne _ => exact hne ⟨rfl, rfl⟩

/-- The name of nothing is well formed. -/
lemma wellFormed_bare : WellFormed bare where
  chars := List.forall_mem_cons.mpr ⟨.inl rfl, List.forall_mem_singleton.mpr (.inr (.inr rfl))⟩
  head := ⟨'t', rfl, rfl⟩
  single := by decide

/-- A tidy text that begins with no digit has the form of names, if it is one at all. -/
lemma wellFormed_of_tidy {name : String} (h : Tidy name.toList) (hne : name.toList ≠ [])
    (hhead : name.toList.head?.all Char.isDigit = false) : WellFormed name where
  chars := fun c hc => isLower_or_isDigit_of_nameChar_eq (h.plain c hc)
  head := by
    obtain ⟨c, cs, e⟩ := List.exists_cons_of_ne_nil hne
    have hdigit : c.isDigit ≠ true := by simpa [e] using hhead
    have hseparator : c ≠ '_' := fun hc => h.head (by rw [e, hc]; rfl)
    refine ⟨c, by rw [e]; rfl, ?_⟩
    rcases isLower_or_isDigit_of_nameChar_eq (h.plain c (by simp [e])) with hc | hc | hc
    · exact hc
    · exact absurd hc hdigit
    · exact absurd hc hseparator
  single := h.not_infix

/-- Names have their form whatever label they are made from. -/
theorem wellFormed_ofLabel (label : String) : WellFormed (ofLabel label) := by
  by_cases h : ofLabel label = bare
  · rw [h]
    exact wellFormed_bare
  · have hhead := head?_ofLabel label
    refine wellFormed_of_tidy (tidy_ofLabel h) ?_ hhead
    intro hnil
    rw [hnil] at hhead
    cases hhead

end Tabular.TableName
