import Mathlib.Tactic.Lemma
import Tabular.TableName

/-!
# What a table name keeps of its label

Names are made of characters that stay as they are when a name is made again from them. On the way from
a label only separators get lost, so a name never has less letters and digits than its label.

* `plain_ofLabel`: the characters of a name.
* `length_letters_le_ofLabel`: letters and digits are kept.
* `ofLabel_append_ne`: a name is changed by more of them.
-/

namespace Tabular.TableName

/-- The characters of a text that are no separators. -/
def letters (cs : List Char) : List Char :=
  cs.filter (· != separator)

/-- All characters of a text stay as they are in a name. -/
def Plain (cs : List Char) : Prop :=
  ∀ c ∈ cs, nameChar c = c

/-- Plain characters are kept as they are. -/
lemma map_nameChar {cs : List Char} (h : Plain cs) : cs.map nameChar = cs :=
  (List.map_congr_left (g := id) h).trans (List.map_id cs)

/-- Plain letters and digits are ASCII. -/
lemma toNat_lt_of_isAlphanum {c : Char} (h : c.isAlphanum = true) : c.toNat < 128 := by
  delta Char.isAlphanum Char.isAlpha Char.isUpper Char.isLower Char.isDigit at h
  simp only [Bool.or_eq_true, Bool.and_eq_true, decide_eq_true_eq, UInt32.le_iff_toNat_le] at h
  have e : c.toNat = c.val.toNat := rfl
  simp at h
  omega

/-- Letters and digits of the plain alphabet are characters below 128, so these are all to be tried. -/
lemma of_isAlphanum {p : Char → Prop} (small : ∀ n < 128, p (Char.ofNat n)) {c : Char} (h : c.isAlphanum = true) :
    p c := by
  have hc := small c.toNat (toNat_lt_of_isAlphanum h)
  rwa [Char.ofNat_toNat] at hc

/-- What has been made plain stays as it is. -/
lemma nameChar_nameChar (c : Char) : nameChar (nameChar c) = nameChar c := by
  by_cases h : c.isAlphanum = true
  · exact of_isAlphanum (p := fun c => nameChar (nameChar c) = nameChar c) (by decide) h
  · simp only [nameChar, if_neg h]
    rfl

/-- Shortening runs of separators keeps all other characters. -/
lemma letters_collapse (cs : List Char) : letters (collapse cs) = letters cs := by
  induction cs with
  | nil => rfl
  | cons c cs ih =>
    rw [collapse]
    split
    · rename_i h
      rw [ih]
      simp [letters, h.1]
    · simp only [letters, List.filter_cons] at ih ⊢
      rw [ih]

/-- Dropping separators in front drops no letter. -/
lemma letters_dropWhile (cs : List Char) :
    letters (cs.dropWhile (· == separator)) = letters cs := by
  induction cs with
  | nil => rfl
  | cons c cs ih =>
    rw [List.dropWhile_cons]
    split
    · rename_i h
      rw [ih]
      simp_all [letters]
    · rfl

/-- Stripping separators strips no letter. -/
lemma letters_strip (cs : List Char) : letters (strip cs) = letters cs := by
  have rev : ∀ ds : List Char, letters ds.reverse = (letters ds).reverse := fun ds =>
    List.filter_reverse
  rw [strip, rev, letters_dropWhile, rev, List.reverse_reverse, letters_dropWhile]

/-- The words of a label keep the letters and digits of its characters. -/
lemma letters_words (label : List Char) : letters (words label) = letters (label.map nameChar) := by
  rw [words, letters_strip, letters_collapse]

/-- Shortening runs brings in no character. -/
lemma mem_of_mem_collapse {c : Char} {cs : List Char} (h : c ∈ collapse cs) : c ∈ cs := by
  induction cs with
  | nil => exact h
  | cons d cs ih =>
    rw [collapse] at h
    split at h
    · exact List.mem_cons_of_mem _ (ih h)
    · rcases List.mem_cons.mp h with rfl | h
      · exact List.mem_cons_self
      · exact List.mem_cons_of_mem _ (ih h)

/-- Stripping brings in no character. -/
lemma mem_of_mem_strip {c : Char} {cs : List Char} (h : c ∈ strip cs) : c ∈ cs := by
  rw [strip, List.mem_reverse] at h
  have h := (List.dropWhile_sublist _).subset h
  rw [List.mem_reverse] at h
  exact (List.dropWhile_sublist _).subset h

/-- The words of a label are plain. -/
lemma plain_words (label : List Char) : Plain (words label) := by
  intro c hc
  obtain ⟨d, -, rfl⟩ := List.mem_map.mp (mem_of_mem_collapse (mem_of_mem_strip hc))
  exact nameChar_nameChar d

/-- A name is the words of its label, maybe behind a letter and a separator. -/
lemma toList_ofLabel (label : String) :
    (ofLabel label).toList = words label.toList ∨
      (ofLabel label).toList = 't' :: separator :: words label.toList := by
  simp only [ofLabel]
  split
  · exact .inr (by simp)
  · exact .inl (by simp)

/-- Names stay as they are when names are made from them, but for their separators. -/
lemma plain_ofLabel (label : String) : Plain (ofLabel label).toList := by
  rcases toList_ofLabel label with h | h
  · rw [h]
    exact plain_words _
  · rw [h]
    have hw := plain_words label.toList
    exact List.forall_mem_cons.mpr ⟨rfl, List.forall_mem_cons.mpr ⟨rfl, hw⟩⟩

/-- A name has at least as many letters and digits as its label. -/
lemma length_letters_le_ofLabel (label : String) :
    (letters (label.toList.map nameChar)).length ≤ (letters (ofLabel label).toList).length := by
  rw [← letters_words]
  rcases toList_ofLabel label with h | h
  · exact Nat.le_of_eq (by rw [h])
  · rw [h]
    have sub := (List.sublist_cons_self separator (words label.toList)).trans
      (List.sublist_cons_self 't' _)
    exact (sub.filter _).length_le

/-- No plain name is made from itself with letters or digits added. -/
lemma ofLabel_append_ne {name suffix : String} (h : Plain name.toList)
    (hs : letters (suffix.toList.map nameChar) ≠ []) : ofLabel (name ++ suffix) ≠ name := by
  intro e
  have hle := length_letters_le_ofLabel (name ++ suffix)
  have hpos := List.length_pos_iff.mpr hs
  -- Were the name made from both, it would have the letters and digits of both, but has only its own.
  rw [e, String.toList_append, List.map_append, map_nameChar h] at hle
  simp only [letters, List.filter_append, List.length_append] at hle hpos
  omega

end Tabular.TableName
