import Mathlib.Tactic.Lemma
import Tabular.Text.Expression

/-!
# What an expression describes

The cuts of a text are listed in an order of preference. Which stretches they are taken behind does not depend on
that order: an expression cuts a text behind exactly those stretches at its beginning that it describes.

* `Describes`: an expression describes a stretch.
* `mem_splits_iff`: it cuts off what it describes.
* `splits_sequence_replicate`, `splits_both_one`: the only cuts of digits in fixed counts.
-/

namespace Tabular.Text

/-- No capital of a small letter is found, and no letter shares a capital, among the code points before the first
capital. -/
lemma lowerCode_eq_iff {c : Char} {n : Nat} (hn : n < 'A'.toNat) : lowerCode c = n ↔ c.toNat = n := by
  have hfirst : ∀ r ∈ capitalRuns, 'A'.toNat ≤ r.first ∧ ('A'.toNat : Int) ≤ r.first + r.shift := by decide +kernel
  rw [lowerCode]
  split
  · rename_i r hr
    obtain ⟨hlow, hshift⟩ := hfirst r (List.mem_of_find?_eq_some hr)
    have hc := List.find?_some hr
    rw [Bool.and_eq_true, Bool.and_eq_true, decide_eq_true_eq] at hc
    have hle : r.first ≤ c.toNat := hc.1.1
    omega
  · rfl

/-- A character before the first capital is the same letter as no other character. -/
lemma sameLetter_iff {c d : Char} (hd : d.toNat < 'A'.toNat) : sameLetter d c = true ↔ c = d := by
  have hshared : ∀ s ∈ sharedCapitals, ∀ n ∈ s, 'A'.toNat ≤ n := by decide +kernel
  have hlower : lowerCode d = d.toNat := (lowerCode_eq_iff hd).mpr rfl
  rw [sameLetter, hlower, Bool.or_eq_true, beq_iff_eq, eq_comm, lowerCode_eq_iff hd, Char.toNat_inj]
  refine or_iff_left fun h => ?_
  obtain ⟨s, hs, hmem⟩ := List.any_eq_true.mp h
  rw [Bool.and_eq_true, List.contains_iff_mem] at hmem
  exact absurd (hshared s hs _ hmem.1) (Nat.not_le.mpr hd)

/-- What is between two characters. -/
lemma CharClass.holds_between_iff {first last c : Char} :
    (between first last).holds c = true ↔ first ≤ c ∧ c ≤ last := by
  rw [holds, Bool.and_eq_true, decide_eq_true_eq, decide_eq_true_eq]

/-- The class of digits has the digits of all scripts. -/
lemma CharClass.holds_digit (c : Char) : digit.holds c = isDigit c :=
  rfl

/-- A character in front of the letters has no other form. -/
lemma CharClass.holds_letter_iff {c d : Char} (hd : d.toNat < 'A'.toNat) : (letter d).holds c = true ↔ c = d :=
  sameLetter_iff hd

namespace Expression

/-- The stretches of text that an expression describes. -/
def Describes : Expression → List Char → Prop
  | empty, cs => cs = []
  | one set, cs => ∃ c, set.holds c = true ∧ cs = [c]
  | many set, cs => cs ≠ [] ∧ ∀ c ∈ cs, set.holds c = true
  | upTo most set, cs => cs ≠ [] ∧ cs.length ≤ most ∧ ∀ c ∈ cs, set.holds c = true
  | both first second, cs => ∃ front back, first.Describes front ∧ second.Describes back ∧ cs = front ++ back
  | either first second, cs => first.Describes cs ∨ second.Describes cs
  | optional body, cs => body.Describes cs ∨ cs = []
  | group body, cs => body.Describes cs
  | named _ body, cs => body.Describes cs

variable {cs a b : List Char}

/-- An empty run is no stretch. -/
lemma mem_stop_iff {run : List Char} :
    (a, b) ∈ (if run.isEmpty then [] else [(run, cs)]) ↔ a = run ∧ b = cs ∧ a ≠ [] := by
  cases run with
  | nil => simp +contextual
  | cons c run => simp +contextual

/-- A run is cut behind every count of characters of the class, but not before the first one. -/
lemma mem_runSplits_iff {set : CharClass} {run : List Char} : (a, b) ∈ runSplits set run cs ↔
    ∃ more, a = run ++ more ∧ cs = more ++ b ∧ a ≠ [] ∧ ∀ c ∈ more, set.holds c = true := by
  induction cs generalizing run with
  | nil =>
    rw [runSplits, mem_stop_iff]
    constructor
    · rintro ⟨rfl, rfl, hne⟩
      exact ⟨[], (List.append_nil a).symm, rfl, hne, List.forall_mem_nil _⟩
    · rintro ⟨more, rfl, hnil, hne, -⟩
      obtain ⟨rfl, rfl⟩ := List.append_eq_nil_iff.mp hnil.symm
      exact ⟨List.append_nil run, rfl, hne⟩
  | cons c cs ih =>
    rw [runSplits, List.mem_append, mem_stop_iff]
    constructor
    · rintro (h | ⟨rfl, rfl, hne⟩)
      · split at h
        · rename_i hc
          obtain ⟨more, rfl, rfl, hne, hmore⟩ := ih.mp h
          exact ⟨c :: more, List.append_cons run c more |>.symm, rfl, hne, List.forall_mem_cons.mpr ⟨hc, hmore⟩⟩
        · cases h
      · exact ⟨[], (List.append_nil a).symm, rfl, hne, List.forall_mem_nil _⟩
    · rintro ⟨more, rfl, hcs, hne, hmore⟩
      cases more with
      | nil => exact .inr ⟨List.append_nil run, hcs.symm, hne⟩
      | cons d more =>
        obtain ⟨rfl, rfl⟩ := List.cons.inj hcs
        obtain ⟨hc, hmore⟩ := List.forall_mem_cons.mp hmore
        rw [if_pos hc]
        exact .inl (ih.mpr ⟨more, List.append_cons run c more, rfl, hne, hmore⟩)

/-- A text is cut behind exactly the stretches at its beginning that an expression describes. -/
theorem mem_splits_iff {e : Expression} : (a, b) ∈ e.splits cs ↔ a ++ b = cs ∧ e.Describes a := by
  induction e generalizing cs a b with
  | empty =>
    simp only [splits, Describes, List.mem_singleton, Prod.mk.injEq]
    constructor
    · rintro ⟨rfl, rfl⟩
      exact ⟨rfl, rfl⟩
    · rintro ⟨rfl, rfl⟩
      exact ⟨rfl, rfl⟩
  | one set =>
    constructor
    · intro h
      refine ⟨append_of_mem_splits h, ?_⟩
      cases cs with
      | nil => cases h
      | cons c cs =>
        rw [splits] at h
        split at h
        · rename_i hc
          cases List.mem_singleton.mp h
          exact ⟨c, hc, rfl⟩
        · cases h
    · rintro ⟨rfl, c, hc, rfl⟩
      rw [List.singleton_append, splits, if_pos hc]
      exact List.mem_singleton_self _
  | many set =>
    rw [splits, mem_runSplits_iff, Describes]
    constructor
    · rintro ⟨more, rfl, rfl, hne, hmore⟩
      exact ⟨rfl, hne, hmore⟩
    · rintro ⟨rfl, hne, hmore⟩
      exact ⟨a, rfl, rfl, hne, hmore⟩
  | upTo most set =>
    rw [splits, Describes]
    simp only [List.mem_map, Prod.exists, Prod.mk.injEq, mem_runSplits_iff]
    constructor
    · rintro ⟨a, rest, ⟨more, rfl, htake, hne, hmore⟩, rfl, rfl⟩
      refine ⟨?_, hne, ?_, hmore⟩
      · rw [← List.append_assoc, ← htake, List.take_append_drop]
      · have hlength := congrArg List.length htake
        rw [List.length_take, List.length_append] at hlength
        omega
    · rintro ⟨rfl, hne, hlength, hmore⟩
      refine ⟨a, b.take (most - a.length), ⟨a, rfl, ?_, hne, hmore⟩, rfl, ?_⟩
      · rw [List.take_append, List.take_of_length_le hlength]
      · rw [List.drop_append, List.drop_of_length_le hlength, List.nil_append, List.take_append_drop]
  | both first second ih₁ ih₂ =>
    rw [splits, Describes]
    simp only [List.mem_flatMap, List.mem_map, Prod.exists, Prod.mk.injEq, ih₁, ih₂]
    constructor
    · rintro ⟨front, _, ⟨rfl, hfront⟩, back, b, ⟨rfl, hback⟩, rfl, rfl⟩
      exact ⟨List.append_assoc .., front, back, hfront, hback, rfl⟩
    · rintro ⟨rfl, front, back, hfront, hback, rfl⟩
      exact ⟨front, back ++ b, ⟨(List.append_assoc ..).symm, hfront⟩, back, b, ⟨rfl, hback⟩, rfl, rfl⟩
  | either first second ih₁ ih₂ =>
    rw [splits, List.mem_append, ih₁, ih₂, Describes, and_or_left]
  | optional body ih =>
    rw [splits, List.mem_append, ih, List.mem_singleton, Prod.mk.injEq, Describes, and_or_left]
    refine or_congr_right ⟨?_, ?_⟩
    · rintro ⟨rfl, rfl⟩
      exact ⟨rfl, rfl⟩
    · rintro ⟨rfl, rfl⟩
      exact ⟨rfl, rfl⟩
  | group body ih => exact ih
  | named name body ih => exact ih

/-- One character between two others is described. -/
lemma describes_interval_iff {first last : Char} :
    (interval first last).Describes cs ↔ ∃ c, (first ≤ c ∧ c ≤ last) ∧ cs = [c] := by
  simp only [interval, Describes, CharClass.holds_between_iff]

/-- A character in front of the letters describes only itself. -/
lemma describes_char_iff {c : Char} (hc : c.toNat < 'A'.toNat) : (char c).Describes cs ↔ cs = [c] := by
  simp only [char, Describes, CharClass.holds_letter_iff hc, exists_eq_left]

/-- A character and one of an interval behind it. -/
lemma describes_both_char_interval_iff {c first last : Char} (hc : c.toNat < 'A'.toNat) :
    (both (char c) (interval first last)).Describes cs ↔ ∃ d, (first ≤ d ∧ d ≤ last) ∧ cs = [c, d] := by
  simp only [Describes, describes_char_iff hc, describes_interval_iff]
  constructor
  · rintro ⟨_, _, rfl, ⟨d, hd, rfl⟩, rfl⟩
    exact ⟨d, hd, rfl⟩
  · rintro ⟨d, hd, rfl⟩
    exact ⟨[c], [d], rfl, ⟨d, hd, rfl⟩, rfl⟩

/-- A sequence is its first expression and then the others. -/
lemma sequence_cons (e : Expression) (es : List Expression) : sequence (e :: es) = both e (sequence es) :=
  rfl

/-- So many places for a character of a class describe the stretches of so many characters of it. -/
lemma describes_sequence_replicate {set : CharClass} {n : Nat} :
    (sequence (List.replicate n (one set))).Describes cs ↔ cs.length = n ∧ ∀ c ∈ cs, set.holds c = true := by
  induction n generalizing cs with
  | zero =>
    rw [List.length_eq_zero_iff]
    exact ⟨fun h => ⟨h, h ▸ List.forall_mem_nil _⟩, And.left⟩
  | succ n ih =>
    rw [List.replicate_succ, sequence_cons, Describes]
    constructor
    · rintro ⟨_, back, ⟨c, hc, rfl⟩, hdescribes, rfl⟩
      obtain ⟨rfl, hback⟩ := ih.mp hdescribes
      exact ⟨rfl, List.forall_mem_cons.mpr ⟨hc, hback⟩⟩
    · rintro ⟨hlength, hcs⟩
      obtain ⟨c, cs, rfl⟩ := List.exists_cons_of_length_eq_add_one hlength
      obtain ⟨hc, hcs⟩ := List.forall_mem_cons.mp hcs
      exact ⟨[c], cs, ⟨c, hc, rfl⟩, ih.mpr ⟨Nat.succ.inj hlength, hcs⟩, rfl⟩

/-- One character is cut off if it is of the class. -/
lemma splits_one (set : CharClass) (c : Char) (cs : List Char) :
    (one set).splits (c :: cs) = if set.holds c = true then [([c], cs)] else [] :=
  rfl

/-- A fixed count of characters of one class is cut off in one way only. -/
lemma splits_sequence_replicate {set : CharClass} (h : ∀ c ∈ a, set.holds c = true) :
    (sequence (List.replicate a.length (one set))).splits (a ++ b) = [(a, b)] := by
  induction a with
  | nil => rfl
  | cons c a ih =>
    obtain ⟨hc, ha⟩ := List.forall_mem_cons.mp h
    rw [List.length_cons, List.replicate_succ, sequence_cons, List.cons_append, splits, splits_one, if_pos hc,
      List.flatMap_singleton]
    dsimp only
    rw [ih ha]
    rfl

/-- Two characters are cut off if they are of the two classes. -/
lemma splits_both_one (first second : CharClass) (c d : Char) (cs : List Char) :
    (both (one first) (one second)).splits (c :: d :: cs) =
      if first.holds c = true ∧ second.holds d = true then [([c, d], cs)] else [] := by
  cases hc : first.holds c <;> cases hd : second.holds d <;> simp [splits, hc, hd]

/-- Two characters are not cut off a single one. -/
lemma splits_both_one_singleton (first second : CharClass) (c : Char) :
    (both (one first) (one second)).splits [c] = [] := by
  cases hc : first.holds c <;> simp [splits, hc]

end Expression

end Tabular.Text
