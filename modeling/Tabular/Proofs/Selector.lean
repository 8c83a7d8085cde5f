import Tabular.Proofs.Cell.Equality
import Tabular.Proofs.Cell.Literal
import Tabular.Proofs.Filter.Rows

/-!
# One selector, asked in two ways

Replacements and interpretations ask whether a selector selects a position, rules for values pick the selected
positions from a line. What is picked is selected, too. The converse fails for positions that a selector names
by a truth value or by a floating point number: these equal the position, but nothing is picked for them.
Without such names the two agree at every position of every line (`selects_ofCell_iff_picks`).

Selectors are the same if they list equal cells (`Selector.same_iff`). As a set, selectors are counted once each
(`Selector.exists_represents_of_countDistinct?`), and the cells of one are the columns that they name
(`Selector.columnSet?_eq_some_iff`); lists and records cannot be members.
-/

namespace Tabular

namespace Selector

/-- A position is among those that are picked from a line of some length. -/
def Picks (length i : Nat) : Selector → Prop
  | any => True
  | only indices => i ∈ inBounds indices length

end Selector

/-- A truth value, or a floating point number, that equals a position. -/
inductive StandsFor (i : Int) : Cell → Prop where
  | bool {b : Bool} : b.toNat = i → StandsFor i (.bool b)
  | float {x : Binary64} : (Cell.float x).number? = some (i : ℚ) → StandsFor i (.float x)

/-- A raw selector gives a position otherwise than as a whole number, alone or in a list. -/
inductive GivesOtherwise (i : Int) : Cell → Prop where
  | alone {c} : StandsFor i c → GivesOtherwise i c
  | listed {cells c} : c ∈ cells → StandsFor i c → GivesOtherwise i (.list cells)

variable {c v : Cell} {length i : Nat}

/-- A truth value equals the position that it is as a number. -/
lemma looselyEqual_bool_iff {b : Bool} {i : Int} : (Cell.bool b).looselyEqual (.int i) = true ↔ b.toNat = i := by
  show (Place.ofInt b.toNat).same (Place.ofInt i) = true ↔ _
  rw [Place.ofInt, Place.ofInt, Place.same_finite_iff, zpow_zero, mul_one, mul_one, Int.cast_inj]

/-- A position equals its own number and what else stands for it. -/
lemma looselyEqual_int_iff {i : Int} : c.looselyEqual (.int i) = true ↔ c = .int i ∨ StandsFor i c := by
  cases c with
  | bool b =>
    rw [looselyEqual_bool_iff]
    refine ⟨fun h => .inr (.bool h), fun h => ?_⟩
    cases h with
    | inl h => cases h
    | inr h => cases h with | bool h => exact h
  | int n =>
    have hnames : namesPosition i (.int n) = true ↔ some (n : ℚ) = some (i : ℚ) := namesPosition_iff
    rw [Option.some.injEq, Int.cast_inj] at hnames
    refine ⟨fun h => .inl (congrArg Cell.int (hnames.mp h)), fun h => ?_⟩
    cases h with
    | inl h => exact hnames.mpr (Cell.int.inj h)
    | inr h => cases h
  | float x =>
    refine ⟨fun h => .inr (.float (namesPosition_iff.mp h)), fun h => ?_⟩
    cases h with
    | inl h => cases h
    | inr h => cases h with | float h => exact namesPosition_iff.mpr h
  | _ =>
    refine ⟨nofun, fun h => ?_⟩
    cases h with
    | inl h => cases h
    | inr h => cases h

namespace Selector

/-- Within a line, what is picked is what the selector includes as a whole number. -/
lemma picks_iff (hi : i < length) {selector : Selector} : selector.Picks length i ↔ selector.Includes i := by
  cases selector with
  | any => exact ⟨fun _ => .any, fun _ => trivial⟩
  | only indices =>
    rw [Picks, mem_inBounds_iff]
    refine ⟨fun h => .listed h.1, fun h => ?_⟩
    cases h with
    | listed h => exact ⟨h, hi⟩

/-- Listed cells select what they include as whole numbers, and what else they stand for. -/
lemma selects_only_iff {indices : List Cell} :
    (only indices).selects i = true ↔ (only indices).Includes i ∨ ∃ c ∈ indices, StandsFor i c := by
  rw [selects, List.any_eq_true]
  simp only [looselyEqual_int_iff]
  refine ⟨fun h => ?_, fun h => ?_⟩
  · obtain ⟨c, hc, h⟩ := h
    cases h with
    | inl e => exact .inl (.listed (e ▸ hc))
    | inr h => exact .inr ⟨c, hc, h⟩
  · cases h with
    | inl h => cases h with | listed hc => exact ⟨_, hc, .inl rfl⟩
    | inr h =>
      obtain ⟨c, hc, h⟩ := h
      exact ⟨c, hc, .inr h⟩

/-- A cell that is no list and does not mean everything is listed alone. -/
lemma selects_ofCell_alone_iff (hcell : ofCell v = only [v]) (hlist : ∀ cells, v ≠ .list cells) :
    (ofCell v).selects i = true ↔ (ofCell v).Includes i ∨ GivesOtherwise i v := by
  rw [hcell, selects_only_iff]
  refine or_congr_right ⟨fun h => ?_, fun h => ?_⟩
  · obtain ⟨c, hc, hstands⟩ := h
    cases List.mem_singleton.mp hc
    exact .alone hstands
  · cases h with
    | alone hstands => exact ⟨v, List.mem_singleton_self v, hstands⟩
    | listed => exact absurd rfl (hlist _)

/-- A raw selector selects what it includes, and the positions that it gives otherwise. -/
lemma selects_ofCell_iff : (ofCell v).selects i = true ↔ (ofCell v).Includes i ∨ GivesOtherwise i v := by
  cases v with
  | null => exact ⟨fun _ => .inl .any, fun _ => rfl⟩
  | list cells =>
    refine selects_only_iff.trans (or_congr_right ⟨fun ⟨c, hc, h⟩ => .listed hc h, fun h => ?_⟩)
    cases h with
    | alone h => cases h
    | listed hc h => exact ⟨_, hc, h⟩
  | text s =>
    by_cases hs : s = "any"
    · subst hs
      exact ⟨fun _ => .inl .any, fun _ => rfl⟩
    · exact selects_ofCell_alone_iff (if_neg hs) nofun
  | _ => exact selects_ofCell_alone_iff rfl nofun

end Selector

/-- A raw selector selects the positions that are picked for it, and besides those that it gives by a truth
value or by a floating point number. At the positions of a line the two agree exactly where what is given so
is picked as well. -/
theorem selects_ofCell_iff_picks (v : Cell) (hi : i < length) :
    ((Selector.ofCell v).selects i = true ↔ (Selector.ofCell v).Picks length i ∨ GivesOtherwise i v) ∧
    (((Selector.ofCell v).selects i = true ↔ (Selector.ofCell v).Picks length i) ↔
      (GivesOtherwise i v → (Selector.ofCell v).Picks length i)) := by
  have hselects : (Selector.ofCell v).selects i = true ↔
      (Selector.ofCell v).Picks length i ∨ GivesOtherwise i v := by
    rw [Selector.picks_iff hi, Selector.selects_ofCell_iff]
  refine ⟨hselects, ?_⟩
  rw [hselects, or_iff_left_iff_imp]

/-- A list that gives the second position by a truth value, and the third one as a whole number as well. -/
theorem selects_ofCell_iff_picks_listed :
    1 < 3 ∧ Selector.selects (.ofCell (.list [.bool true, .int 2, .text "x"])) (1 : Nat) = true ∧
      ¬ (GivesOtherwise (1 : Nat) (.list [.bool true, .int 2, .text "x"]) →
        Selector.Picks 3 1 (.ofCell (.list [.bool true, .int 2, .text "x"]))) := by
  have hi : 1 < 3 := by decide
  obtain ⟨hselects, hagree⟩ := selects_ofCell_iff_picks (.list [.bool true, .int 2, .text "x"]) hi
  have hgives : GivesOtherwise (1 : Nat) (.list [.bool true, .int 2, .text "x"]) :=
    .listed List.mem_cons_self (.bool rfl)
  have hselected := hselects.mpr (.inr hgives)
  refine ⟨hi, hselected, fun h => ?_⟩
  have hpicks : 1 ∈ Selector.inBounds [.bool true, .int 2, .text "x"] 3 := (hagree.mpr h).mp hselected
  exact absurd hpicks (by decide)

/-- A truth value selects the position that it equals, but nothing is picked for it. -/
theorem selects_truth_value :
    ¬ ∀ (v : Cell) (length i : Nat), i < length →
      ((Selector.ofCell v).selects i = true ↔ (Selector.ofCell v).Picks length i) := by
  intro h
  have hpicks : 1 ∈ Selector.inBounds [.bool true] 2 := (h (.bool true) 2 1 (by decide)).mp rfl
  cases hpicks

namespace Selector

variable {s s' : Selector} {ss : List Selector} {cells : List Cell} {drop : Nat → Bool} {n i : Nat}

/-- A list of positions is written as the literals of its cells, with commas between them. -/
lemma toList_indexSetText : (indexSetText cells).toList =
    "IndexSet([".toList ++ [',', ' '].intercalate (cells.map Cell.literal) ++ "])".toList := by
  simp only [indexSetText, String.toList_append, String.toList_ofList, Cell.literals_eq_intercalate]

/-- Two selectors select everything, or they list cells that are equal one by one. -/
inductive Same : Selector → Selector → Prop where
  | any : Same .any .any
  | only {xs ys} : xs.length = ys.length →
    (∀ (i : Nat) (x y : Cell), xs[i]? = some x → ys[i]? = some y → x.looselyEqual y = true) →
    Same (.only xs) (.only ys)

/-- Equality of selectors is equality of the cells that they list. -/
lemma same_iff : s.same s' = true ↔ s.Same s' := by
  cases s with
  | any =>
    cases s' with
    | any => exact ⟨fun _ => .any, fun _ => rfl⟩
    | only ys => exact ⟨nofun, nofun⟩
  | only xs =>
    cases s' with
    | any => exact ⟨nofun, nofun⟩
    | only ys =>
      refine Iff.trans Cell.listsEqual_iff ⟨fun h => .only h.1 h.2, fun h => ?_⟩
      cases h with
      | only hlength hcells => exact ⟨hlength, hcells⟩

/-- The first of several selectors counts as equal to itself, each other one if it is the same. -/
lemma getElem?_equalToFirst_eq_some_true_iff :
    (equalToFirst (s :: ss))[i]? = some true ↔ i = 0 ∨ ∃ s', (s :: ss)[i]? = some s' ∧ s.Same s' := by
  cases i with
  | zero => exact ⟨fun _ => .inl rfl, fun _ => rfl⟩
  | succ i =>
    rw [equalToFirst, List.getElem?_cons_succ, List.getElem?_map, Option.map_eq_some_iff, List.getElem?_cons_succ]
    simp only [same_iff, Nat.succ_ne_zero, false_or]

/-- Cells without lists and records among them are a set of columns: the ones that they name, in one way or the
other. -/
lemma columnSet?_eq_some_iff : columnSet? cells = some drop ↔
    (∀ c ∈ cells, c.isPlain = true) ∧
      ∀ i, drop i = true ↔ Cell.int i ∈ cells ∨ ∃ c ∈ cells, StandsFor (i : Nat) c := by
  have hselects : ∀ i : Nat, (only cells).selects i = true ↔
      Cell.int i ∈ cells ∨ ∃ c ∈ cells, StandsFor (i : Nat) c := by
    intro i
    refine selects_only_iff.trans (or_congr_left ⟨fun h => ?_, .listed⟩)
    cases h with
    | listed h => exact h
  rw [← List.all_eq_true, columnSet?, Option.ite_none_right_eq_some, Option.some.injEq, funext_iff]
  refine and_congr_right fun _ => forall_congr' fun i => ?_
  rw [← hselects, Bool.eq_iff_iff]
  exact iff_comm

/-- The selectors kept from a list are some of it, no two of them the same, and each of the list is the same as
one that is kept. -/
structure Represents (kept all : List Selector) : Prop where
  subset : ∀ s ∈ kept, s ∈ all
  apart : kept.Pairwise fun s s' => ¬ s'.Same s
  covers : ∀ s ∈ all, s ∈ kept ∨ ∃ s' ∈ kept, s'.Same s

/-- One more selector is kept if it is the same as none of those before it. -/
lemma Represents.step {kept all : List Selector} (h : Represents kept all) (s : Selector) :
    Represents (if kept.any (·.same s) then kept else s :: kept) (all ++ [s]) := by
  have hknown : kept.any (·.same s) = true ↔ ∃ s' ∈ kept, s'.Same s := by
    simp only [List.any_eq_true, same_iff]
  split
  case isTrue hs =>
    refine ⟨fun s' hs' => List.mem_append_left _ (h.subset s' hs'), h.apart, fun s' hs' => ?_⟩
    rcases List.mem_append.mp hs' with hs' | hs'
    · exact h.covers s' hs'
    · cases List.mem_singleton.mp hs'
      exact .inr (hknown.mp hs)
  case isFalse hs =>
    have hnew : ∀ s' ∈ kept, ¬ s'.Same s := fun s' hs' hsame => hs (hknown.mpr ⟨s', hs', hsame⟩)
    refine ⟨?_, List.pairwise_cons.mpr ⟨hnew, h.apart⟩, fun s' hs' => ?_⟩
    · refine List.forall_mem_cons.mpr ⟨by simp, fun s' hs' => List.mem_append_left _ (h.subset s' hs')⟩
    · rcases List.mem_append.mp hs' with hs' | hs'
      · exact (h.covers s' hs').imp (List.mem_cons_of_mem s) fun ⟨s'', hs'', hsame⟩ =>
          ⟨s'', List.mem_cons_of_mem s hs'', hsame⟩
      · exact .inl (List.mem_singleton.mp hs' ▸ List.mem_cons_self)

/-- What is kept from the selectors that are still to come represents them with those before. -/
lemma Represents.foldl {kept all : List Selector} (h : Represents kept all) (ss : List Selector) :
    Represents (ss.foldl (fun kept s => if kept.any (·.same s) then kept else s :: kept) kept) (all ++ ss) := by
  induction ss generalizing kept all with
  | nil => rwa [List.append_nil]
  | cons s ss ih =>
    rw [List.append_cons]
    exact ih (h.step s)

/-- Selectors without lists and records are counted, the same ones once. -/
lemma exists_represents_of_countDistinct? (h : countDistinct? ss = some n) :
    ∃ kept, Represents kept ss ∧ n = kept.length := by
  obtain ⟨-, h⟩ := Option.ite_none_right_eq_some.mp h
  have hnone : Represents [] [] := ⟨nofun, List.Pairwise.nil, nofun⟩
  exact ⟨_, hnone.foldl ss, (Option.some.inj h).symm⟩

/-- Only lists and records among the cells of a selector prevent the count. -/
lemma countDistinct?_isSome_iff : (countDistinct? ss).isSome = true ↔ ∀ s ∈ ss, s.isPlain = true := by
  rw [countDistinct?, ← List.all_eq_true]
  split
  case isTrue h => exact ⟨fun _ => h, fun _ => rfl⟩
  case isFalse h => exact ⟨nofun, fun h' => absurd h' h⟩

end Selector

end Tabular
