import Tabular.Proofs.Operation.Places

/-!
# Lists of replacements

Two lists of replacements that run one after the other are one list. If no replacement puts in a cell that
one of them looks for, a list leaves nothing to replace behind: in its scope every cell is either the one that
was there, for which no replacement has looked, or has just been put in. So running the list again changes
nothing.

* `Settled`: no replacement puts in what one of them looks for.
* `replace_replace`: two lists are one.
* `Settled.not_matches_foldl_apply`: what a settled list leaves is not looked for.
* `replace_append_and_settles`: both, and that such a list does nothing the second time.
-/

namespace Tabular

namespace Replacement

/-- The cell at a place is one that a replacement looks for there. -/
def Matches (row column : Nat) (c : Cell) (r : Replacement) : Prop :=
  inScope r.rows r.cols row column = true ∧ r.orig.strictlyEqual c = true

/-- No replacement of a list puts in a cell that equals, as replacements compare cells, one that the list
looks for. -/
def Settled (rules : List Replacement) : Prop :=
  ∀ r ∈ rules, ∀ s ∈ rules, r.orig.strictlyEqual s.new = false

variable {row column : Nat} {c : Cell} {r : Replacement} {rules : List Replacement}

/-- A replacement puts its new cell in the place of a match. -/
lemma apply_of_matches (h : r.Matches row column c) : apply row column c r = r.new := by
  rw [apply, h.1, h.2]
  rfl

/-- A replacement leaves a cell that it does not match. -/
lemma apply_of_not_matches (h : ¬ r.Matches row column c) : apply row column c r = c := by
  rw [apply, if_neg]
  rwa [Bool.and_eq_true]

/-- Replacements leave a cell that none of them matches. -/
lemma foldl_apply_of_not_matches (h : ∀ r ∈ rules, ¬ r.Matches row column c) :
    rules.foldl (apply row column) c = c := by
  induction rules with
  | nil => rfl
  | cons r rules ih =>
    obtain ⟨hr, hrules⟩ := List.forall_mem_cons.mp h
    rw [List.foldl_cons, apply_of_not_matches hr, ih hrules]

/-- A cell that is not left as it was is one that a replacement has put in. -/
lemma foldl_apply_cases (rules : List Replacement) (row column : Nat) (c : Cell) :
    (∀ r ∈ rules, ¬ r.Matches row column c) ∨ ∃ r ∈ rules, rules.foldl (apply row column) c = r.new := by
  induction rules generalizing c with
  | nil => exact .inl nofun
  | cons r rules ih =>
    rw [List.foldl_cons]
    by_cases hr : r.Matches row column c
    · rw [apply_of_matches hr]
      rcases ih r.new with hnone | ⟨s, hs, e⟩
      · exact .inr ⟨r, List.mem_cons_self, foldl_apply_of_not_matches hnone⟩
      · exact .inr ⟨s, List.mem_cons_of_mem _ hs, e⟩
    · rw [apply_of_not_matches hr]
      rcases ih c with hnone | ⟨s, hs, e⟩
      · exact .inl (List.forall_mem_cons.mpr ⟨hr, hnone⟩)
      · exact .inr ⟨s, List.mem_cons_of_mem _ hs, e⟩

/-- What a settled list leaves at a place, no replacement of the list looks for there. -/
lemma Settled.not_matches_foldl_apply (h : Settled rules) (row column : Nat) (c : Cell) :
    ∀ r ∈ rules, ¬ r.Matches row column (rules.foldl (apply row column) c) := by
  rcases foldl_apply_cases rules row column c with hnone | ⟨s, hs, e⟩
  · rwa [foldl_apply_of_not_matches hnone]
  · intro r hr hmatches
    rw [e] at hmatches
    exact absurd hmatches.2 (ne_true_of_eq_false (h r hr s hs))

end Replacement

namespace Table

variable {t : Table} {rules : List Replacement}

/-- Replacing by two lists is replacing by both together. -/
lemma replace_replace (t : Table) (first second : List Replacement) :
    (t.replace first).replace second = t.replace (first ++ second) := by
  rw [replace, replace, mapPlaces_mapPlaces, replace]
  simp only [List.foldl_append]

/-- Every cell after a settled list is none that a replacement looks for at its place. -/
lemma not_matches_of_cell?_replace (h : Replacement.Settled rules) {row column : Nat} {c : Cell}
    (hc : (t.replace rules).cell? row column = some c) : ∀ r ∈ rules, ¬ r.Matches row column c := by
  rw [replace, cell?_mapPlaces] at hc
  obtain ⟨before, -, rfl⟩ := Option.map_eq_some_iff.mp hc
  exact h.not_matches_foldl_apply row column before

/-- A settled list does nothing the second time. -/
lemma replace_replace_self (h : Replacement.Settled rules) (t : Table) :
    (t.replace rules).replace rules = t.replace rules := by
  rw [replace, replace, mapPlaces_mapPlaces]
  congr 1
  funext row column c
  exact Replacement.foldl_apply_of_not_matches (h.not_matches_foldl_apply row column c)

end Table

/-- Lists of replacements run one after the other as one list. If no replacement of a list puts in a cell that
the list looks for, then no cell in the scope of a replacement equals what it looks for afterwards, and running
the list a second time changes nothing. -/
theorem replace_append_and_settles (t : Table) (first second : List Replacement) :
    (t.replace first).replace second = t.replace (first ++ second) ∧
    (Replacement.Settled first →
      (∀ row column c, (t.replace first).cell? row column = some c →
        ∀ r ∈ first, inScope r.rows r.cols row column = true → r.orig.strictlyEqual c = false) ∧
      (t.replace first).replace first = t.replace first) := by
  refine ⟨t.replace_replace first second, fun h => ⟨?_, Table.replace_replace_self h t⟩⟩
  intro row column c hc r hr hscope
  have hnot := Table.not_matches_of_cell?_replace h hc r hr
  exact Bool.eq_false_iff.mpr fun heq => hnot ⟨hscope, heq⟩

/-- Two replacements with scopes that overlap in the first row, and a third one that comes after them. -/
theorem replace_append_and_settles_first_row :
    Replacement.Settled [⟨.text "a", .bool true, .any, .any⟩, ⟨.int 1, .text "b", .only [.int 0], .any⟩] ∧
    Table.replace [⟨.text "a", .bool true, .any, .any⟩, ⟨.int 1, .text "b", .only [.int 0], .any⟩,
        ⟨.text "b", .text "a", .any, .only [.int 1]⟩] [[.text "a", .int 1, .int 1], [.int 1, .text "a"]] =
      [[.bool true, .text "a", .text "b"], [.int 1, .bool true]] ∧
    Cell.strictlyEqual (.int 1) (.bool true) = false ∧
    Table.replace [⟨.text "a", .bool true, .any, .any⟩, ⟨.int 1, .text "b", .only [.int 0], .any⟩]
        [[.bool true, .text "b", .text "b"], [.int 1, .bool true]] =
      [[.bool true, .text "b", .text "b"], [.int 1, .bool true]] := by
  have hsettled : Replacement.Settled
      [⟨.text "a", .bool true, .any, .any⟩, ⟨.int 1, .text "b", .only [.int 0], .any⟩] := by
    simp only [Replacement.Settled, List.forall_mem_cons]
    exact ⟨⟨rfl, rfl, nofun⟩, ⟨rfl, rfl, nofun⟩, nofun⟩
  obtain ⟨happend, hsettles⟩ := replace_append_and_settles [[.text "a", .int 1, .int 1], [.int 1, .text "a"]]
    [⟨.text "a", .bool true, .any, .any⟩, ⟨.int 1, .text "b", .only [.int 0], .any⟩]
    [⟨.text "b", .text "a", .any, .only [.int 1]⟩]
  obtain ⟨hscope, hagain⟩ := hsettles hsettled
  exact ⟨hsettled, happend.symm, hscope 0 0 _ rfl _ (List.mem_cons_of_mem _ List.mem_cons_self) rfl, hagain⟩

end Tabular
