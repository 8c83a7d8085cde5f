import Tabular.Proofs.Outcome
import Tabular.Refinement

/-!
# Where the cells of a table come from

No operation makes cells out of nothing: they are cells of the table before, or what such cells are read
as, or what a replacement puts in their place. So a property of cells that reading keeps, and that all
replacements have, is kept by a whole refinement.

* `Table.AllCells`: all cells of a table have a property.
* `Operation.allCells_apply`: an operation keeps it.
* `allCells_refineFrom`: and so does a refinement.
-/

namespace Tabular

/-- All cells of a table have a property. -/
def Table.AllCells (P : Cell → Prop) (t : Table) : Prop :=
  ∀ row ∈ t, ∀ c ∈ row, P c

/-- It is decided cell by cell whether a table has only cells of a property. -/
instance (P : Cell → Prop) [DecidablePred P] (t : Table) : Decidable (t.AllCells P) :=
  inferInstanceAs (Decidable (∀ row ∈ t, ∀ c ∈ row, P c))

/-- The replacements of an operation. -/
def Operation.replacements : Operation → List Replacement
  | replace rules => rules
  | _ => []

variable {iso : Calendar.IsoRule} {P : Cell → Prop} {t u : Table}

namespace Table

/-- Leaving out rows brings in no cells. -/
lemma AllCells.ignoreRows (h : t.AllCells P) (rules : List FilterRule) :
    (t.ignoreRows rules).AllCells P := by
  intro row hrow
  obtain ⟨⟨row', i⟩, hmem, rfl⟩ := List.mem_map.mp hrow
  exact h _ (List.fst_mem_of_mem_zipIdx (List.mem_filter.mp hmem).1)

/-- Leaving out columns brings in no cells. -/
lemma AllCells.removeColumns (h : t.AllCells P) (drops : Nat → Bool) :
    (t.removeColumns drops).AllCells P := by
  intro row hrow c hc
  obtain ⟨row', hrow', rfl⟩ := List.mem_map.mp hrow
  obtain ⟨⟨c', i⟩, hmem, rfl⟩ := List.mem_map.mp hc
  exact h row' hrow' _ (List.fst_mem_of_mem_zipIdx (List.mem_filter.mp hmem).1)

/-- Exchanging rows and columns brings in no cells. -/
lemma AllCells.transpose (h : t.AllCells P) : t.transpose.AllCells P := by
  intro row hrow c hc
  obtain ⟨i, -, rfl⟩ := List.mem_map.mp hrow
  obtain ⟨row', hrow', e⟩ := List.mem_filterMap.mp hc
  exact h row' hrow' c (List.mem_of_getElem? e)

/-- Replaced cells are cells of before or replacements. -/
lemma AllCells.replace (h : t.AllCells P) {rules : List Replacement} (hnew : ∀ r ∈ rules, P r.new) :
    (t.replace rules).AllCells P := by
  have replaced : ∀ row column (c : Cell), P c → P (rules.foldl (Replacement.apply row column) c) := by
    intro row column
    induction rules with
    | nil => exact fun c hc => hc
    | cons r rules ih =>
      obtain ⟨hr, hrules⟩ := List.forall_mem_cons.mp hnew
      intro c hc
      refine ih hrules _ ?_
      rw [Replacement.apply]
      split
      · exact hr
      · exact hc
  intro row hrow c hc
  obtain ⟨⟨row', i⟩, hrow', rfl⟩ := List.mem_map.mp hrow
  obtain ⟨⟨c', j⟩, hc', rfl⟩ := List.mem_map.mp hc
  exact replaced i j c' (h row' (List.fst_mem_of_mem_zipIdx hrow') c' (List.fst_mem_of_mem_zipIdx hc'))

/-- Interpreted cells are cells of before or what these are read as. -/
lemma AllCells.interpret (h : t.AllCells P) {r : Interpretation}
    (hread : ∀ {c c'}, P c → r.read iso c = .ok c' → P c') (hu : t.interpret iso r = .ok u) : u.AllCells P := by
  intro row hrow c' hc'
  obtain ⟨⟨row', i⟩, hrow', hi⟩ := exists_of_mem_mapM hu hrow
  obtain ⟨⟨c, j⟩, hc, hj⟩ := exists_of_mem_mapM hi hc'
  have hP : P c := h row' (List.fst_mem_of_mem_zipIdx hrow') c (List.fst_mem_of_mem_zipIdx hc)
  simp only [Interpretation.readAt] at hj
  split at hj
  · exact hread hP hj
  · cases hj
    exact hP

end Table

/-- What holds of all cells of a table, of what is read from such cells and of all replacements holds after an
operation. -/
lemma Operation.allCells_apply {o : Operation} (h : t.AllCells P)
    (hread : ∀ (r : Interpretation) {c c'}, P c → r.read iso c = .ok c' → P c')
    (hnew : ∀ r ∈ o.replacements, P r.new) (hu : o.apply iso t = .ok u) : u.AllCells P := by
  cases o with
  | ignoreRows rules =>
    cases hu
    exact h.ignoreRows rules
  | ignoreColumns rules =>
    cases hu
    exact h.removeColumns _
  | replace rules =>
    cases hu
    exact h.replace hnew
  | interpret rule => exact h.interpret (hread rule) hu
  | transpose =>
    cases hu
    exact h.transpose

/-- What holds of all cells of a table, of what is read from such cells and of all replacements holds after a
run. -/
lemma allCells_refineFrom {k : Nat} {operations : List Operation} (h : t.AllCells P)
    (hread : ∀ (r : Interpretation) {c c'}, P c → r.read iso c = .ok c' → P c')
    (hnew : ∀ o ∈ operations, ∀ r ∈ o.replacements, P r.new)
    (hu : refineFrom iso k (operations.map .parsed) t = .ok u) : u.AllCells P := by
  induction operations generalizing k t with
  | nil =>
    cases hu
    exact h
  | cons o operations ih =>
    obtain ⟨ho, hoperations⟩ := List.forall_mem_cons.mp hnew
    obtain ⟨t', ht', hu⟩ := bind_eq_ok_iff.mp hu
    obtain ⟨o', e, hrun⟩ := bind_eq_ok_iff.mp (mapError_eq_ok_iff.mp ht')
    cases e
    exact ih (Operation.allCells_apply h hread ho (mapError_eq_ok_iff.mp hrun)) hoperations hu

end Tabular
