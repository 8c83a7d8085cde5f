import Tabular.Proofs.Operation.Interpretation
import Tabular.Replace

/-!
# Changing cells at their places

Replacing and interpreting change single cells and leave the shape of a table as it is. What stands at a place
afterwards depends on the place and the cell that was there, and on nothing else.

* `width_mapPlaces`, `map_length_mapPlaces`: the shape stays.
* `cell?_mapPlaces`: a cell depends on its place.
* `eq_mapPlaces_of_interpret`: interpreting changes place by place.
-/

namespace Tabular

variable {iso : Calendar.IsoRule} {t u : Table}

/-- What the cell at a place is read as, or the cell as it is where reading fails. -/
def Interpretation.readAtD (iso : Calendar.IsoRule) (r : Interpretation) (row column : Nat) (c : Cell) : Cell :=
  (r.readAt iso row column c).toOption.getD c

/-- What does not ask for places is done to the elements alone. -/
lemma map_zipIdx_fst {α β : Type} (f : α → β) (xs : List α) : (xs.zipIdx.map fun entry => f entry.1) = xs.map f := by
  calc (xs.zipIdx.map fun entry => f entry.1)
      = (xs.zipIdx.map Prod.fst).map f := List.map_map.symm
    _ = xs.map f := by rw [List.zipIdx_map_fst]

/-- What is done to the elements of a list with their places can be done in one go. -/
lemma map_zipIdx_map_zipIdx {α β γ : Type} (f : α × Nat → β) (g : β × Nat → γ) (xs : List α) :
    (xs.zipIdx.map f).zipIdx.map g = xs.zipIdx.map fun entry => g (f entry, entry.2) := by
  apply List.ext_getElem?
  intro i
  simp only [List.getElem?_map, List.getElem?_zipIdx]
  cases xs[i]? with
  | none => rfl
  | some x => rfl

namespace Table

/-- Changing cells keeps the lengths of the rows. -/
lemma map_length_mapPlaces (f : Nat → Nat → Cell → Cell) (t : Table) :
    (t.mapPlaces f).map List.length = t.map List.length := by
  apply List.ext_getElem
  · simp [mapPlaces]
  · intro i h h'
    simp [mapPlaces]

/-- The width of a table depends on the lengths of its rows only. -/
lemma width_eq_foldr_max (t : Table) : t.width = (t.map List.length).foldr max 0 :=
  List.foldr_map.symm

/-- Changing cells keeps the width. -/
lemma width_mapPlaces (f : Nat → Nat → Cell → Cell) (t : Table) : (t.mapPlaces f).width = t.width := by
  rw [width_eq_foldr_max, width_eq_foldr_max, map_length_mapPlaces]

/-- The cell at a place is the changed one. -/
lemma cell?_mapPlaces (f : Nat → Nat → Cell → Cell) (t : Table) (row column : Nat) :
    (t.mapPlaces f).cell? row column = (t.cell? row column).map (f row column) := by
  rw [cell?, cell?, mapPlaces, List.getElem?_map, List.getElem?_zipIdx]
  cases t[row]? with
  | none => rfl
  | some cells =>
    simp only [Option.map_some, Option.bind_some, List.getElem?_map, List.getElem?_zipIdx, Option.map_map]
    simp [Function.comp_def]

/-- Two changes are one by both. -/
lemma mapPlaces_mapPlaces (f g : Nat → Nat → Cell → Cell) (t : Table) :
    (t.mapPlaces f).mapPlaces g = t.mapPlaces fun row column c => g row column (f row column c) := by
  simp only [mapPlaces, map_zipIdx_map_zipIdx]

/-- If interpreting succeeds, every cell is what it is read as. -/
lemma eq_mapPlaces_of_interpret {r : Interpretation} (h : t.interpret iso r = .ok u) :
    u = t.mapPlaces (r.readAtD iso) := by
  refine (map_eq_of_mapM_eq_ok h ?_).symm
  rintro ⟨cells, row⟩ cells' hcells
  refine map_eq_of_mapM_eq_ok hcells ?_
  rintro ⟨c, column⟩ c' hread
  show (r.readAt iso row column c).toOption.getD c = c'
  rw [show r.readAt iso row column c = .ok c' from hread]
  rfl

end Table

end Tabular
