import Tabular.Proofs.Outcome
import Tabular.Refinement

/-!
# Operations read before a refinement

A step can be read when its turn comes, or all steps before the first of them is run. Where the reading
succeeds, both give the same refinement: an operation that was read has the name and the effect of the
cell that it was read from.

* `name_of_operation`, `run_of_operation`: a step that is read keeps its name and its effect.
* `refine_of_operations`: steps read beforehand.
* `Operation.listOfCell_eq`: lists of steps and lists of operations are read alike.
-/

namespace Tabular

/-- A table is what its cell is read as. -/
@[simp] lemma Table.ofCell_toCell (t : Table) : Table.ofCell t.toCell = .ok t := by
  have rows : ∀ k, rowsFrom k (t.map .list) = .ok t := by
    induction t with
    | nil => exact fun _ => rfl
    | cons row t ih =>
      intro k
      rw [List.map_cons, rowsFrom, ih]
      rfl
  exact rows 0

namespace Operation

/-- A parameter that has been read belongs to the operation of its kind. -/
lemma kind_of_ofParameter {kind : OperationKind} {param : Cell} {o : Operation}
    (h : ofParameter kind param = .ok o) : o.kind = kind := by
  cases kind with
  | ignoreRows | ignoreColumns | replace | interpret =>
    obtain ⟨_, -, e⟩ := map_eq_ok_iff.mp h
    cases e
    rfl
  | transpose =>
    cases h
    rfl

/-- The name of the kind of a record is the one that the record gives. -/
lemma nameField?_of_ofFields {fields : List (String × Cell)} {o : Operation} (h : ofFields fields = .ok o) :
    nameField? fields = some (.text o.kind.name) := by
  simp only [ofFields] at h
  split at h
  · cases h
  · split at h
    · cases h
    · rename_i kind hkind
      rw [kind_of_ofParameter (mapError_eq_ok_iff.mp h)]
      cases e : nameField? fields with
      | none =>
        rw [e] at hkind
        cases hkind
      | some c =>
        rw [e] at hkind
        cases c with
        | text s =>
          have hs : kind.name = s := by simpa using List.find?_some hkind
          rw [hs]
        | null | bool | int | float | list | record => cases hkind

end Operation

namespace Step

variable {iso : Calendar.IsoRule} {s : Step} {o : Operation}

/-- The name of a step in messages is the name of the operation that it is read as. -/
lemma name_of_operation (h : s.operation = .ok o) : s.name = .ok o.kind.name := by
  cases s with
  | parsed o' =>
    cases h
    rfl
  | raw c =>
    cases c with
    | record fields =>
      show (Operation.nameField? fields).elim (.ok "?") Cell.shown = _
      rw [Operation.nameField?_of_ofFields h]
      rfl
    | null | bool | int | float | text | list => cases h

/-- The failure of a step that can be read tells its index and the name of its operation. -/
lemma failure_of_operation (h : s.operation = .ok o) (k : Nat) : s.failure k = .step k o.kind.name := by
  funext e
  rw [failure, name_of_operation h]

/-- A step does what the operation does that it is read as. -/
lemma run_of_operation (h : s.operation = .ok o) (t : Table) :
    s.run iso t = (o.apply iso t).mapError .date := by
  rw [run, h]
  rfl

end Step

variable {iso : Calendar.IsoRule}

/-- Steps refine a table like the operations that they are read as. -/
lemma refineFrom_of_operations {steps : List Step} {operations : List Operation}
    (h : steps.mapM Step.operation = .ok operations) (k : Nat) (t : Table) :
    refineFrom iso k steps t = refineFrom iso k (operations.map .parsed) t := by
  have hrel := mapM_eq_ok_iff.mp h
  clear h
  -- The index and the table differ from step to step, the names and the effects do not.
  induction hrel generalizing k t with
  | nil => rfl
  | cons hs _ ih =>
    simp only [List.map_cons, refineFrom, Step.failure_of_operation hs, Step.run_of_operation hs, ih]
    rfl

/-- Steps that can be read refine as the operations that they are read into. -/
lemma refine_of_operations {steps : List Step} {operations : List Operation}
    (h : steps.mapM Step.operation = .ok operations) (table : Cell) :
    refine iso steps table = refine iso (operations.map .parsed) table := by
  show (Table.ofCell table).mapError .shape >>= refineFrom iso 0 steps = _
  rw [funext (refineFrom_of_operations h 0)]
  rfl

/-- The operations of a cell are read from its steps. -/
lemma Operation.listOfCell_eq (c : Cell) : Operation.listOfCell c = (Step.listOfCell c).mapM Step.operation := by
  cases c with
  | list cells =>
    show cells.mapM Operation.ofCell = (cells.map Step.raw).mapM Step.operation
    rw [List.mapM_map]
    rfl
  | null | bool | int | float | text | record =>
    show (_ >>= _) = [Step.raw _].mapM Step.operation
    rw [List.mapM_cons, List.mapM_nil]
    rfl

/-- If the cells of a refinement can all be read as operations, these refine alike. -/
theorem refine_listOfCell {c : Cell} {operations : List Operation} (h : Operation.listOfCell c = .ok operations)
    (table : Cell) : refine iso (Step.listOfCell c) table = refine iso (operations.map .parsed) table := by
  rw [Operation.listOfCell_eq] at h
  exact refine_of_operations h table

end Tabular
