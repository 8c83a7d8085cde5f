import Tabular.Proofs.Session.Run
import Tabular.Table.Columnar

/-!
# Requests that refine

A refinement that succeeds stores what the operations make of the table it read, tells the true sizes of
both, and touches nothing but its output. A name made for the output is never that of the source, so the
source is then left as it was.

* `Refines`: what a refinement that succeeds does and tells.
* `Drafted.output_ne_source`: a name made for the output is new.
* `refines_of_answer_eq`: every answer of success is one of these.
-/

namespace Tabular.Session

/-- What a successful refinement with given operations does to a session, from the table `before` to the
table `after`. -/
structure Refines (p : Platform) (operations : Cell) (s s' : Session) (r : RefinementResult) (before after : Table) :
    Prop where
  get_source : s.store.get r.source = .ok before
  get_output : s'.store.get r.output = .ok after
  refine_eq : Tabular.refine p.iso (Step.listOfCell operations) before.toCell = .ok after
  rowsBefore_eq : r.rowsBefore = before.length
  rowsAfter_eq : r.rowsAfter = after.length
  columnsBefore_eq : r.columnsBefore = before.width
  columnsAfter_eq : r.columnsAfter = after.width
  current_eq : s'.current = some r.output
  history_eq : s'.history = s.history ++ [⟨r.source, r.output, r.operations⟩]
  get_other : ∀ name, name ≠ r.output → s'.store.get name = s.store.get name
  info_other : ∀ name, name ≠ r.output → s'.store.info name = s.store.info name

variable {p : Platform} {s s' : Session} {r : RefinementResult}

/-- What is known once a draft has been put down. -/
lemma commit_eq {d : Draft} (h : s.commit p d = (s', .ok (.refined r))) :
    s' = ⟨s.store.put d.output d.after d.source d.operations, some d.output,
        s.history ++ [⟨d.source, d.output, d.operations⟩]⟩ ∧
      r.source = d.source ∧ r.output = d.output ∧ r.operations = d.operations ∧
      r.rowsBefore = d.before.length ∧ r.rowsAfter = d.after.length ∧
      r.columnsBefore = d.columnsBefore ∧ r.columnsAfter = d.after.width := by
  unfold commit at h
  cases hpreview : previewOf p previewLength d.after with
  | error e =>
    rw [hpreview] at h
    cases h
  | ok preview =>
    rw [hpreview] at h
    cases h
    exact ⟨rfl, rfl, rfl, rfl, rfl, rfl, rfl, rfl⟩

/-- Every refinement that succeeds was drafted and put down. -/
lemma exists_draft_of_refine_eq {label operations output : Cell}
    (h : s.refine p label operations output = (s', .ok (.refined r))) :
    ∃ d, s.Drafted p label operations output d ∧ s.commit p d = (s', .ok (.refined r)) := by
  unfold refine at h
  split at h
  · cases h
  · cases h
  · rename_i d hd
    exact ⟨d, drafted_of_draft_eq hd, h⟩

/-- A draft that has been put down refines. -/
lemma Drafted.refines {label operations output : Cell} {d : Draft} (hs : s.store.Coherent)
    (hd : s.Drafted p label operations output d) (h : s.commit p d = (s', .ok (.refined r))) :
    Refines p operations s s' r d.before d.after := by
  obtain ⟨rfl, hsource, houtput, hoperations, hrowsBefore, hrowsAfter, hcolumnsBefore, hcolumnsAfter⟩ :=
    commit_eq h
  have hcolumns := hd.columnsBefore_eq.symm.trans (hs.columnCount_eq (Store.get_eq_ok_iff.mp hd.before_eq))
  obtain ⟨parsed, hparsed, -, hafter⟩ := hd.after_eq
  constructor
  case get_source => exact hsource ▸ hd.before_eq
  case get_output => exact houtput ▸ Store.get_put_self ..
  case refine_eq => rw [refine_listOfCell hparsed, hafter]
  case rowsBefore_eq => exact hrowsBefore
  case rowsAfter_eq => exact hrowsAfter
  case columnsBefore_eq => exact hcolumnsBefore.trans (Except.ok.inj hcolumns)
  case columnsAfter_eq => exact hcolumnsAfter
  case current_eq => rw [houtput]
  case history_eq => rw [hsource, houtput, hoperations]
  case get_other => exact fun name hne => Store.get_put_of_ne _ _ _ _ (houtput ▸ hne)
  case info_other => exact fun name hne => Store.info_put_of_ne _ _ _ _ (houtput ▸ hne)

/-- An output without a label of its own is not put in place of the source. -/
lemma Drafted.output_ne_source {label operations : Cell} {d : Draft} (hs : s.store.Plain)
    (hd : s.Drafted p label operations (.text "") d) : d.output ≠ d.source := by
  obtain ⟨name, hname, houtput⟩ := hd.output_eq
  have e : name = d.source ++ "_refined" := (Except.ok.inj hname).symm
  rw [houtput, e]
  -- The suffix brings letters of its own, so the name made from both is longer.
  exact TableName.ofLabel_append_ne (hs _ hd.contains_source) (by decide)

/-- A refinement that succeeds stores under the name of the output what the operations make of the
source, and changes no other table; the source neither, if no name is given for the output. -/
theorem refines_of_answer_eq {allowed : Request → Prop} (hs : Reachable p allowed s) {label output : String}
    {operations : Cell}
    (h : s.answer p (.refine (.text label) operations (.text output)) = (s', .ok (.refined r))) :
    ∃ before after, Refines p operations s s' r before after ∧
      (output = "" → r.output ≠ r.source ∧ s'.store.get r.source = .ok before) := by
  obtain ⟨d, hd, hcommit⟩ := exists_draft_of_refine_eq h
  have hrefines := hd.refines hs.coherent hcommit
  refine ⟨d.before, d.after, hrefines, ?_⟩
  rintro rfl
  obtain ⟨-, hsource, houtput, -⟩ := commit_eq hcommit
  have hne : r.output ≠ r.source := by
    rw [hsource, houtput]
    exact hd.output_ne_source hs.plain
  refine ⟨hne, ?_⟩
  rw [hrefines.get_other _ hne.symm, hrefines.get_source]

/-- Rows and columns exchanged, after a table was registered. -/
theorem refines_of_answer_eq_transpose :
    ∃ s' r before after,
      (empty.answer ⟨.columnar, .strict⟩
          (.register (.text "Sales") (.list [.list [.int 1, .null], .list [.int 2]]))).1.answer ⟨.columnar, .strict⟩
        (.refine (.text "Sales") (.record [("operation", .text "transpose")]) (.text "")) =
          (s', .ok (.refined r)) ∧
      Refines ⟨.columnar, .strict⟩ (.record [("operation", .text "transpose")])
        (empty.answer ⟨.columnar, .strict⟩
          (.register (.text "Sales") (.list [.list [.int 1, .null], .list [.int 2]]))).1 s' r before after ∧
      r.output ≠ r.source := by
  have hs : Reachable ⟨.columnar, .strict⟩ (fun _ => True)
      (empty.answer ⟨.columnar, .strict⟩
        (.register (.text "Sales") (.list [.list [.int 1, .null], .list [.int 2]]))).1 :=
    .step .start trivial
  obtain ⟨before, after, h, hne⟩ :=
    @refines_of_answer_eq _ _ _ _ _ hs "Sales" "" (.record [("operation", .text "transpose")]) rfl
  exact ⟨_, _, before, after, rfl, h, (hne rfl).1⟩

end Tabular.Session
