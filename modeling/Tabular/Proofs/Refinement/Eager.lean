import Tabular.Proofs.Refinement.Composition

/-!
# Reading all operations first

A refinement reads each step when its turn comes. Reading all steps before the first of them is run gives
the same refinement if all can be read. If one cannot, the refinement fails too, at the latest at the first
step that cannot be read, and there with the same message. Where the name of that step cannot be written, the
message is all that is said.

* `refine_of_operation_eq_error`: a refinement with a step that cannot be read.
* `Step.operation_of_name_eq_error`: a step whose name cannot be written is one.
* `refine_parsed_eq_and_fails_at`: both ways of reading side by side.
-/

namespace Tabular

variable {iso : Calendar.IsoRule} {before later steps : List Step} {s : Step} {operations : List Operation}
  {e : OperationError} {t u : Table} {rows : Cell} {k : Nat} {x : Integer.TooLong}

/-- Operations that have been read refine a table as they apply to it one after the other. -/
lemma refineFrom_parsed_eq_ok_iff : refineFrom iso k (operations.map .parsed) t = .ok u ↔
    operations.foldlM (Operation.apply iso) t = .ok u := by
  induction operations generalizing k t with
  | nil =>
    rw [List.foldlM_nil]
    exact ⟨fun h => by cases h; rfl, fun h => by cases h; rfl⟩
  | cons o operations ih =>
    have hrun : (Step.parsed o).run iso t = (o.apply iso t).mapError .date := Step.run_of_operation rfl t
    simp only [List.map_cons, refineFrom, List.foldlM_cons, bind_eq_ok_iff, hrun, mapError_eq_ok_iff, ih]

/-- A step whose name cannot be written cannot be read either, and for the same reason. -/
lemma Step.operation_of_name_eq_error (h : s.name = .error x) : s.operation = .error (.longName x) := by
  obtain ⟨fields, name, rfl, hname, hlong⟩ := Step.name_eq_error_iff.mp h
  have hunknown : OperationError.ofUnknown name = .longName x := by
    rw [OperationError.ofUnknown, Cell.shown_eq_error_iff.mpr hlong]
  show Operation.ofFields fields = _
  simp only [Operation.ofFields, hname, Option.getD_some, Cell.truthy_of_not_isWritable hlong, Bool.not_true,
    Bool.false_eq_true, if_false]
  cases name with
  | text s => cases hlong
  | null | bool | int | float | list | record => exact congrArg Except.error hunknown

/-- Before a step that cannot be read, all steps read the same; it is reached if these succeed. -/
lemma refine_of_operation_eq_error (h : s.operation = .error e) :
    refine iso (before ++ s :: later) rows =
      refine iso before rows >>= fun _ => .error (s.failure before.length (.operation e)) := by
  have first : ∀ t : Table, (refine iso (s :: later) t.toCell).mapError (RefinementError.behind before.length) =
      Except.error (s.failure before.length (.operation e)) := by
    intro t
    rw [refine_toCell, refineFrom, Step.run, h]
    show Except.error ((s.failure 0 (.operation e)).behind before.length) = _
    rw [← Step.failure_add, Nat.zero_add]
  rw [refine_append, funext first]

/-- A refinement with a step that cannot be read fails, there or before. -/
lemma exists_refine_eq_error (h : s.operation = .error e) :
    ∃ e', refine iso (before ++ s :: later) rows = .error e' := by
  rw [refine_of_operation_eq_error h]
  cases refine iso before rows with
  | error e' => exact ⟨e', rfl⟩
  | ok t => exact ⟨_, rfl⟩

/-- If all steps before it apply, a step that cannot be read is the one at which a refinement fails. -/
lemma refine_eq_error_of_apply (hrows : Table.ofCell rows = .ok t)
    (hbefore : before.mapM Step.operation = .ok operations)
    (happly : operations.foldlM (Operation.apply iso) t = .ok u) (h : s.operation = .error e) :
    refine iso (before ++ s :: later) rows = .error (s.failure before.length (.operation e)) := by
  have hreached : refine iso before rows = .ok u := by
    rw [refine, hrows, ← refineFrom_parsed_eq_ok_iff.mpr happly, ← refineFrom_of_operations hbefore]
    rfl
  rw [refine_of_operation_eq_error h, hreached]
  rfl

/-- Reading all steps of a refinement before running them gives the same outcome where all can be read;
and where one cannot, the refinement fails, and says the same of that step once those before it apply. It does
so by the index and the name of the step, unless the name cannot be written: then that is all that both say. -/
theorem refine_parsed_eq_and_fails_at (iso : Calendar.IsoRule) (steps : List Step) (rows : Cell) :
    (∀ c, Operation.listOfCell c = (Step.listOfCell c).mapM Step.operation) ∧
    (∀ operations, steps.mapM Step.operation = .ok operations →
      refine iso (operations.map .parsed) rows = refine iso steps rows) ∧
    ∀ e, steps.mapM Step.operation = .error e →
      (∃ e', refine iso steps rows = .error e') ∧
      ∃ before s later operations, steps = before ++ s :: later ∧
        before.mapM Step.operation = .ok operations ∧ s.operation = .error e ∧
        ∀ t u, Table.ofCell rows = .ok t → operations.foldlM (Operation.apply iso) t = .ok u →
          (∀ name, s.name = .ok name → ∃ e', refine iso steps rows = .error e' ∧
            e'.message = "Operation " ++ Integer.toText before.length ++ " (" ++ name ++ ") failed: " ++
              e.message) ∧
          (∀ fields name, s = .raw (.record fields) → Operation.nameField? fields = some name →
            name.isWritable = false →
            ∃ x, e = .longName x ∧ refine iso steps rows = .error (.unnamed x) ∧
              (RefinementError.unnamed x).message = e.message) ∧
          ((∃ name, s.name = .ok name) ∨ ∃ fields name, s = .raw (.record fields) ∧
            Operation.nameField? fields = some name ∧ name.isWritable = false) := by
  refine ⟨Operation.listOfCell_eq, ?read, ?unread⟩
  case read =>
    intro operations h
    exact (refine_of_operations h rows).symm
  case unread =>
    intro e h
    obtain ⟨before, s, later, operations, rfl, hbefore, hs⟩ := exists_of_mapM_eq_error h
    refine ⟨exists_refine_eq_error hs, before, s, later, operations, rfl, hbefore, hs, ?_⟩
    intro t u hrows happly
    have hfailure : refine iso (before ++ s :: later) rows = .error (s.failure before.length (.operation e)) :=
      refine_eq_error_of_apply hrows hbefore happly hs
    refine ⟨fun name hname => ?named, fun fields name hfields hname hlong => ?long, ?either⟩
    case named =>
      rw [Step.failure_of_name hname] at hfailure
      exact ⟨_, hfailure, rfl⟩
    case long =>
      have hunnamed : s.name = .error ⟨⟩ := Step.name_eq_error_iff.mpr ⟨fields, name, hfields, hname, hlong⟩
      have he : e = .longName ⟨⟩ := Except.error.inj (hs.symm.trans (Step.operation_of_name_eq_error hunnamed))
      rw [Step.failure_eq_unnamed_iff.mpr hunnamed] at hfailure
      exact ⟨⟨⟩, he, hfailure, by rw [he]; rfl⟩
    case either =>
      cases hname : s.name with
      | ok name => exact .inl ⟨name, rfl⟩
      | error x => exact .inr (Step.name_eq_error_iff.mp hname)

/-- The message of a number that is too long does not look like that of a step: the first letters differ. -/
lemma Integer.TooLong.message_ne_of_step (index : Nat) {name m : String} :
    (RefinementError.unnamed x).message ≠
      "Operation " ++ Integer.toText index ++ " (" ++ name ++ ") failed: " ++ m := by
  intro h
  have hletter : x.message.toList.head? = some 'E' := by
    unfold Integer.TooLong.message
    generalize Integer.toText Integer.maxDigits = digits
    simp only [String.toList_append, List.append_assoc, List.head?_append]
    rfl
  have hstep := congrArg (fun s => s.toList.head?) h
  simp only [String.toList_append, List.append_assoc, List.head?_append] at hstep
  rw [RefinementError.message, hletter] at hstep
  cases hstep

/-- A first step that is named by a number too long to be written cannot be read, and the refinement fails
there, but its message tells neither the index of the step nor the name. -/
theorem refine_message_long_name :
    [Step.raw (.record [("operation", .int (10 ^ Integer.maxDigits))])].mapM Step.operation =
      .error (.longName ⟨⟩) ∧
    Table.ofCell (.list [.list [.text "a"]]) = .ok [[.text "a"]] ∧
    ¬ ∃ e' name, refine .strict [.raw (.record [("operation", .int (10 ^ Integer.maxDigits))])]
        (.list [.list [.text "a"]]) = .error e' ∧
      e'.message = "Operation " ++ Integer.toText 0 ++ " (" ++ name ++ ") failed: " ++
        (OperationError.longName ⟨⟩).message := by
  have hname : (Step.raw (.record [("operation", .int (10 ^ Integer.maxDigits))])).name = .error ⟨⟩ :=
    Step.name_eq_error_iff.mpr ⟨_, _, rfl, rfl, Integer.not_isWritable_pow⟩
  have hunnamed : refine .strict [.raw (.record [("operation", .int (10 ^ Integer.maxDigits))])]
      (.list [.list [.text "a"]]) = .error (.unnamed ⟨⟩) :=
    refine_of_not_isWritable Integer.not_isWritable_pow rfl
  refine ⟨by rw [List.mapM_cons, Step.operation_of_name_eq_error hname]; rfl, rfl, ?_⟩
  rintro ⟨e', name, h, hmessage⟩
  cases hunnamed.symm.trans h
  exact Integer.TooLong.message_ne_of_step 0 hmessage

/-- An exchange of rows and columns that can be read, alone and before an operation that there is not. -/
theorem refine_parsed_eq_and_fails_at_unknown_name :
    refine .strict [.parsed .transpose] (.list [.list [.int 1, .int 2]]) =
      refine .strict [.raw (.record [("operation", .text "transpose")])] (.list [.list [.int 1, .int 2]]) ∧
    ∃ e', refine .strict
        [.raw (.record [("operation", .text "transpose")]), .raw (.record [("name", .text "sort")])]
        (.list [.list [.int 1, .int 2]]) = .error e' ∧
      e'.message = "Operation 1 (sort) failed: " ++ (OperationError.unknownName "sort").message := by
  have hread := (refine_parsed_eq_and_fails_at .strict [.raw (.record [("operation", .text "transpose")])]
    (.list [.list [.int 1, .int 2]])).2.1 [.transpose] rfl
  have hunread := (refine_parsed_eq_and_fails_at .strict
    [.raw (.record [("operation", .text "transpose")]), .raw (.record [("name", .text "sort")])]
    (.list [.list [.int 1, .int 2]])).2.2 (.unknownName "sort") rfl
  obtain ⟨-, before, s, later, operations, e, hbefore, hs, h⟩ := hunread
  refine ⟨hread, ?_⟩
  -- The first step can be read and there are only two, so the second is the one that cannot.
  cases before with
  | nil =>
    cases e
    cases hs
  | cons first before =>
    cases before with
    | nil =>
      cases e
      cases hbefore
      exact (h [[.int 1, .int 2]] [[.int 1], [.int 2]] rfl rfl).1 "sort" rfl
    | cons second before =>
      have hlength := congrArg List.length e
      simp at hlength

end Tabular
