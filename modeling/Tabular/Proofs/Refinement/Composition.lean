import Tabular.Proofs.Cell.Writable
import Tabular.Proofs.Refinement.Parsing

/-!
# Refinements one after the other

To refine by two lists of steps is to refine by the first and then, from its table on, by the second
(`refine_append`): the table between them needs no check, and the steps of the second list count on from
those of the first (`RefinementError.behind`). A refinement fails at the first step that fails
(`refineFrom_eq_error_iff`). Whoever listens to a refinement hears once how it ended, and nothing else
(`refineTelling_eq`), unless it ends at a step whose name cannot be written (`refine_eq_error_unnamed_iff`).
-/

namespace Tabular

/-- The error of a refinement whose steps come behind others. -/
def RefinementError.behind (n : Nat) : RefinementError → RefinementError
  | shape error => .shape error
  | step index name error => .step (index + n) name error
  | unnamed error => .unnamed error

variable {iso : Calendar.IsoRule} {s : Step} {steps : List Step} {t u : Table} {c : Cell} {k : Nat}
  {e : RefinementError} {error : StepError} {x : Integer.TooLong}

namespace Step

/-- The failure of a step behind others. -/
lemma failure_add (n : Nat) : s.failure (k + n) error = (s.failure k error).behind n := by
  unfold failure
  cases s.name with
  | ok name => rfl
  | error x => rfl

/-- A failing step is told by its index and its name, if that can be written. -/
lemma failure_of_name {name : String} (h : s.name = .ok name) : s.failure k error = .step k name error := by
  rw [failure, h]

/-- Where the name of a failing step cannot be written, the failure is that. -/
lemma failure_eq_unnamed_iff : s.failure k error = .unnamed x ↔ s.name = .error x := by
  unfold failure
  cases s.name with
  | ok name => exact ⟨nofun, nofun⟩
  | error x' => simp

/-- A step without a name that can be written is a record that gives a number of too many digits, or a cell
that holds one, as its name. -/
lemma name_eq_error_iff : s.name = .error x ↔ ∃ fields name, s = .raw (.record fields) ∧
    Operation.nameField? fields = some name ∧ name.isWritable = false := by
  cases s with
  | parsed o => exact ⟨nofun, nofun⟩
  | raw c =>
    cases c with
    | record fields =>
      show (Operation.nameField? fields).elim (.ok "?") Cell.shown = _ ↔ _
      cases hname : Operation.nameField? fields with
      | none => simp [hname]
      | some name => simp [hname, Cell.shown_eq_error_iff]
    | null | bool | int | float | text | list => exact ⟨nofun, nofun⟩

/-- A step without a name that can be written fails, since it cannot be read. -/
lemma exists_run_eq_error (iso : Calendar.IsoRule) (h : s.name = .error x) (t : Table) :
    ∃ error, s.run iso t = .error error := by
  cases hs : s.operation with
  | ok o =>
    rw [name_of_operation hs] at h
    cases h
  | error e =>
    rw [run, hs]
    exact ⟨.operation e, rfl⟩

end Step

/-- The index of the first step shows in errors only. -/
lemma refineFrom_add (n : Nat) :
    refineFrom iso (k + n) steps t = (refineFrom iso k steps t).mapError (.behind n) := by
  induction steps generalizing k t with
  | nil => rfl
  | cons s steps ih =>
    simp only [refineFrom]
    cases s.run iso t with
    | error e => exact congrArg Except.error (Step.failure_add n)
    | ok u =>
      show refineFrom iso (k + n + 1) steps u = (refineFrom iso (k + 1) steps u).mapError (.behind n)
      rw [← ih]
      congr 1
      omega

/-- Steps behind others go on from the table and from the index that these have left. -/
lemma refineFrom_append (as bs : List Step) :
    refineFrom iso k (as ++ bs) t = refineFrom iso k as t >>= refineFrom iso (k + as.length) bs := by
  induction as generalizing k t with
  | nil => rfl
  | cons s as ih =>
    simp only [List.cons_append, refineFrom]
    cases s.run iso t with
    | error e => rfl
    | ok u =>
      show refineFrom iso (k + 1) (as ++ bs) u =
        refineFrom iso (k + 1) as u >>= refineFrom iso (k + (as.length + 1)) bs
      rw [ih]
      congr 2
      omega

/-- A table needs no check. -/
lemma refine_toCell (steps : List Step) (t : Table) : refine iso steps t.toCell = refineFrom iso 0 steps t := by
  rw [refine, Table.ofCell_toCell]
  rfl

/-- A refinement by two lists is one by the first and then one by the second. -/
lemma refine_append (as bs : List Step) (c : Cell) :
    refine iso (as ++ bs) c =
      refine iso as c >>= fun t => (refine iso bs t.toCell).mapError (.behind as.length) := by
  have append : ∀ t, refineFrom iso 0 (as ++ bs) t =
      refineFrom iso 0 as t >>= refineFrom iso (0 + as.length) bs :=
    fun t => refineFrom_append as bs
  have behind : ∀ t, refineFrom iso (0 + as.length) bs t =
      (refine iso bs t.toCell).mapError (.behind as.length) := by
    intro t
    rw [refine_toCell, refineFrom_add]
  calc refine iso (as ++ bs) c
      = (Table.ofCell c).mapError .shape >>= refineFrom iso 0 (as ++ bs) := rfl
    _ = refine iso as c >>= refineFrom iso (0 + as.length) bs := by
      rw [funext append, ← bind_assoc, refine]
    _ = refine iso as c >>= fun t => (refine iso bs t.toCell).mapError (.behind as.length) := by
      rw [funext behind]

/-- A refinement fails at the first step that fails. -/
lemma refineFrom_eq_error_iff : refineFrom iso k steps t = .error e ↔
    ∃ before s later u error, steps = before ++ s :: later ∧ refineFrom iso k before t = .ok u ∧
      s.run iso u = .error error ∧ e = s.failure (k + before.length) error := by
  constructor
  · intro h
    induction steps generalizing k t with
    | nil => cases h
    | cons s steps ih =>
      rcases mapError_bind_eq_error_iff.mp h with ⟨error, hs, rfl⟩ | ⟨u, hs, h⟩
      · exact ⟨[], s, steps, t, error, rfl, rfl, hs, rfl⟩
      · obtain ⟨before, s', later, v, error, rfl, hbefore, hs', rfl⟩ := ih h
        refine ⟨s :: before, s', later, v, error, rfl, ?_, hs', ?_⟩
        · rw [refineFrom, hs]
          exact hbefore
        · rw [List.length_cons, Nat.add_right_comm, Nat.add_assoc]
  · rintro ⟨before, s, later, u, error, rfl, hbefore, hs, rfl⟩
    rw [refineFrom_append, hbefore]
    show (s.run iso u).mapError _ >>= _ = _
    rw [hs]
    rfl

/-- The failure of a refinement of a table is that of a step. -/
lemma step_or_unnamed_of_refineFrom_eq_error (h : refineFrom iso k steps t = .error e) :
    (∃ index name error, e = .step index name error) ∨ ∃ x, e = .unnamed x := by
  obtain ⟨before, s, -, -, error, -, -, -, rfl⟩ := refineFrom_eq_error_iff.mp h
  cases hname : s.name with
  | ok name => exact .inl ⟨_, name, error, Step.failure_of_name hname⟩
  | error x => exact .inr ⟨x, Step.failure_eq_unnamed_iff.mpr hname⟩

/-- A refinement cannot tell of its failure exactly if it comes to a record whose name cannot be written. -/
lemma refine_eq_error_unnamed_iff : refine iso steps c = .error (.unnamed x) ↔
    ∃ before fields later name t, steps = before ++ .raw (.record fields) :: later ∧
      refine iso before c = .ok t ∧ Operation.nameField? fields = some name ∧ name.isWritable = false := by
  constructor
  · intro h
    obtain ⟨t, ht, h⟩ := exists_of_mapError_bind_eq_error h nofun
    obtain ⟨before, s, later, u, error, rfl, hbefore, -, h⟩ := refineFrom_eq_error_iff.mp h
    obtain ⟨fields, name, rfl, hname, hlong⟩ :=
      Step.name_eq_error_iff.mp (Step.failure_eq_unnamed_iff.mp h.symm)
    refine ⟨before, fields, later, name, u, rfl, ?_, hname, hlong⟩
    rw [refine, ht]
    exact hbefore
  · rintro ⟨before, fields, later, name, t, rfl, hbefore, hname, hlong⟩
    have hs : (Step.raw (.record fields)).name = .error x :=
      Step.name_eq_error_iff.mpr ⟨fields, name, rfl, hname, hlong⟩
    obtain ⟨error, hrun⟩ := Step.exists_run_eq_error iso hs t
    have hlater : refineFrom iso 0 (.raw (.record fields) :: later) t = .error (.unnamed x) :=
      refineFrom_eq_error_iff.mpr
        ⟨[], _, later, t, error, rfl, rfl, hrun, (Step.failure_eq_unnamed_iff.mpr hs).symm⟩
    rw [refine_append, hbefore]
    show (refine iso (.raw (.record fields) :: later) t.toCell).mapError _ = _
    rw [refine_toCell, hlater]
    rfl

/-- A first step that is named by a number too long to be written is one at which the failure cannot be told. -/
lemma refine_of_not_isWritable {n : Int} (hn : Integer.isWritable n = false) (hc : Table.ofCell c = .ok t) :
    refine iso (.raw (.record [("operation", .int n)]) :: steps) c = .error (.unnamed x) := by
  have hnone : refine iso [] c = .ok t := by
    rw [refine, hc]
    rfl
  exact refine_eq_error_unnamed_iff.mpr ⟨[], _, steps, .int n, t, rfl, hnone, rfl, hn⟩

section Listeners

variable {m : Type → Type} [Monad m] [MonadExceptOf Raised m]

/-- Tells the listeners of an outcome, or raises the failure that cannot be told. -/
def Listeners.tell (l : Listeners m) : Except RefinementError Table → m (Option Table)
  | .ok t => do
    l.succeed t
    return some t
  | .error (.unnamed x) => throw (.tooLong x)
  | .error e => do
    l.fail e.message
    return none

/-- Listeners to a run are told its outcome, once. -/
lemma refineFromTelling_eq (l : Listeners m) :
    refineFromTelling iso l k steps t = l.tell (refineFrom iso k steps t) := by
  induction steps generalizing k t with
  | nil => rfl
  | cons s steps ih =>
    simp only [refineFromTelling, refineFrom]
    cases s.run iso t with
    | ok u => exact ih
    | error e =>
      show _ = l.tell (.error (s.failure k e))
      unfold Step.failure
      cases s.name with
      | ok name => rfl
      | error x => rfl

/-- The listeners of a refinement are told its outcome, once. -/
lemma refineTelling_eq (l : Listeners m) (steps : List Step) (c : Cell) :
    refineTelling iso l steps c = l.tell (refine iso steps c) := by
  rw [refineTelling, refine]
  cases Table.ofCell c with
  | error e => rfl
  | ok t => exact refineFromTelling_eq l

/-- A failure that has a message is told by that message. -/
lemma Listeners.tell_error (l : Listeners m) (h : ∀ x, e ≠ .unnamed x) :
    l.tell (.error e) = do
      l.fail e.message
      return none := by
  cases e with
  | unnamed x => exact absurd rfl (h x)
  | shape | step => rfl

end Listeners

/-- The ways in which a refinement ends: with a table, with a failure that has a message, or with one that
cannot be told. -/
lemma refine_cases (iso : Calendar.IsoRule) (steps : List Step) (c : Cell) :
    (∃ t, refine iso steps c = .ok t) ∨
    (∃ e, refine iso steps c = .error e ∧ ∀ x, e ≠ .unnamed x) ∨
    ∃ x, refine iso steps c = .error (.unnamed x) := by
  cases refine iso steps c with
  | ok t => exact .inl ⟨t, rfl⟩
  | error e =>
    cases e with
    | unnamed x => exact .inr (.inr ⟨x, rfl⟩)
    | shape | step => exact .inr (.inl ⟨_, rfl, nofun⟩)

/-- A refinement by two lists of steps fails like that by the first; else it has the outcome of the
second on the table between them, but for the index of a failing step. Whoever listens to a refinement is
told its outcome once, a table or a message, and a message that nobody listens for is raised. Only where the
run comes to a record whose name holds a number that is too long to be written is nobody told, and another
error raised. -/
theorem refine_append_and_tells (iso : Calendar.IsoRule) (as bs : List Step) (c : Cell) :
    (∀ e, refine iso as c = .error e → refine iso (as ++ bs) c = .error e) ∧
    (∀ t, refine iso as c = .ok t →
      (∀ u, refine iso (as ++ bs) c = .ok u ↔ refine iso bs t.toCell = .ok u) ∧
      ∀ e, refine iso bs t.toCell = .error e →
        (∃ j name error, e = .step j name error ∧
          refine iso (as ++ bs) c = .error (.step (j + as.length) name error)) ∨
        ∃ x, e = .unnamed x ∧ refine iso (as ++ bs) c = .error (.unnamed x)) ∧
    (∀ steps c x, refine iso steps c = .error (.unnamed x) ↔
      ∃ before fields later name t, steps = before ++ .raw (.record fields) :: later ∧
        refine iso before c = .ok t ∧ Operation.nameField? fields = some name ∧ name.isWritable = false) ∧
    ∀ steps c,
      ((∃ t, refine iso steps c = .ok t ∧
          (∀ failure, (refineTelling iso (.recording true failure) steps c).run.run ⟨[], []⟩ =
            (.ok (some t), ⟨[t], []⟩)) ∧
          ∀ {m : Type → Type} [Monad m] [MonadExceptOf Raised m] (l : Listeners m),
            refineTelling iso l steps c = do l.succeed t; return some t) ∨
        (∃ e, refine iso steps c = .error e ∧ (∀ x, e ≠ .unnamed x) ∧
          (∀ success, (refineTelling iso (.recording success true) steps c).run.run ⟨[], []⟩ =
            (.ok none, ⟨[], [e.message]⟩)) ∧
          (∀ success, (refineTelling iso (.recording success false) steps c).run.run ⟨[], []⟩ =
            (.error (.refused e.message), ⟨[], []⟩)) ∧
          ∀ {m : Type → Type} [Monad m] [MonadExceptOf Raised m] (l : Listeners m),
            refineTelling iso l steps c = do l.fail e.message; return none) ∨
        ∃ x, refine iso steps c = .error (.unnamed x) ∧
          (∀ success failure, (refineTelling iso (.recording success failure) steps c).run.run ⟨[], []⟩ =
            (.error (.tooLong x), ⟨[], []⟩)) ∧
          ∀ {m : Type → Type} [Monad m] [MonadExceptOf Raised m] (l : Listeners m),
            refineTelling iso l steps c = throw (.tooLong x)) := by
  refine ⟨?failed, ?succeeded, fun steps c x => refine_eq_error_unnamed_iff, ?told⟩
  case failed =>
    intro e h
    rw [refine_append, h]
    rfl
  case succeeded =>
    intro t h
    have happend : refine iso (as ++ bs) c = (refine iso bs t.toCell).mapError (.behind as.length) := by
      rw [refine_append, h]
      rfl
    refine ⟨fun u => by rw [happend, mapError_eq_ok_iff], fun e he => ?_⟩
    rw [happend, he]
    rw [refine_toCell] at he
    rcases step_or_unnamed_of_refineFrom_eq_error he with ⟨j, name, error, rfl⟩ | ⟨x, rfl⟩
    · exact .inl ⟨j, name, error, rfl, rfl⟩
    · exact .inr ⟨x, rfl, rfl⟩
  case told =>
    intro steps c
    rcases refine_cases iso steps c with ⟨t, h⟩ | ⟨e, h, he⟩ | ⟨x, h⟩
    · refine .inl ⟨t, h, fun failure => ?_, fun l => ?_⟩
      · rw [refineTelling_eq, h]
        rfl
      · rw [refineTelling_eq, h]
        rfl
    · refine .inr (.inl ⟨e, h, he, fun success => ?_, fun success => ?_, fun l => ?_⟩)
      · rw [refineTelling_eq, h, Listeners.tell_error _ he]
        rfl
      · rw [refineTelling_eq, h, Listeners.tell_error _ he]
        rfl
      · rw [refineTelling_eq, h, Listeners.tell_error _ he]
    · refine .inr (.inr ⟨x, h, fun success failure => ?_, fun l => ?_⟩)
      · rw [refineTelling_eq, h]
        rfl
      · rw [refineTelling_eq, h]
        rfl

/-- A step is named by a number that is too long to be written: neither of the listeners is told how the
refinement ends, and if nobody listens for a failure, something else is raised than its message. -/
theorem refineTelling_long_name :
    (refineTelling .strict (.recording true true) [.raw (.record [("operation", .int (10 ^ Integer.maxDigits))])]
        (.list [.list [.text "a"]])).run.run ⟨[], []⟩ = (.error (.tooLong ⟨⟩), ⟨[], []⟩) ∧
    ¬ ∃ message,
      ((refineTelling .strict (.recording true false)
        [.raw (.record [("operation", .int (10 ^ Integer.maxDigits))])]
        (.list [.list [.text "a"]])).run.run ⟨[], []⟩).1 = .error (.refused message) := by
  have hunnamed : refine .strict [.raw (.record [("operation", .int (10 ^ Integer.maxDigits))])]
      (.list [.list [.text "a"]]) = .error (.unnamed ⟨⟩) :=
    refine_of_not_isWritable Integer.not_isWritable_pow rfl
  constructor
  · rw [refineTelling_eq, hunnamed]
    rfl
  · rw [refineTelling_eq, hunnamed]
    exact fun ⟨_, h⟩ => nomatch h

/-- An operation that there is not, behind and before an exchange of rows and columns. -/
theorem refine_append_and_tells_unknown_name :
    refine .strict
        ([.raw (.record [("operation", .text "transpose")])] ++ [.raw (.record [("name", .text "sort")])])
        (.list [.list [.int 1, .int 2]]) =
      .error (.step 1 "sort" (.operation (.unknownName "sort"))) ∧
    refine .strict
        ([.raw (.record [("name", .text "sort")])] ++ [.raw (.record [("operation", .text "transpose")])])
        (.list [.list [.int 1, .int 2]]) =
      .error (.step 0 "sort" (.operation (.unknownName "sort"))) ∧
    (refineTelling .strict (.recording true false) [.raw (.record [("name", .text "sort")])]
        (.list [.list [.int 1, .int 2]])).run.run ⟨[], []⟩ =
      (.error (.refused (RefinementError.step 0 "sort" (.operation (.unknownName "sort"))).message),
        ⟨[], []⟩) := by
  have hbehind := (refine_append_and_tells .strict [.raw (.record [("operation", .text "transpose")])]
    [.raw (.record [("name", .text "sort")])] (.list [.list [.int 1, .int 2]])).2.1
      [[.int 1], [.int 2]] rfl
  have hbefore := refine_append_and_tells .strict [.raw (.record [("name", .text "sort")])]
    [.raw (.record [("operation", .text "transpose")])] (.list [.list [.int 1, .int 2]])
  refine ⟨?_, hbefore.1 _ rfl, ?_⟩
  · rcases hbehind.2 (.step 0 "sort" (.operation (.unknownName "sort"))) rfl with ⟨j, name, error, e, h⟩ | ⟨x, e, -⟩
    · cases e
      exact h
    · cases e
  · rcases hbefore.2.2.2 [.raw (.record [("name", .text "sort")])] (.list [.list [.int 1, .int 2]]) with
      ⟨t, h, -⟩ | ⟨e, h, -, -, hraised, -⟩ | ⟨x, h, -⟩
    · cases h
    · cases h
      exact hraised true
    · cases h

end Tabular
