import Tabular.Proofs.Operation.Writable
import Tabular.Proofs.Refinement.Parsing
import Tabular.Proofs.Store.Coherent
import Tabular.Proofs.TableName

/-!
# Runs of sessions

What a request does to a session, told once for all requests: nothing, or one table is put under a name
made from a label, and it may be noted as the current one and in the history. What every such put preserves
then holds in every session that requests can lead to.

* `Reachable`: the sessions that requests of a kind lead to.
* `Effect`: what a request can do.
* `effect_answer`: and that it does nothing else.
* `Reachable.store_induction`: what every put preserves holds of all stores.
-/

namespace Tabular

namespace Store

/-- All names are made of characters that names keep. -/
def Plain (s : Store) : Prop :=
  ∀ name, s.contains name = true → TableName.Plain name.toList

/-- All cells of all tables can be written. -/
def Writable (s : Store) : Prop :=
  ∀ name rows, s.tables.find? name = some rows → rows.Writable

/-- A put under the name of a label leaves all names plain. -/
lemma Plain.put {s : Store} (h : s.Plain) (label : String) (rows : Table) (source : String)
    (operations : List String) : (s.put (TableName.ofLabel label) rows source operations).Plain := by
  intro name hname
  by_cases e : name = TableName.ofLabel label
  · subst e
    exact TableName.plain_ofLabel label
  · refine h name ?_
    rwa [contains, Store.put, Directory.contains, Directory.find?_put_of_ne _ _ e] at hname

/-- A put of a table that can be written leaves all tables so. -/
lemma Writable.put {s : Store} (h : s.Writable) (name : String) {rows : Table} (hrows : rows.Writable)
    (source : String) (operations : List String) : (s.put name rows source operations).Writable := by
  intro other rows' hget
  by_cases e : other = name
  · subst e
    rw [Store.put, Directory.find?_put_self] at hget
    cases hget
    exact hrows
  · rw [Store.put, Directory.find?_put_of_ne _ _ e] at hget
    exact h other rows' hget

end Store

namespace Session

/-- All cells of a request can be written. -/
def Request.Writable : Request → Prop
  | register label rows => label.isWritable = true ∧ rows.isWritable = true
  | refine label operations output =>
    label.isWritable = true ∧ operations.isWritable = true ∧ output.isWritable = true
  | sample label limit => label.isWritable = true ∧ limit.isWritable = true
  | list => True

/-- The sessions that requests of some kind lead to. -/
inductive Reachable (p : Platform) (allowed : Request → Prop) : Session → Prop where
  | start : Reachable p allowed empty
  | step {s : Session} {r : Request} : Reachable p allowed s → allowed r → Reachable p allowed (s.answer p r).1

variable {p : Platform} {s : Session}

/-- What is known of a refinement that was carried out. -/
structure Drafted (p : Platform) (s : Session) (label operations output : Cell) (d : Draft) : Prop where
  source_eq : ∃ name, nameOf label = .ok name ∧ d.source = s.resolve name
  before_eq : s.store.get d.source = .ok d.before
  columnsBefore_eq : s.store.columnCount d.source = .ok d.columnsBefore
  output_eq : ∃ name, outputLabel d.source output = .ok name ∧ d.output = TableName.ofLabel name
  after_eq : ∃ parsed, Operation.listOfCell operations = .ok parsed ∧
    d.operations = parsed.map (·.kind.name) ∧
    Tabular.refine p.iso (parsed.map .parsed) d.before.toCell = .ok d.after

/-- A draft tells all that it was made from. -/
lemma drafted_of_draft_eq {label operations output : Cell} {d : Draft}
    (h : s.draft p label operations output = .ok d) : s.Drafted p label operations output d := by
  obtain ⟨name, hname, h⟩ := bind_eq_ok_iff.mp h
  dsimp only at h
  split at h
  · obtain ⟨parsed, hparsed, h⟩ := bind_eq_ok_iff.mp h
    obtain ⟨before, hbefore, h⟩ := bind_eq_ok_iff.mp h
    obtain ⟨columns, hcolumns, h⟩ := bind_eq_ok_iff.mp h
    obtain ⟨after, hafter, h⟩ := bind_eq_ok_iff.mp h
    obtain ⟨out, hout, h⟩ := bind_eq_ok_iff.mp h
    cases h
    rw [mapError_eq_ok_iff] at hname hparsed hbefore hcolumns hafter hout
    exact ⟨⟨name, hname, rfl⟩, hbefore, hcolumns, ⟨out, hout, rfl⟩, ⟨parsed, hparsed, rfl, hafter⟩⟩
  · cases h

/-- What a refinement makes of tables that can be written can be written. -/
lemma Drafted.writable_after {label operations output : Cell} {d : Draft}
    (h : s.Drafted p label operations output d) (hs : s.store.Writable)
    (ho : operations.isWritable = true) : d.after.Writable := by
  obtain ⟨parsed, hparsed, -, hafter⟩ := h.after_eq
  rw [Tabular.refine, Table.ofCell_toCell] at hafter
  exact writable_of_refineFrom (hs _ _ (Store.get_eq_ok_iff.mp h.before_eq))
    (Operation.writable_of_listOfCell ho hparsed) hafter

/-- Rows that are given in a cell that can be written can be written. -/
lemma writable_of_rowsOf? {c : Cell} {rows : Table} (hc : c.isWritable = true) (h : rowsOf? c = some rows) :
    rows.Writable := by
  refine Table.writable_of_ofCell hc ?_
  unfold rowsOf? at h
  cases e : Table.ofCell c with
  | error _ =>
    rw [e] at h
    cases h
  | ok rows' =>
    rw [e] at h
    cases h
    rfl

/-- A draft was made from a stored table. -/
lemma Drafted.contains_source {label operations output : Cell} {d : Draft}
    (h : s.Drafted p label operations output d) : s.store.contains d.source = true :=
  Store.contains_iff.mpr ⟨d.before, Store.get_eq_ok_iff.mp h.before_eq⟩

/-- A request with its reply: whether it is a refinement that was carried out. -/
def isCarriedOut : Request × Except RequestError Reply → Bool
  | (.refine .., .ok (.refined _)) => true
  | _ => false

/-- What a request can do to a session, and whether a refinement is carried out by that. -/
inductive Effect (p : Platform) (s : Session) : Request → Session → Bool → Prop where
  | nothing {r} : Effect p s r s false
  | registered {label rows name t} : nameOf label = .ok name → rowsOf? rows = some t →
    Effect p s (.register label rows)
      ⟨s.store.put (TableName.ofLabel name) t "" [], some (TableName.ofLabel name), s.history⟩ false
  /-- The output was stored, and then its preview failed. -/
  | stored {label operations output d} : s.Drafted p label operations output d →
    Effect p s (.refine label operations output)
      ⟨s.store.put d.output d.after d.source d.operations, s.current, s.history⟩ false
  | refined {label operations output d} : s.Drafted p label operations output d →
    Effect p s (.refine label operations output)
      ⟨s.store.put d.output d.after d.source d.operations, some d.output,
        s.history ++ [⟨d.source, d.output, d.operations⟩]⟩ true

/-- What a registration does to a session. -/
lemma effect_register (label rows : Cell) : Effect p s (.register label rows) (s.register p label rows).1 false := by
  unfold register
  split
  · exact .nothing
  · rename_i rows' hrows
    split
    · exact .nothing
    · rename_i name hname
      exact .registered hname hrows

/-- What storing a draft does to a session. -/
lemma effect_commit {label operations output : Cell} {d : Draft} (h : s.Drafted p label operations output d) :
    Effect p s (.refine label operations output) (s.commit p d).1
      (isCarriedOut (.refine label operations output, (s.commit p d).2)) := by
  unfold commit
  cases previewOf p previewLength d.after with
  | error e => exact .stored h
  | ok preview => exact .refined h

/-- What a refinement does to a session. -/
lemma effect_refine (label operations output : Cell) :
    Effect p s (.refine label operations output) (s.refine p label operations output).1
      (isCarriedOut (.refine label operations output, (s.refine p label operations output).2)) := by
  unfold refine
  cases hdraft : s.draft p label operations output with
  | error refusal =>
    cases refusal with
    | answer message name => exact .nothing
    | error e => exact .nothing
  | ok d => exact effect_commit (drafted_of_draft_eq hdraft)

/-- What a request does to a session, whichever it is. -/
lemma effect_answer (p : Platform) (s : Session) (r : Request) :
    Effect p s r (s.answer p r).1 (isCarriedOut (r, (s.answer p r).2)) := by
  cases r with
  | register label rows => exact effect_register label rows
  | refine label operations output => exact effect_refine label operations output
  | sample label limit => exact .nothing
  | list => exact .nothing

/-- The output of a draft is put under a name made from a label. -/
lemma Drafted.exists_put {label operations output : Cell} {d : Draft}
    (h : s.Drafted p label operations output d) :
    ∃ name rows source names,
      s.store.put d.output d.after d.source d.operations =
        s.store.put (TableName.ofLabel name) rows source names ∧
      (s.store.Writable → (Request.refine label operations output).Writable → rows.Writable) := by
  obtain ⟨name, -, hout⟩ := h.output_eq
  refine ⟨name, d.after, d.source, d.operations, by rw [hout], ?_⟩
  intro hs hr
  exact h.writable_after hs hr.2.1

/-- A request leaves the store as it is, or puts one table into it under a name made from a label. -/
lemma Effect.store_eq {r : Request} {s' : Session} {carriedOut : Bool} (h : Effect p s r s' carriedOut) :
    s'.store = s.store ∨
      ∃ label rows source operations,
        s'.store = s.store.put (TableName.ofLabel label) rows source operations ∧
          (s.store.Writable → r.Writable → rows.Writable) := by
  cases h with
  | nothing => exact .inl rfl
  | registered hname hrows =>
    exact .inr ⟨_, _, _, _, rfl, fun _ hr => writable_of_rowsOf? hr.2 hrows⟩
  | stored hd => exact .inr hd.exists_put
  | refined hd => exact .inr hd.exists_put

variable {allowed : Request → Prop}

/-- What holds of the empty store and is preserved by the puts of requests holds of the stores of all
reachable sessions. -/
@[elab_as_elim]
lemma Reachable.store_induction {motive : Store → Prop} (h : Reachable p allowed s) (empty : motive .empty)
    (put : ∀ {store : Store} {r : Request} {label rows source operations}, motive store → allowed r →
      (store.Writable → r.Writable → rows.Writable) →
        motive (store.put (TableName.ofLabel label) rows source operations)) : motive s.store := by
  induction h with
  | start => exact empty
  | @step s r _ hr ih =>
    rcases (effect_answer p s r).store_eq with e | ⟨label, rows, source, operations, e, hrows⟩
    · rwa [e]
    · rw [e]
      exact put ih hr hrows

/-- In a reachable session tables and notes agree. -/
theorem Reachable.coherent (h : Reachable p allowed s) : s.store.Coherent :=
  h.store_induction Store.coherent_empty fun ih _ _ => ih.put _ _ _ _

/-- In a reachable session all names are plain. -/
theorem Reachable.plain (h : Reachable p allowed s) : s.store.Plain :=
  h.store_induction nofun fun ih _ _ => ih.put _ _ _ _

end Session

end Tabular
