import Tabular.Proofs.Session.Refining
import Tabular.Proofs.TableName.Tidy

/-!
# Names read and names written

A name that is read is looked up as it is first, and only then as a label; a name that is written is
always taken as a label. Both agree, since the names in a store were made from labels and names are made
from themselves. The name of labels without letters and digits is not: it is found as it is, but the
name made from it is another one.

* `Named`: all names in a store were made from labels.
* `Means`: what a label means in a session.
* `resolve_eq_ofLabel`: a name that is read is the name that is written.
* `resolve_eq_ofLabel_and_means`: the same for all requests of a session.
-/

namespace Tabular

namespace Store

/-- All names were made from labels. -/
def Named (s : Store) : Prop :=
  ∀ name, s.contains name = true → ∃ label, name = TableName.ofLabel label

/-- A put adds no other name than its own. -/
lemma contains_put_of_ne {s : Store} {name other : String} (rows : Table) (source : String)
    (operations : List String) (h : other ≠ name) :
    (s.put name rows source operations).contains other = s.contains other := by
  simp only [contains, put, Directory.contains, Directory.find?_put_of_ne _ _ h]

/-- A put under the name of a label leaves all names made from labels. -/
lemma Named.put {s : Store} (h : s.Named) (label : String) (rows : Table) (source : String)
    (operations : List String) : (s.put (TableName.ofLabel label) rows source operations).Named := by
  intro name hname
  by_cases e : name = TableName.ofLabel label
  · exact ⟨label, e⟩
  · rw [contains_put_of_ne rows source operations e] at hname
    exact h name hname

end Store

namespace Session

variable {p : Platform} {s : Session} {label : String} {t : Table}

/-- In every reachable session all names were made from labels. -/
theorem Reachable.named {allowed : Request → Prop} (h : Reachable p allowed s) : s.store.Named :=
  h.store_induction nofun fun ih _ _ => ih.put _ _ _ _

/-- What a label is read as is what it is written as, unless it is itself the name of labels without
letters and digits, and in use. -/
lemma resolve_eq_ofLabel (hs : s.store.Named)
    (h : label = TableName.bare → s.store.contains TableName.bare = false) :
    s.resolve label = TableName.ofLabel label := by
  unfold resolve
  split
  · rename_i hcontains
    obtain ⟨other, rfl⟩ := hs label hcontains
    have hne : TableName.ofLabel other ≠ TableName.bare := by
      intro e
      rw [e, h e] at hcontains
      cases hcontains
    exact (TableName.ofLabel_ofLabel hne).symm
  · rfl

/-- A label means a table: it is stored under the name made from the label, and samples and refinements
of the label read it. -/
structure Means (p : Platform) (s : Session) (label : String) (t : Table) : Prop where
  get_eq : s.store.get (TableName.ofLabel label) = .ok t
  sample_eq : ∀ limit, s.sample p (.text label) limit = do
    let n ← limitOf limit
    return .sampled (TableName.ofLabel label) t.length (← previewOf p n t)
  refines : ∀ {operations output s' r},
    s.answer p (.refine (.text label) operations output) = (s', .ok (.refined r)) →
      r.source = TableName.ofLabel label ∧ ∃ after, Refines p operations s s' r t after
  found : ∀ {operations output message},
    (s.answer p (.refine (.text label) operations output)).2 ≠ .ok (.failed message none)

/-- A sample of a stored table tells its rows and shows its preview. -/
lemma sample_eq_of_get (h : s.store.get (s.resolve label) = .ok t) (limit : Cell) :
    s.sample p (.text label) limit = do
      let n ← limitOf limit
      return .sampled (s.resolve label) t.length (← previewOf p n t) := by
  have hcontains := Store.contains_iff.mpr ⟨t, Store.get_eq_ok_iff.mp h⟩
  show (if s.store.contains (s.resolve label) = true then _ else _) = _
  rw [if_pos hcontains, h]
  rfl

/-- The source of a draft is the name that the request resolves to. -/
lemma Drafted.source_eq_resolve {operations output : Cell} {d : Draft}
    (hd : s.Drafted p (.text label) operations output d) : d.source = s.resolve label := by
  obtain ⟨name, hname, e⟩ := hd.source_eq
  cases hname
  exact e

/-- A refinement is refused without a name only if its label is resolved to no table. -/
lemma not_contains_of_draft_eq {label operations output : Cell} {message : String}
    (h : s.draft p label operations output = .error (.answer message none)) :
    ∃ name, nameOf label = .ok name ∧ s.store.contains (s.resolve name) = false := by
  obtain ⟨name, hname, h⟩ := exists_of_mapError_bind_eq_error h nofun
  refine ⟨name, hname, ?_⟩
  dsimp only at h
  split at h
  · -- The errors of all later steps have a name, or are no answers.
    obtain ⟨_, -, h⟩ := exists_of_mapError_bind_eq_error h nofun
    obtain ⟨_, -, h⟩ := exists_of_mapError_bind_eq_error h nofun
    obtain ⟨_, -, h⟩ := exists_of_mapError_bind_eq_error h nofun
    obtain ⟨_, -, h⟩ := exists_of_mapError_bind_eq_error h nofun
    obtain ⟨_, -, h⟩ := exists_of_mapError_bind_eq_error h nofun
    cases h
  · rename_i hcontains
    exact Bool.not_eq_true _ ▸ hcontains

/-- To store a draft does not fail with a message. -/
lemma commit_ne_failed {d : Draft} {message : String} {name : Option String} :
    (s.commit p d).2 ≠ .ok (.failed message name) := by
  unfold commit
  cases previewOf p previewLength d.after with
  | error e => exact nofun
  | ok preview => exact nofun

/-- A label that is resolved to the name made from it means the table stored there. -/
lemma means_of_get (hs : s.store.Coherent) (hresolve : s.resolve label = TableName.ofLabel label)
    (h : s.store.get (TableName.ofLabel label) = .ok t) : s.Means p label t where
  get_eq := h
  sample_eq := by
    rw [← hresolve] at h ⊢
    exact sample_eq_of_get h
  refines := by
    intro operations output s' r hr
    obtain ⟨d, hd, hcommit⟩ := exists_draft_of_refine_eq hr
    obtain ⟨-, hsource, -⟩ := commit_eq hcommit
    have hname : d.source = TableName.ofLabel label := hd.source_eq_resolve.trans hresolve
    -- The table that the draft was made from is the one under the name.
    have hbefore : d.before = t := by
      have e := hd.before_eq
      rw [hname, h] at e
      exact (Except.ok.inj e).symm
    exact ⟨hsource.trans hname, d.after, hbefore ▸ hd.refines hs hcommit⟩
  found := by
    intro operations output message hr
    have hcontains : s.store.contains (s.resolve label) = true :=
      Store.contains_iff.mpr ⟨t, Store.get_eq_ok_iff.mp (hresolve ▸ h)⟩
    simp only [answer, refine] at hr
    split at hr
    · rename_i hd
      cases hr
      obtain ⟨name, hname, hmissing⟩ := not_contains_of_draft_eq hd
      cases hname
      rw [hcontains] at hmissing
      cases hmissing
    · cases hr
    · exact commit_ne_failed hr

/-- A registration stores its rows under the name of its label, whatever becomes of the preview. -/
lemma register_store {rows : Cell} (h : rowsOf? rows = some t) :
    (s.register p (.text label) rows).1.store = s.store.put (TableName.ofLabel label) t "" [] := by
  unfold register
  rw [h]
  rfl

/-- A registered label means the table that was registered. -/
lemma means_of_register {allowed : Request → Prop} (hs : Reachable p allowed s)
    (h : label = TableName.bare → s.store.contains TableName.bare = false) {rows : Cell}
    (hrows : rowsOf? rows = some t) : (s.register p (.text label) rows).1.Means p label t := by
  have hstore := @register_store p s label t rows hrows
  have hbare : label = TableName.bare →
      (s.register p (.text label) rows).1.store.contains TableName.bare = false := by
    intro e
    have hne : TableName.bare ≠ TableName.ofLabel label := by
      rw [e]
      decide
    rw [hstore, Store.contains_put_of_ne _ _ _ hne]
    exact h e
  apply means_of_get
  · rw [hstore]
    exact hs.coherent.put _ _ _ _
  · refine resolve_eq_ofLabel ?_ hbare
    rw [hstore]
    exact hs.named.put _ _ _ _
  · rw [hstore]
    exact Store.get_put_self ..

/-- The output of a refinement is stored under the name made from its label, if one is given. -/
lemma output_eq_of_answer_eq {s' : Session} {r : RefinementResult} {source operations : Cell}
    (h : s.answer p (.refine source operations (.text label)) = (s', .ok (.refined r))) :
    r.output = TableName.ofLabel (if label = "" then r.source ++ "_refined" else label) := by
  obtain ⟨d, hd, hcommit⟩ := exists_draft_of_refine_eq h
  obtain ⟨-, hsource, houtput, -⟩ := commit_eq hcommit
  obtain ⟨name, hname, e⟩ := hd.output_eq
  rw [houtput, e, hsource]
  unfold outputLabel at hname
  split at hname
  · rename_i htruthy
    cases hname
    rw [if_neg (by simpa [Cell.truthy] using htruthy)]
  · rename_i htruthy
    cases hname
    rw [if_pos (by simpa [Cell.truthy] using htruthy)]

/-- A label is read under the name that it is written under, unless it is itself the name of labels
without letters and digits, and in use: a registered table is the one that the label then means, and a
refinement whose output has the label of its source replaces the table that it read. -/
theorem resolve_eq_ofLabel_and_means {allowed : Request → Prop} (hs : Reachable p allowed s) {label : String}
    (h : label = "t_" → s.store.contains "t_" = false) :
    s.resolve label = TableName.ofLabel label ∧
    (∀ rows t, rowsOf? rows = some t → (s.answer p (.register (.text label) rows)).1.Means p label t) ∧
    (∀ source operations s' r, label ≠ "" →
      s.answer p (.refine source operations (.text label)) = (s', .ok (.refined r)) →
        r.output = TableName.ofLabel label) ∧
    (∀ operations s' r, s.answer p (.refine (.text label) operations (.text label)) = (s', .ok (.refined r)) →
      r.source = TableName.ofLabel label ∧
      r.output = (if label = "" then TableName.ofLabel (r.source ++ "_refined") else r.source) ∧
      ∃ before after, Refines p operations s s' r before after) := by
  have hresolve := resolve_eq_ofLabel hs.named h
  refine ⟨hresolve, ?registered, ?output, ?inPlace⟩
  case registered =>
    intro rows t hrows
    exact means_of_register hs h hrows
  case output =>
    intro source operations s' r hne hr
    rw [output_eq_of_answer_eq hr, if_neg hne]
  case inPlace =>
    intro operations s' r hr
    obtain ⟨d, hd, hcommit⟩ := exists_draft_of_refine_eq hr
    obtain ⟨-, hsource, -⟩ := commit_eq hcommit
    have hname : r.source = TableName.ofLabel label :=
      hsource.trans (hd.source_eq_resolve.trans hresolve)
    refine ⟨hname, ?_, d.before, d.after, hd.refines hs.coherent hcommit⟩
    rw [output_eq_of_answer_eq hr, apply_ite TableName.ofLabel, ← hname]

/-- A table that is registered and then refined in place, under a label with blanks and capitals. -/
theorem resolve_eq_ofLabel_and_means_in_place :
    (empty.answer ⟨.columnar, .strict⟩
        (.register (.text "Sales 2024") (.list [.list [.int 1, .int 2]]))).1.resolve "Sales 2024" = "sales_2024" ∧
    ∃ s' r before after,
      (empty.answer ⟨.columnar, .strict⟩
          (.register (.text "Sales 2024") (.list [.list [.int 1, .int 2]]))).1.answer ⟨.columnar, .strict⟩
        (.refine (.text "Sales 2024") (.record [("operation", .text "transpose")]) (.text "Sales 2024")) =
          (s', .ok (.refined r)) ∧
      r.source = "sales_2024" ∧ r.output = r.source ∧
      Refines ⟨.columnar, .strict⟩ (.record [("operation", .text "transpose")])
        (empty.answer ⟨.columnar, .strict⟩
          (.register (.text "Sales 2024") (.list [.list [.int 1, .int 2]]))).1 s' r before after := by
  have hs : Reachable ⟨.columnar, .strict⟩ (fun _ => True)
      (empty.answer ⟨.columnar, .strict⟩ (.register (.text "Sales 2024") (.list [.list [.int 1, .int 2]]))).1 :=
    .step .start trivial
  have h := @resolve_eq_ofLabel_and_means _ _ _ hs "Sales 2024" (fun e => absurd e (by decide))
  obtain ⟨hresolve, -, -, hinPlace⟩ := h
  obtain ⟨hsource, houtput, before, after, hrefines⟩ :=
    hinPlace (.record [("operation", .text "transpose")]) _ _ rfl
  exact ⟨hresolve, _, _, before, after, rfl, hsource, houtput, hrefines⟩

/-- Where reading and writing differ: the name of labels without letters and digits is read as it is and
written as another one, and an output without a label is not put under the name that no label is read as. -/
theorem resolve_bare_ne_ofLabel :
    ((empty.answer ⟨.columnar, .strict⟩ (.register (.text "!!!") (.list [.list [.int 1]]))).1.store.contains
        ((empty.answer ⟨.columnar, .strict⟩ (.register (.text "!!!") (.list [.list [.int 1]]))).1.resolve "t_") = true ∧
      (empty.answer ⟨.columnar, .strict⟩ (.register (.text "!!!") (.list [.list [.int 1]]))).1.resolve "t_" ≠
        TableName.ofLabel "t_") ∧
    ∃ s' r,
      (empty.answer ⟨.columnar, .strict⟩ (.register (.text "") (.list [.list [.int 1]]))).1.answer ⟨.columnar, .strict⟩
        (.refine (.text "") (.record [("operation", .text "transpose")]) (.text "")) =
          (s', .ok (.refined r)) ∧
      r.output ≠ r.source := by
  refine ⟨⟨rfl, by decide⟩, _, _, rfl, ?_⟩
  decide

end Session

end Tabular
