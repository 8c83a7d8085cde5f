import Tabular.Cell.Basic
import Tabular.Rule.Basic

/-!
# Induction over cells and rules

Lists and records hold cells, and groups hold rules, so the recursors of these types come with motives
for lists too. Here are the principles that proofs use: what holds of a list, a record or a group if it
holds of all that they hold, holds of everything.

* `Cell.inductionOn`: for cells.
* `FilterRule.inductionOn`: for rules.
-/

namespace Tabular

/-- Induction over cells, through the members of lists and the fields of records. -/
@[elab_as_elim]
theorem Cell.inductionOn {motive : Cell → Prop} (c : Cell)
    (null : motive .null) (bool : ∀ b, motive (.bool b)) (int : ∀ n, motive (.int n))
    (float : ∀ x, motive (.float x)) (text : ∀ s, motive (.text s))
    (list : ∀ cells, (∀ c ∈ cells, motive c) → motive (.list cells))
    (record : ∀ fields, (∀ f ∈ fields, motive f.2) → motive (.record fields)) : motive c := by
  refine @Cell.rec motive (fun cells => ∀ c ∈ cells, motive c) (fun fields => ∀ f ∈ fields, motive f.2)
    (fun f => motive f.2) null bool int float text list record ?_ ?_ ?_ ?_ ?_ c
  · intro c hc
    cases hc
  · intro c cells ihc ih
    exact List.forall_mem_cons.mpr ⟨ihc, ih⟩
  · intro f hf
    cases hf
  · intro f fields ihf ih
    exact List.forall_mem_cons.mpr ⟨ihf, ih⟩
  · intro k c ih
    exact ih

/-- What is found under a key is a field. -/
theorem mem_of_lookup_eq_some {fields : List (String × Cell)} {key : String} {c : Cell}
    (h : fields.lookup key = some c) : (key, c) ∈ fields := by
  obtain ⟨before, after, e, -⟩ := List.lookup_eq_some_iff.mp h
  simp [e]

/-- Induction over rules, through the members of groups. -/
@[elab_as_elim]
theorem FilterRule.inductionOn {motive : FilterRule → Prop} (rule : FilterRule)
    (position : ∀ index, motive (.position index))
    (value : ∀ selector val, motive (.value selector val))
    (all : ∀ rules, (∀ rule ∈ rules, motive rule) → motive (.all rules)) : motive rule := by
  refine @FilterRule.rec motive (fun rules => ∀ rule ∈ rules, motive rule) position value all ?_ ?_ rule
  · intro rule h
    cases h
  · intro rule rules ihr ih
    exact List.forall_mem_cons.mpr ⟨ihr, ih⟩

end Tabular
