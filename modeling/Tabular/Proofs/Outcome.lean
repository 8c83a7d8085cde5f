import Mathlib.Data.List.Forall2
import Mathlib.Tactic.Lemma

/-!
# Computations that succeed

When steps that may fail are put together, the whole succeeds exactly if each step does.

* `bind_eq_ok_iff`, `bind_eq_error_iff`: one computation after the other.
* `mapError_eq_ok_iff`, `mapError_eq_error_iff`: errors put into other ones.
* `mapM_eq_ok_iff`, `exists_of_mapM_eq_error`: a computation for each element of a list.
-/

namespace Tabular

variable {ε ε' α β : Type}

/-- Two computations succeed one after the other if each of them does. -/
lemma bind_eq_ok_iff {x : Except ε α} {f : α → Except ε β} {b : β} :
    (x >>= f) = .ok b ↔ ∃ a, x = .ok a ∧ f a = .ok b := by
  cases x with
  | error e => exact ⟨nofun, nofun⟩
  | ok a => exact ⟨fun h => ⟨a, rfl, h⟩, fun ⟨_, e, h⟩ => by cases e; exact h⟩

/-- Two computations fail one after the other if the first fails, or the second on its result. -/
lemma bind_eq_error_iff {x : Except ε α} {f : α → Except ε β} {e : ε} :
    (x >>= f) = .error e ↔ x = .error e ∨ ∃ a, x = .ok a ∧ f a = .error e := by
  cases x with
  | error e' =>
    constructor
    · intro h
      cases h
      exact .inl rfl
    · rintro (h | ⟨a, h, -⟩)
      · cases h
        rfl
      · cases h
  | ok a =>
    constructor
    · intro h
      exact .inr ⟨a, rfl, h⟩
    · rintro (h | ⟨_, h, hf⟩)
      · cases h
      · cases h
        exact hf

/-- Other errors do not change a success. -/
@[simp] lemma mapError_eq_ok_iff {x : Except ε α} {f : ε → ε'} {a : α} :
    x.mapError f = .ok a ↔ x = .ok a := by
  cases x with
  | error e => exact ⟨nofun, nofun⟩
  | ok b => exact ⟨fun h => by cases h; rfl, fun h => by cases h; rfl⟩

/-- A failure with other errors is one of the computation. -/
lemma mapError_eq_error_iff {x : Except ε α} {f : ε → ε'} {e' : ε'} :
    x.mapError f = .error e' ↔ ∃ e, x = .error e ∧ f e = e' := by
  cases x with
  | error e => exact ⟨fun h => by cases h; exact ⟨e, rfl, rfl⟩, fun ⟨_, h, hf⟩ => by cases h; cases hf; rfl⟩
  | ok a => exact ⟨nofun, fun ⟨_, h, _⟩ => by cases h⟩

/-- A failure of two computations, the errors of the first put into those of the second. -/
lemma mapError_bind_eq_error_iff {x : Except ε α} {g : ε → ε'} {f : α → Except ε' β} {e' : ε'} :
    (x.mapError g >>= f) = .error e' ↔ (∃ e, x = .error e ∧ g e = e') ∨ ∃ a, x = .ok a ∧ f a = .error e' := by
  rw [bind_eq_error_iff, mapError_eq_error_iff]
  simp only [mapError_eq_ok_iff]

/-- An error that the first part of a sequence does not give comes from the second. -/
lemma exists_of_mapError_bind_eq_error {x : Except ε α} {g : ε → ε'} {f : α → Except ε' β} {e' : ε'}
    (h : (x.mapError g >>= f) = .error e') (hg : ∀ e, g e ≠ e') : ∃ a, x = .ok a ∧ f a = .error e' := by
  rcases mapError_bind_eq_error_iff.mp h with ⟨e, -, he⟩ | h
  · exact absurd he (hg e)
  · exact h

/-- A mapped computation succeeds if the computation does. -/
lemma map_eq_ok_iff {x : Except ε α} {f : α → β} {b : β} :
    f <$> x = .ok b ↔ ∃ a, x = .ok a ∧ f a = b := by
  cases x with
  | error e => exact ⟨nofun, fun ⟨_, h, _⟩ => by cases h⟩
  | ok a => exact ⟨fun h => by cases h; exact ⟨a, rfl, rfl⟩, fun ⟨_, h, hf⟩ => by cases h; cases hf; rfl⟩

/-- A mapped computation fails if the computation does, and with the same error. -/
lemma map_eq_error_iff {x : Except ε α} {f : α → β} {e : ε} : f <$> x = .error e ↔ x = .error e := by
  cases x with
  | error e' => exact ⟨fun h => by cases h; rfl, fun h => by cases h; rfl⟩
  | ok a => exact ⟨nofun, nofun⟩

/-- A list of steps succeeds if each of them does, with its own result. -/
lemma mapM_eq_ok_iff {f : α → Except ε β} {xs : List α} {ys : List β} :
    xs.mapM f = .ok ys ↔ List.Forall₂ (fun x y => f x = .ok y) xs ys := by
  induction xs generalizing ys with
  | nil => exact ⟨fun h => by cases h; exact .nil, fun h => by cases h; rfl⟩
  | cons x xs ih =>
    rw [List.mapM_cons, bind_eq_ok_iff]
    constructor
    · rintro ⟨y, hy, h⟩
      obtain ⟨ys, hys, h⟩ := bind_eq_ok_iff.mp h
      cases h
      exact .cons hy (ih.mp hys)
    · rintro (- | ⟨hy, hys⟩)
      exact ⟨_, hy, bind_eq_ok_iff.mpr ⟨_, ih.mpr hys, rfl⟩⟩

/-- What is known of each result is known of all results of a list. -/
lemma map_eq_of_mapM_eq_ok {f : α → Except ε β} {g : α → β} {xs : List α} {ys : List β} (h : xs.mapM f = .ok ys)
    (hg : ∀ x y, f x = .ok y → g x = y) : xs.map g = ys := by
  induction mapM_eq_ok_iff.mp h with
  | nil => rfl
  | cons hx hxs ih => rw [List.map_cons, hg _ _ hx, ih (mapM_eq_ok_iff.mpr hxs)]

/-- Each element on the right belongs to one on the left. -/
lemma exists_of_mem_forall₂ {R : α → β → Prop} {xs : List α} {ys : List β} (h : List.Forall₂ R xs ys) {y : β}
    (hy : y ∈ ys) : ∃ x ∈ xs, R x y := by
  induction h with
  | nil => cases hy
  | cons hx _ ih =>
    rcases List.mem_cons.mp hy with rfl | hy
    · exact ⟨_, List.mem_cons_self, hx⟩
    · obtain ⟨x, hmem, hx⟩ := ih hy
      exact ⟨x, List.mem_cons_of_mem _ hmem, hx⟩

/-- Each element on the left has its partner at the same place on the right. -/
lemma exists_getElem?_of_forall₂ {R : α → β → Prop} {xs : List α} {ys : List β} (h : List.Forall₂ R xs ys)
    {i : Nat} {x : α} (hx : xs[i]? = some x) : ∃ y, ys[i]? = some y ∧ R x y := by
  induction h generalizing i with
  | nil => cases hx
  | cons hxy _ ih =>
    cases i with
    | zero =>
      cases hx
      exact ⟨_, rfl, hxy⟩
    | succ i => exact ih hx

/-- Each result over a list comes from one of its elements. -/
lemma exists_of_mem_mapM {f : α → Except ε β} {xs : List α} {ys : List β} (h : xs.mapM f = .ok ys)
    {y : β} (hy : y ∈ ys) : ∃ x ∈ xs, f x = .ok y :=
  exists_of_mem_forall₂ (mapM_eq_ok_iff.mp h) hy

/-- A list of steps fails with the error of the first step that fails. -/
lemma exists_of_mapM_eq_error {f : α → Except ε β} {xs : List α} {e : ε} (h : xs.mapM f = .error e) :
    ∃ before x later ys, xs = before ++ x :: later ∧ before.mapM f = .ok ys ∧ f x = .error e := by
  induction xs with
  | nil => cases h
  | cons x xs ih =>
    rw [List.mapM_cons] at h
    rcases bind_eq_error_iff.mp h with hx | ⟨y, hy, h⟩
    · exact ⟨[], x, xs, [], rfl, rfl, hx⟩
    · rcases bind_eq_error_iff.mp h with hxs | ⟨ys, -, h⟩
      · obtain ⟨before, x', later, ys, rfl, hbefore, hx'⟩ := ih hxs
        refine ⟨x :: before, x', later, y :: ys, rfl, ?_, hx'⟩
        exact mapM_eq_ok_iff.mpr (.cons hy (mapM_eq_ok_iff.mp hbefore))
      · cases h

end Tabular
