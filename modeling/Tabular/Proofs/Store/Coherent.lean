import Mathlib.Tactic.Lemma
import Tabular.Store

/-!
# Coherent stores

Tables and notes are kept in two directories. They stay coherent: the same names stand in both, in the
same order, and each note tells the name and the true size of its table.

* `Coherent`: tables and notes agree.
* `Coherent.answer`: they do after each request.
* `get_eq_error_iff`, `info_eq_error_iff`: failures are about names that there are not.
-/

namespace Tabular.Store

/-- The notes of a store are about its tables. -/
structure Coherent (s : Store) : Prop where
  names_eq : s.registry.names = s.tables.names
  info_eq : ∀ {name rows info}, s.tables.find? name = some rows → s.registry.find? name = some info →
    info.name = name ∧ info.rowCount = rows.length ∧ info.columnCount = rows.width

/-- An answer about a name succeeds with what is found under it. -/
lemma elim_eq_ok_iff {α : Type} {found : Option α} {name : String} {a : α} :
    found.elim (.error (⟨name⟩ : MissingTable)) .ok = Except.ok a ↔ found = some a := by
  cases found with
  | none => exact ⟨nofun, nofun⟩
  | some b => exact ⟨fun h => by cases h; rfl, fun h => by cases h; rfl⟩

/-- Looking up a name fails if nothing is found, and tells the name. -/
lemma elim_eq_error_iff {α : Type} {found : Option α} {name : String} {e : MissingTable} :
    found.elim (.error (⟨name⟩ : MissingTable)) .ok = Except.error e ↔ found = none ∧ e = ⟨name⟩ := by
  cases found with
  | none =>
    constructor
    · intro h
      cases h
      exact ⟨rfl, rfl⟩
    · rintro ⟨-, rfl⟩
      rfl
  | some b => exact ⟨nofun, nofun⟩

/-- The table of a name is what the directory of the tables has under it. -/
lemma get_eq_ok_iff {s : Store} {name : String} {rows : Table} :
    s.get name = .ok rows ↔ s.tables.find? name = some rows :=
  elim_eq_ok_iff

/-- The notes of a name are what the registry has under it. -/
lemma info_eq_ok_iff {s : Store} {name : String} {info : TableInfo} :
    s.info name = .ok info ↔ s.registry.find? name = some info :=
  elim_eq_ok_iff

/-- A store contains the names under which there is a table. -/
lemma contains_iff {s : Store} {name : String} :
    s.contains name = true ↔ ∃ rows, s.tables.find? name = some rows :=
  Option.isSome_iff_exists

/-- A store does not contain the names under which there is none. -/
lemma contains_eq_false_iff {s : Store} {name : String} : s.contains name = false ↔ s.tables.find? name = none := by
  rw [contains, Directory.contains, Option.isSome_eq_false_iff, Option.isNone_iff_eq_none]

/-- To ask for a table fails if the store does not contain the name, and tells it. -/
lemma get_eq_error_iff {s : Store} {name : String} {e : MissingTable} :
    s.get name = .error e ↔ s.contains name = false ∧ e = ⟨name⟩ := by
  rw [contains_eq_false_iff]
  exact elim_eq_error_iff

/-- A table that has been put is got back. -/
@[simp] lemma get_put_self (s : Store) (name : String) (rows : Table) (source : String)
    (operations : List String) : (s.put name rows source operations).get name = .ok rows := by
  simp [get, put]

/-- A table that has been put has the notes made of it. -/
@[simp] lemma info_put_self (s : Store) (name : String) (rows : Table) (source : String)
    (operations : List String) :
    (s.put name rows source operations).info name = .ok (infoOf name rows source operations) := by
  simp [info, put]

/-- A put leaves the tables of other names. -/
lemma get_put_of_ne (s : Store) {name other : String} (rows : Table) (source : String)
    (operations : List String) (h : other ≠ name) : (s.put name rows source operations).get other = s.get other := by
  simp only [get, put, Directory.find?_put_of_ne _ _ h]

/-- A put leaves the notes of other names. -/
lemma info_put_of_ne (s : Store) {name other : String} (rows : Table) (source : String)
    (operations : List String) (h : other ≠ name) : (s.put name rows source operations).info other = s.info other := by
  simp only [info, put, Directory.find?_put_of_ne _ _ h]

/-- A name that is dropped and put again comes last. -/
lemma names_drop_put (s : Store) (name : String) (rows : Table) (source : String) (operations : List String) :
    ((s.drop name).put name rows source operations).names = s.names.filter (· != name) ++ [name] := by
  have hnames : (s.drop name).registry.names = s.names.filter (· != name) := Directory.names_erase ..
  have hname : name ∉ (s.drop name).registry.names := by
    rw [hnames]
    intro h
    exact absurd (List.mem_filter.mp h).2 (by simp)
  calc ((s.drop name).put name rows source operations).names
      = if name ∈ (s.drop name).registry.names then (s.drop name).registry.names
        else (s.drop name).registry.names ++ [name] := Directory.names_put ..
    _ = s.names.filter (· != name) ++ [name] := by rw [if_neg hname, hnames]

/-- In a store without tables nothing disagrees. -/
lemma coherent_empty : empty.Coherent where
  names_eq := rfl
  info_eq := nofun

namespace Coherent

variable {s : Store}

/-- A put keeps tables and notes in agreement. -/
lemma put (h : s.Coherent) (name : String) (rows : Table) (source : String)
    (operations : List String) : (s.put name rows source operations).Coherent where
  names_eq := by
    simp only [Store.put, Directory.names_put, h.names_eq]
  info_eq := by
    intro other rows' info ht hi
    by_cases e : other = name
    · subst e
      simp only [Store.put, Directory.find?_put_self] at ht hi
      cases ht
      cases hi
      exact ⟨rfl, rfl, rfl⟩
    · simp only [Store.put, Directory.find?_put_of_ne _ _ e] at ht hi
      exact h.info_eq ht hi

/-- A removal keeps tables and notes in agreement. -/
lemma drop (h : s.Coherent) (name : String) : (s.drop name).Coherent where
  names_eq := by
    simp only [Store.drop, Directory.names_erase, h.names_eq]
  info_eq := by
    intro other rows info ht hi
    by_cases e : other = name
    · subst e
      simp only [Store.drop, Directory.find?_erase_self] at ht
      cases ht
    · simp only [Store.drop, Directory.find?_erase_of_ne _ e] at ht hi
      exact h.info_eq ht hi

/-- No request brings tables and notes into disagreement. -/
lemma answer (h : s.Coherent) (r : Request) : (s.answer r).1.Coherent := by
  cases r with
  | put name rows source operations => exact h.put name rows source operations
  | drop name => exact h.drop name
  | close => exact coherent_empty
  | get | contains | rowCount | columnCount => exact h

/-- Where tables and notes agree, each table has notes. -/
lemma exists_info (h : s.Coherent) {name : String} {rows : Table}
    (ht : s.tables.find? name = some rows) : ∃ info, s.registry.find? name = some info := by
  have hname : name ∈ s.registry.names := by
    rw [h.names_eq, Directory.mem_names_iff, Directory.contains, ht]
    rfl
  rw [Directory.mem_names_iff, Directory.contains] at hname
  exact Option.isSome_iff_exists.mp hname

/-- There is no note exactly where there is no table. -/
lemma info_eq_error_iff (h : s.Coherent) {name : String} {e : MissingTable} :
    s.info name = .error e ↔ s.contains name = false ∧ e = ⟨name⟩ := by
  have hcontains : s.contains name = s.registry.contains name := by
    rw [Bool.eq_iff_iff, contains, ← Directory.mem_names_iff, ← Directory.mem_names_iff, h.names_eq]
  rw [hcontains, Directory.contains, Option.isSome_eq_false_iff, Option.isNone_iff_eq_none]
  exact elim_eq_error_iff

/-- Where tables and notes agree, the count of columns is the width of the table. -/
lemma columnCount_eq (h : s.Coherent) {name : String} {rows : Table}
    (ht : s.tables.find? name = some rows) : s.columnCount name = .ok rows.width := by
  obtain ⟨info, hi⟩ := h.exists_info ht
  obtain ⟨-, -, hc⟩ := h.info_eq ht hi
  rw [columnCount, Store.info, hi, ← hc]
  rfl

end Coherent

end Tabular.Store
