/-!
# Directories

Values under names, in the order in which the names were first put. Putting a name again replaces its
value and keeps its place; a name that is erased and put again comes last.

* `Directory`: a list of entries with different names.
* `Directory.put`: putting a value under a name.
* `Directory.erase`: erasing a name.
* `Directory.names_put`, `names_erase`: what becomes of the names and their order.
-/

namespace Tabular

/-- Values under names, each name at most once. -/
structure Directory (α : Type) where
  entries : List (String × α)
  names_nodup : (entries.map Prod.fst).Nodup

namespace Directory

variable {α : Type}

/-- A directory without entries. -/
def empty : Directory α := ⟨[], .nil⟩

/-- The names in the order in which they were first put. -/
def names (d : Directory α) : List String :=
  d.entries.map Prod.fst

/-- The values in the order of their names. -/
def values (d : Directory α) : List α :=
  d.entries.map Prod.snd

/-- The value under a name. -/
def find? (d : Directory α) (name : String) : Option α :=
  d.entries.lookup name

/-- Whether there is a value under a name. -/
def contains (d : Directory α) (name : String) : Bool :=
  (d.find? name).isSome

/-- Entries with a value put in place of the one under its name, or behind all others. -/
def putEntry (name : String) (a : α) : List (String × α) → List (String × α)
  | [] => [(name, a)]
  | (k, b) :: entries => if k = name then (k, a) :: entries else (k, b) :: putEntry name a entries

/-- The names of entries after a put: the same ones, or one more. -/
theorem map_fst_putEntry (name : String) (a : α) (entries : List (String × α)) :
    (putEntry name a entries).map Prod.fst =
      if name ∈ entries.map Prod.fst then entries.map Prod.fst
      else entries.map Prod.fst ++ [name] := by
  induction entries with
  | nil => simp [putEntry]
  | cons entry entries ih =>
    obtain ⟨k, b⟩ := entry
    by_cases h : k = name
    · simp [putEntry, h]
    · have h' : ¬ name = k := fun e => h e.symm
      by_cases hm : name ∈ entries.map Prod.fst
      · simp only [putEntry, if_neg h, List.map_cons, ih, List.mem_cons, hm, or_true, if_true]
      · simp only [putEntry, if_neg h, List.map_cons, ih, List.mem_cons, hm, h', or_false,
          if_false, List.cons_append]

/-- The directory with a value put under a name. -/
def put (d : Directory α) (name : String) (a : α) : Directory α where
  entries := putEntry name a d.entries
  names_nodup := by
    rw [map_fst_putEntry]
    split
    · exact d.names_nodup
    · rename_i h
      refine List.nodup_append.mpr ⟨d.names_nodup, by simp, ?_⟩
      intro k hk k' hk' e
      cases List.mem_singleton.mp hk'
      exact h (e ▸ hk)

/-- The directory without a name. -/
def erase (d : Directory α) (name : String) : Directory α where
  entries := d.entries.filter (·.1 != name)
  names_nodup := (List.filter_sublist.map Prod.fst).nodup d.names_nodup

/-- The directory without any name. -/
def clear (_ : Directory α) : Directory α :=
  empty

/-- An empty directory has nothing under any name. -/
@[simp] theorem find?_empty (name : String) : (empty : Directory α).find? name = none := rfl

/-- A put is seen under its own name only. -/
theorem lookup_putEntry (name other : String) (a : α) (entries : List (String × α)) :
    (putEntry name a entries).lookup other =
      if other = name then some a else entries.lookup other := by
  induction entries with
  | nil =>
    by_cases h : other = name
    · simp [putEntry, h]
    · have hb : (other == name) = false := by simpa using h
      simp [putEntry, List.lookup_cons, h, hb]
  | cons entry entries ih =>
    obtain ⟨k, b⟩ := entry
    by_cases hk : k = name
    · subst hk
      by_cases h : other = k
      · simp [putEntry, h]
      · have hb : (other == k) = false := by simpa using h
        simp [putEntry, List.lookup_cons, h, hb]
    · by_cases h : other = k
      · subst h
        simp [putEntry, hk]
      · have hb : (other == k) = false := by simpa using h
        simp only [putEntry, if_neg hk, List.lookup_cons, hb, ih]

/-- What has been put under a name is found there. -/
@[simp] theorem find?_put_self (d : Directory α) (name : String) (a : α) :
    (d.put name a).find? name = some a := by
  simp [find?, put, lookup_putEntry]

/-- A put leaves what is under other names. -/
theorem find?_put_of_ne (d : Directory α) {name other : String} (a : α) (h : other ≠ name) :
    (d.put name a).find? other = d.find? other := by
  simp [find?, put, lookup_putEntry, h]

/-- An erased name is not found, and all others as before. -/
theorem lookup_filter_ne (name other : String) (entries : List (String × α)) :
    (entries.filter (·.1 != name)).lookup other = if other = name then none else entries.lookup other := by
  induction entries with
  | nil => simp
  | cons entry entries ih =>
    obtain ⟨k, b⟩ := entry
    by_cases hk : k = name
    · have hfilter : ((k, b) :: entries).filter (·.1 != name) = entries.filter (·.1 != name) :=
        List.filter_cons_of_neg (by simpa using hk)
      rw [hfilter, ih, List.lookup_cons]
      split
      · rfl
      · rename_i h
        have hb : (other == k) = false := by simpa [hk] using h
        rw [hb]
    · have hfilter : ((k, b) :: entries).filter (·.1 != name) = (k, b) :: entries.filter (·.1 != name) :=
        List.filter_cons_of_pos (by simpa using hk)
      rw [hfilter, List.lookup_cons, List.lookup_cons, ih]
      by_cases h : other = k
      · subst h
        simp [hk]
      · have hb : (other == k) = false := by simpa using h
        simp [hb]

/-- Nothing is found under an erased name. -/
@[simp] theorem find?_erase_self (d : Directory α) (name : String) : (d.erase name).find? name = none := by
  simp [find?, erase, lookup_filter_ne]

/-- An erasure leaves what is under other names. -/
theorem find?_erase_of_ne (d : Directory α) {name other : String} (h : other ≠ name) :
    (d.erase name).find? other = d.find? other := by
  simp [find?, erase, lookup_filter_ne, h]

/-- The names after an erasure: the others, in the same order. -/
theorem names_erase (d : Directory α) (name : String) : (d.erase name).names = d.names.filter (· != name) := by
  simp only [names, erase, List.filter_map, Function.comp_def]

/-- The names after a put: the same ones in the same order, or one more at the end. -/
theorem names_put (d : Directory α) (name : String) (a : α) :
    (d.put name a).names = if name ∈ d.names then d.names else d.names ++ [name] :=
  map_fst_putEntry name a d.entries

/-- The names are those under which there is a value. -/
theorem mem_names_iff (d : Directory α) (name : String) : name ∈ d.names ↔ d.contains name := by
  simp only [names, contains, find?]
  induction d.entries with
  | nil => simp
  | cons entry entries ih =>
    obtain ⟨k, b⟩ := entry
    by_cases h : name = k
    · simp [h]
    · have h' : (name == k) = false := by simpa using h
      simp [List.lookup_cons, h, h', ih]

/-- Since no name is there twice, an entry is what is found under its name. -/
theorem mem_entries_iff (d : Directory α) {name : String} {a : α} : (name, a) ∈ d.entries ↔ d.find? name = some a := by
  rw [find?, List.lookup_eq_some_iff]
  constructor
  · intro h
    obtain ⟨before, later, e⟩ := List.mem_iff_append.mp h
    refine ⟨before, later, e, ?_⟩
    have hnodup := d.names_nodup
    rw [e, List.map_append, List.map_cons] at hnodup
    have hne := (List.nodup_append.mp hnodup).2.2
    intro entry hentry
    have hfirst := hne _ (List.mem_map_of_mem hentry) name List.mem_cons_self
    simpa using fun h => hfirst h.symm
  · rintro ⟨before, later, e, -⟩
    rw [e]
    exact List.mem_append_right _ List.mem_cons_self

/-- The values are what is found under some name. -/
theorem mem_values_iff (d : Directory α) {a : α} : a ∈ d.values ↔ ∃ name, d.find? name = some a := by
  simp only [values, List.mem_map, Prod.exists, exists_eq_right, mem_entries_iff]

end Directory

end Tabular
