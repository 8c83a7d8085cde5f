import Mathlib.Data.List.Induction
import Tabular.Proofs.Outcome
import Tabular.Proofs.Store.Coherent

/-!
# Stores told by logs

A store is what the log of its requests tells. The last put of a name that nothing after it undid gives
the table and the note, and the names stand in the order in which they came in, counted from when they
were last absent.

* `Stands`: a put that nothing undid.
* `Absent`: a name without a table.
* `Entered`: the request that a name came in with.
* `get_after_eq_ok_iff`, `info_after_eq_ok_iff`: tables and notes told by the log.
* `names_after_pairwise`: the order of the names.
* `follows_after`: a store follows its log in all of this.
-/

namespace Tabular.Store

variable {s : Store} {log : List Request} {r : Request} {name : String} {rows : Table} {source : String}
  {operations : List String} {i : Nat}

/-- The store after the requests of a log. -/
def after (log : List Request) : Store :=
  log.foldl (fun s r => (s.answer r).1) empty

/-- A request takes away what is stored under a name. -/
def Request.Removes (name : String) : Request → Prop
  | drop other => other = name
  | close => True
  | _ => False

/-- A request changes what is stored under a name. -/
def Request.Writes (name : String) : Request → Prop
  | put other _ _ _ => other = name
  | r => r.Removes name

/-- The last put of a name in a log, if nothing after it undid it. -/
def Stands (log : List Request) (name : String) (rows : Table) (source : String) (operations : List String) :
    Prop :=
  ∃ before later, log = before ++ .put name rows source operations :: later ∧ ∀ r ∈ later, ¬ r.Writes name

/-- No put of a name in a log stands. -/
def Absent (log : List Request) (name : String) : Prop :=
  ∀ rows source operations, ¬ Stands log name rows source operations

/-- The request at an index of a log is the first put of a name since it was last absent. -/
def Entered (log : List Request) (name : String) (i : Nat) : Prop :=
  ∃ before rows source operations later, log = before ++ .put name rows source operations :: later ∧
    before.length = i ∧ Absent before name ∧ ∀ r ∈ later, ¬ r.Removes name

/-- The longest row of a table has a length; without rows that is zero. -/
def LongestRow (rows : Table) (n : Nat) : Prop :=
  (∀ row ∈ rows, row.length ≤ n) ∧ (rows = [] ∧ n = 0 ∨ ∃ row ∈ rows, row.length = n)

/-- A store is what a log tells. -/
structure Follows (s : Store) (log : List Request) : Prop where
  names_eq : s.registry.names = s.tables.names
  get_eq_ok_iff : ∀ {name rows}, s.get name = .ok rows ↔
    ∃ source operations, Stands log name rows source operations
  info_eq_ok_iff : ∀ {name info}, s.info name = .ok info ↔
    ∃ rows source operations n, Stands log name rows source operations ∧ LongestRow rows n ∧
      info = ⟨name, rows.length, n, source, operations⟩
  rowCount_eq_ok_iff : ∀ {name n}, s.rowCount name = .ok n ↔
    ∃ rows source operations, Stands log name rows source operations ∧ n = rows.length
  columnCount_eq_ok_iff : ∀ {name n}, s.columnCount name = .ok n ↔
    ∃ rows source operations, Stands log name rows source operations ∧ LongestRow rows n
  mem_names_iff : ∀ {name}, name ∈ s.names ↔ ∃ i, Entered log name i
  names_pairwise : s.names.Pairwise fun a b => ∀ i j, Entered log a i → Entered log b j → i < j
  names_put_again : ∀ {name} rows source operations, name ∈ s.names →
    (s.put name rows source operations).names = s.names
  names_put_anew : ∀ name rows source operations,
    ((s.drop name).put name rows source operations).names = s.names.filter (· != name) ++ [name]
  get_eq_error_iff : ∀ {name e}, s.get name = .error e ↔ s.contains name = false ∧ e = ⟨name⟩
  rowCount_eq_error_iff : ∀ {name e}, s.rowCount name = .error e ↔ s.contains name = false ∧ e = ⟨name⟩
  columnCount_eq_error_iff : ∀ {name e}, s.columnCount name = .error e ↔ s.contains name = false ∧ e = ⟨name⟩
  unchanged : ∀ {r e}, (s.answer r).2 = .error e → (s.answer r).1 = s

/-- A request at the end of a log is the one that is looked for, or behind it. -/
lemma concat_eq_append_cons_iff {before later : List Request} {p : Request} :
    log ++ [r] = before ++ p :: later ↔
      (log = before ∧ r = p ∧ later = []) ∨ ∃ later', later = later' ++ [r] ∧ log = before ++ p :: later' := by
  constructor
  · intro h
    cases later using List.reverseRecOn with
    | nil =>
      obtain ⟨hlog, hr⟩ := List.append_inj' h rfl
      exact .inl ⟨hlog, List.head_eq_of_cons_eq hr, rfl⟩
    | append_singleton later' r' =>
      rw [← List.cons_append, ← List.append_assoc] at h
      obtain ⟨hlog, hr⟩ := List.append_inj' h rfl
      exact .inr ⟨later', by rw [List.head_eq_of_cons_eq hr], hlog⟩
  · rintro (⟨rfl, rfl, rfl⟩ | ⟨later', rfl, rfl⟩)
    · rfl
    · rw [List.append_assoc, List.cons_append]

/-- A log is followed by one more request. -/
lemma after_concat (log : List Request) (r : Request) : after (log ++ [r]) = ((after log).answer r).1 := by
  rw [after, List.foldl_append]
  rfl

/-- A put stands if it is the last request, or stood before one that does not write its name. -/
lemma stands_concat_iff :
    Stands (log ++ [r]) name rows source operations ↔
      r = .put name rows source operations ∨ ¬ r.Writes name ∧ Stands log name rows source operations := by
  constructor
  · rintro ⟨before, later, h, hlater⟩
    rcases concat_eq_append_cons_iff.mp h with ⟨-, hr, -⟩ | ⟨later', rfl, hlog⟩
    · exact .inl hr
    · obtain ⟨hlater', hr⟩ := List.forall_mem_append.mp hlater
      exact .inr ⟨hr r (List.mem_singleton_self r), before, later', hlog, hlater'⟩
  · rintro (rfl | ⟨hr, before, later, rfl, hlater⟩)
    · exact ⟨log, [], rfl, nofun⟩
    · refine ⟨before, later ++ [r], by rw [List.append_assoc, List.cons_append], ?_⟩
      rw [List.forall_mem_append]
      exact ⟨hlater, List.forall_mem_singleton.mpr hr⟩

/-- What removes a name writes it. -/
lemma Request.Removes.writes (h : r.Removes name) : r.Writes name := by
  cases r with
  | put => cases h
  | drop | close => exact h
  | get | contains | rowCount | columnCount => cases h

/-- What writes a name puts a table under it or removes it. -/
lemma Request.Writes.put_or_removes (h : r.Writes name) :
    (∃ rows source operations, r = .put name rows source operations) ∨ r.Removes name := by
  cases r with
  | put other rows source operations =>
    cases h
    exact .inl ⟨rows, source, operations, rfl⟩
  | drop | close => exact .inr h
  | get | contains | rowCount | columnCount => cases h

/-- A name is absent if the last request removes it, or it was before one that does not write it. -/
lemma absent_concat_iff :
    Absent (log ++ [r]) name ↔ r.Removes name ∨ ¬ r.Writes name ∧ Absent log name := by
  constructor
  · intro h
    by_cases hr : r.Writes name
    · rcases hr.put_or_removes with ⟨rows, source, operations, rfl⟩ | hr
      · exact absurd (stands_concat_iff.mpr (.inl rfl)) (h rows source operations)
      · exact .inl hr
    · refine .inr ⟨hr, ?_⟩
      intro rows source operations hs
      exact h rows source operations (stands_concat_iff.mpr (.inr ⟨hr, hs⟩))
  · rintro h rows source operations hs
    rcases stands_concat_iff.mp hs with rfl | ⟨hr, hs⟩
    · rcases h with h | ⟨h, -⟩
      · exact h
      · exact h rfl
    · rcases h with h | ⟨-, h⟩
      · exact hr h.writes
      · exact h rows source operations hs

/-! ## What is stored under a name -/

/-- What does not write a name leaves its table and its notes. -/
lemma answer_of_not_writes (s : Store) (h : ¬ r.Writes name) :
    (s.answer r).1.get name = s.get name ∧ (s.answer r).1.info name = s.info name := by
  cases r with
  | put other rows source operations =>
    have hne : name ≠ other := fun e => h e.symm
    exact ⟨get_put_of_ne s rows source operations hne, info_put_of_ne s rows source operations hne⟩
  | drop other =>
    have hne : name ≠ other := fun e => h e.symm
    simp only [answer, drop, get, info, Directory.find?_erase_of_ne _ hne, and_self]
  | close => exact absurd trivial h
  | get | contains | rowCount | columnCount => exact ⟨rfl, rfl⟩

/-- What removes a name leaves neither table nor notes under it. -/
lemma answer_of_removes (s : Store) (h : r.Removes name) :
    (s.answer r).1.get name = .error ⟨name⟩ ∧ (s.answer r).1.info name = .error ⟨name⟩ := by
  cases r with
  | put => cases h
  | drop other =>
    cases h
    simp [answer, drop, get, info]
  | close => exact ⟨rfl, rfl⟩
  | get | contains | rowCount | columnCount => cases h

/-- A put that stands tells the table and the notes of its name. -/
lemma after_of_stands (h : Stands log name rows source operations) :
    (after log).get name = .ok rows ∧ (after log).info name = .ok (infoOf name rows source operations) := by
  induction log using List.reverseRecOn with
  | nil =>
    obtain ⟨before, later, e, -⟩ := h
    cases before with
    | nil => cases e
    | cons => cases e
  | append_singleton log r ih =>
    rw [after_concat]
    -- The put that stands is the last request, or the last request is about something else.
    rcases stands_concat_iff.mp h with rfl | ⟨hr, h⟩
    · exact ⟨get_put_self .., info_put_self ..⟩
    · obtain ⟨hget, hinfo⟩ := answer_of_not_writes (after log) hr
      rw [hget, hinfo]
      exact ih h

/-- Nothing is stored under a name of which no put stands. -/
lemma after_of_absent (h : Absent log name) :
    (after log).get name = .error ⟨name⟩ ∧ (after log).info name = .error ⟨name⟩ := by
  induction log using List.reverseRecOn with
  | nil => exact ⟨rfl, rfl⟩
  | append_singleton log r ih =>
    rw [after_concat]
    rcases absent_concat_iff.mp h with hr | ⟨hr, h⟩
    · exact answer_of_removes _ hr
    · obtain ⟨hget, hinfo⟩ := answer_of_not_writes (after log) hr
      rw [hget, hinfo]
      exact ih h

/-- Under a name that is not absent a put stands. -/
lemma exists_stands_of_not_absent (h : ¬ Absent log name) :
    ∃ rows source operations, Stands log name rows source operations := by
  simpa only [Absent, not_forall, not_not] using h

/-- The table of a name is that of the put that stands. -/
lemma get_after_eq_ok_iff :
    (after log).get name = .ok rows ↔ ∃ source operations, Stands log name rows source operations := by
  constructor
  · intro h
    by_cases habsent : Absent log name
    · rw [(after_of_absent habsent).1] at h
      cases h
    · obtain ⟨rows', source, operations, hs⟩ := exists_stands_of_not_absent habsent
      rw [(after_of_stands hs).1] at h
      cases h
      exact ⟨source, operations, hs⟩
  · rintro ⟨source, operations, hs⟩
    exact (after_of_stands hs).1

/-- The notes of a name are those of the put that stands. -/
lemma info_after_eq_ok_iff {info : TableInfo} :
    (after log).info name = .ok info ↔
      ∃ rows source operations, Stands log name rows source operations ∧
        info = infoOf name rows source operations := by
  constructor
  · intro h
    by_cases habsent : Absent log name
    · rw [(after_of_absent habsent).2] at h
      cases h
    · obtain ⟨rows, source, operations, hs⟩ := exists_stands_of_not_absent habsent
      rw [(after_of_stands hs).2] at h
      cases h
      exact ⟨rows, source, operations, hs, rfl⟩
  · rintro ⟨rows, source, operations, hs, rfl⟩
    exact (after_of_stands hs).2

/-! ## The order of the names -/

/-- A name is entered by the last request if that puts it and it was absent, else as it was before. -/
lemma entered_concat_iff :
    Entered (log ++ [r]) name i ↔
      (i = log.length ∧ Absent log name ∧ ∃ rows source operations, r = .put name rows source operations) ∨
        Entered log name i ∧ ¬ r.Removes name := by
  constructor
  · rintro ⟨before, rows, source, operations, later, h, rfl, habsent, hlater⟩
    rcases concat_eq_append_cons_iff.mp h with ⟨rfl, hr, -⟩ | ⟨later', rfl, hlog⟩
    · exact .inl ⟨rfl, habsent, rows, source, operations, hr⟩
    · obtain ⟨hlater', hr⟩ := List.forall_mem_append.mp hlater
      exact .inr ⟨⟨before, rows, source, operations, later', hlog, rfl, habsent, hlater'⟩,
        hr r (List.mem_singleton_self r)⟩
  · rintro (⟨rfl, habsent, rows, source, operations, rfl⟩ |
      ⟨⟨before, rows, source, operations, later, rfl, rfl, habsent, hlater⟩, hr⟩)
    · exact ⟨log, rows, source, operations, [], rfl, rfl, habsent, nofun⟩
    · refine ⟨before, rows, source, operations, later ++ [r], ?_, rfl, habsent, ?_⟩
      · rw [List.append_assoc, List.cons_append]
      · rw [List.forall_mem_append]
        exact ⟨hlater, List.forall_mem_singleton.mpr hr⟩

/-- A name is entered by a request of the log. -/
lemma Entered.lt_length (h : Entered log name i) : i < log.length := by
  obtain ⟨before, rows, source, operations, later, rfl, rfl, -⟩ := h
  simp

/-- A name has come in if a put of it stands. -/
lemma exists_entered_iff : (∃ i, Entered log name i) ↔ ¬ Absent log name := by
  induction log using List.reverseRecOn with
  | nil =>
    refine ⟨fun ⟨i, h⟩ => absurd h.lt_length (Nat.not_lt_zero i), fun h => absurd ?_ h⟩
    rintro rows source operations ⟨before, later, e, -⟩
    exact absurd e (by simp)
  | append_singleton log r ih =>
    rw [absent_concat_iff, not_or, not_and_or, not_not]
    simp only [entered_concat_iff]
    constructor
    · rintro ⟨i, ⟨rfl, -, rows, source, operations, rfl⟩ | ⟨h, hr⟩⟩
      · exact ⟨id, .inl rfl⟩
      · exact ⟨hr, .inr (ih.mp ⟨i, h⟩)⟩
    · rintro ⟨hr, hwrites | habsent⟩
      · -- A put: the name comes in with it, or has come in before and keeps its place.
        obtain ⟨rows, source, operations, rfl⟩ := hwrites.put_or_removes.resolve_right hr
        by_cases habsent : Absent log name
        · exact ⟨log.length, .inl ⟨rfl, habsent, rows, source, operations, rfl⟩⟩
        · obtain ⟨i, h⟩ := ih.mpr habsent
          exact ⟨i, .inr ⟨h, hr⟩⟩
      · obtain ⟨i, h⟩ := ih.mpr habsent
        exact ⟨i, .inr ⟨h, hr⟩⟩

/-- A store has exactly the names that are not absent. -/
lemma mem_names_after_iff : name ∈ (after log).names ↔ ¬ Absent log name := by
  rw [names, Directory.mem_names_iff, Directory.contains, Option.isSome_iff_exists]
  simp only [← info_eq_ok_iff, info_after_eq_ok_iff]
  constructor
  · rintro ⟨info, rows, source, operations, hs, -⟩ habsent
    exact habsent rows source operations hs
  · intro h
    obtain ⟨rows, source, operations, hs⟩ := exists_stands_of_not_absent h
    exact ⟨_, rows, source, operations, hs, rfl⟩

/-- A request keeps the order of the names that stay, and puts a new name behind them. -/
lemma names_answer (s : Store) (r : Request) :
    (s.answer r).1.names.Sublist s.names ∨
      ∃ name rows source operations, r = .put name rows source operations ∧ name ∉ s.names ∧
        (s.answer r).1.names = s.names ++ [name] := by
  cases r with
  | put name rows source operations =>
    have hnames : (s.put name rows source operations).names =
        if name ∈ s.names then s.names else s.names ++ [name] := Directory.names_put ..
    by_cases h : name ∈ s.names
    · rw [if_pos h] at hnames
      exact .inl (hnames ▸ List.Sublist.refl _)
    · rw [if_neg h] at hnames
      exact .inr ⟨name, rows, source, operations, rfl, h, hnames⟩
  | drop name =>
    refine .inl ?_
    show (s.registry.erase name).names.Sublist s.registry.names
    rw [Directory.names_erase]
    exact List.filter_sublist
  | close => exact .inl (List.nil_sublist _)
  | get | contains | rowCount | columnCount => exact .inl (List.Sublist.refl _)

/-- A name that was there before a request has been entered before it. -/
lemma Entered.of_concat (h : Entered (log ++ [r]) name i) (hname : name ∈ (after log).names) :
    Entered log name i := by
  rcases entered_concat_iff.mp h with ⟨-, habsent, -⟩ | ⟨h, -⟩
  · exact absurd habsent (mem_names_after_iff.mp hname)
  · exact h

/-- Names stand in the order in which they were entered. -/
lemma names_after_pairwise :
    (after log).names.Pairwise fun a b => ∀ i j, Entered log a i → Entered log b j → i < j := by
  induction log using List.reverseRecOn with
  | nil => exact .nil
  | append_singleton log r ih =>
    -- The last request adds nothing to when the names before it came in.
    have ih' : (after log).names.Pairwise
        fun a b => ∀ i j, Entered (log ++ [r]) a i → Entered (log ++ [r]) b j → i < j := by
      refine ih.imp_of_mem ?_
      intro a b ha hb h i j hi hj
      exact h i j (hi.of_concat ha) (hj.of_concat hb)
    rw [after_concat]
    rcases names_answer (after log) r with hsub | ⟨name, rows, source, operations, rfl, hname, hnames⟩
    · exact ih'.sublist hsub
    · rw [hnames, List.pairwise_append]
      refine ⟨ih', List.pairwise_singleton _ _, ?_⟩
      -- The new name comes in with the last request of the log, all others came in before it.
      intro a ha b hb i j hi hj
      rw [List.mem_singleton.mp hb] at hj
      have habsent : Absent log name := not_not.mp (mt mem_names_after_iff.mpr hname)
      rcases entered_concat_iff.mp hj with ⟨rfl, -⟩ | ⟨hj, -⟩
      · exact (hi.of_concat ha).lt_length
      · exact absurd habsent (exists_entered_iff.mp ⟨j, hj⟩)

/-! ## The whole store -/

/-- The longest row of a table is as long as the table is wide. -/
lemma longestRow_iff {n : Nat} : LongestRow rows n ↔ n = rows.width := by
  constructor
  · rintro ⟨hle, ⟨rfl, rfl⟩ | ⟨row, hrow, rfl⟩⟩
    · rfl
    · refine Nat.le_antisymm (Table.length_le_width hrow) ?_
      obtain ⟨row', hrow', hlen⟩ := Table.exists_length_eq_width (List.ne_nil_of_mem hrow)
      exact hlen ▸ hle row' hrow'
  · rintro rfl
    refine ⟨fun row => Table.length_le_width, ?_⟩
    by_cases h : rows = []
    · exact .inl ⟨h, by rw [h]; rfl⟩
    · exact .inr (Table.exists_length_eq_width h)

/-- No log brings tables and notes into disagreement. -/
lemma coherent_after (log : List Request) : (after log).Coherent := by
  induction log using List.reverseRecOn with
  | nil => exact coherent_empty
  | append_singleton log r ih =>
    rw [after_concat]
    exact ih.answer r

/-- A request that fails changes nothing. -/
lemma answer_of_error {e : MissingTable} (h : (s.answer r).2 = .error e) : (s.answer r).1 = s := by
  cases r with
  | put | drop | close => cases h
  | get | contains | rowCount | columnCount => rfl

/-- After any log of requests the store is what the log tells. -/
theorem follows_after (log : List Request) : Follows (after log) log where
  names_eq := (coherent_after log).names_eq
  get_eq_ok_iff := get_after_eq_ok_iff
  info_eq_ok_iff := by
    intro name info
    rw [info_after_eq_ok_iff]
    constructor
    · rintro ⟨rows, source, operations, hs, rfl⟩
      exact ⟨rows, source, operations, rows.width, hs, longestRow_iff.mpr rfl, rfl⟩
    · rintro ⟨rows, source, operations, n, hs, hn, rfl⟩
      rw [longestRow_iff.mp hn]
      exact ⟨rows, source, operations, hs, rfl⟩
  rowCount_eq_ok_iff := by
    intro name n
    refine map_eq_ok_iff.trans ?_
    constructor
    · rintro ⟨info, h, rfl⟩
      obtain ⟨rows, source, operations, hs, rfl⟩ := info_after_eq_ok_iff.mp h
      exact ⟨rows, source, operations, hs, rfl⟩
    · rintro ⟨rows, source, operations, hs, rfl⟩
      exact ⟨_, (after_of_stands hs).2, rfl⟩
  columnCount_eq_ok_iff := by
    intro name n
    refine map_eq_ok_iff.trans ?_
    constructor
    · rintro ⟨info, h, rfl⟩
      obtain ⟨rows, source, operations, hs, rfl⟩ := info_after_eq_ok_iff.mp h
      exact ⟨rows, source, operations, hs, longestRow_iff.mpr rfl⟩
    · rintro ⟨rows, source, operations, hs, hn⟩
      exact ⟨_, (after_of_stands hs).2, (longestRow_iff.mp hn).symm⟩
  mem_names_iff := mem_names_after_iff.trans exists_entered_iff.symm
  names_pairwise := names_after_pairwise
  names_put_again := by
    intro name rows source operations h
    exact (Directory.names_put ..).trans (if_pos h)
  names_put_anew := names_drop_put (after log)
  get_eq_error_iff := get_eq_error_iff
  rowCount_eq_error_iff := map_eq_error_iff.trans (coherent_after log).info_eq_error_iff
  columnCount_eq_error_iff := map_eq_error_iff.trans (coherent_after log).info_eq_error_iff
  unchanged := answer_of_error

/-- A name put again keeps its place, a name that was dropped before comes last. -/
example : (after [.put "a" [] "" [], .put "b" [] "" [], .put "c" [] "" [], .drop "a", .put "b" [[]] "c" [],
    .put "a" [] "" []]).names = ["b", "c", "a"] := rfl

end Tabular.Store
