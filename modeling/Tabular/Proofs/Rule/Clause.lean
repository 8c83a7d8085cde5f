import Tabular.Proofs.Filter.Rows
import Tabular.Proofs.Outcome
import Tabular.Rule.Parser

/-!
# Rules as they are written

The meaning of row rules, read off the cells in which they are written and not off the rules that these
are read as. A clause is a member of a list of rules. It is live if it gives a position, a value, or a
group with a live member; all other clauses say nothing. How a clause is read depends on which of these it
gives. `ignoreRows_eq_filter` joins the two: rows go exactly if the clauses leave them out.

* `Live`: a clause that gives a rule.
* `Agree`: the rules that clauses are read as say the same.
* `agree_of_parse`: they do.
-/

namespace Tabular

namespace Clause

/-- The position that a clause gives. -/
def position? : Cell → Option Cell
  | .record fields => fields.lookup "index"
  | _ => none

/-- The value that a clause looks for, if it gives no position. -/
def value? : Cell → Option Cell
  | .record fields => if (fields.lookup "index").isSome then none else fields.lookup "val"
  | _ => none

/-- The group of a clause, if it gives neither a position nor a value. -/
def group? : Cell → Option Cell
  | .record fields =>
    if (fields.lookup "index").isSome ∨ (fields.lookup "val").isSome then none
    else (fields.lookup "allOf").or (fields.lookup "combined")
  | _ => none

/-- Where a clause looks for its value: the cell under a key, or nothing. -/
def scope (axis : String) : Cell → Cell
  | .record fields => (fields.lookup axis).getD .null
  | _ => .null

/-- The clauses of a list; nothing stands for no clauses. -/
def members : Cell → List Cell
  | .list cells => cells
  | _ => []

/-- The positions that the clauses of a list give. -/
def positions (c : Cell) : List Cell :=
  (members c).filterMap position?

/-- A clause says something. -/
inductive Live : Cell → Prop where
  | position {c index} : position? c = some index → Live c
  | value {c val} : value? c = some val → Live c
  | group {c g m} : group? c = some g → m ∈ members g → Live m → Live c

/-- What a clause gives: a position, a value, a group, or none of them. -/
inductive Kind (c : Cell) : Prop where
  | position {index} : position? c = some index → Kind c
  | value {val} : value? c = some val → Kind c
  | group {g} : group? c = some g → Kind c
  | unknown : position? c = none → value? c = none → group? c = none → Kind c

/-- A cell that stands for a list of rules: nothing, or a list of records. -/
inductive IsRuleList : Cell → Prop where
  | null : IsRuleList .null
  | list {cells} : (∀ c ∈ cells, ∃ fields, c = .record fields) → IsRuleList (.list cells)

/-- A scope takes in a position: nothing and the word any take in all, a whole number itself, and a list
the whole numbers in it. -/
inductive TakesIn (p : Nat) : Cell → Prop where
  | null : TakesIn p .null
  | any : TakesIn p (.text "any")
  | alone : TakesIn p (.int p)
  | listed {cells} : Cell.int p ∈ cells → TakesIn p (.list cells)

/-- A row meets a clause that gives a value or a group. A group with position clauses is met if these
apply together, any other if it has live clauses and the row meets all of them. -/
inductive MetByRow (axis : String) (row : Row) (i : Nat) : Cell → Prop where
  | value {c val p cell} : value? c = some val → TakesIn p (scope axis c) → row[p]? = some cell →
    cell.strictlyEqual val = true → MetByRow axis row i c
  | positions {c g} : group? c = some g → positions g ≠ [] → JointlyApply (positions g) i →
    MetByRow axis row i c
  | members {c g} : group? c = some g → positions g = [] → (∃ m ∈ members g, Live m) →
    (∀ m ∈ members g, Live m → MetByRow axis row i m) → MetByRow axis row i c

/-- The clauses of a list leave out a row: the positions that they give apply to it together, or it
meets one of the other clauses. -/
def LeavesOutRow (axis : String) (c : Cell) (row : Row) (i : Nat) : Prop :=
  JointlyApply (positions c) i ∨ ∃ m ∈ members c, MetByRow axis row i m

/-- Clauses and the rules that they are read as agree: they give the same positions, and rows meet some
or all of them alike. -/
structure Agree (axis : String) (clauses : List Cell) (rules : List FilterRule) : Prop where
  positions : clauses.filterMap position? = positionRules rules
  live : (∃ m ∈ clauses, Live m) ↔ rules ≠ []
  some_met : ∀ row i, (∃ m ∈ clauses, MetByRow axis row i m) ↔ ∃ rule ∈ rules, rule.MetByRow row i
  all_met : ∀ row i, (∀ m ∈ clauses, Live m → MetByRow axis row i m) ↔
    ∀ rule ∈ rules, rule.MetByRow row i

variable {axis operation : String} {c g index val : Cell} {cells : List Cell} {rules : List FilterRule}

/-! ## Kinds of clauses -/

/-- A clause for a value gives no position. -/
lemma position?_eq_none_of_value (h : value? c = some val) : position? c = none := by
  cases c with
  | record fields =>
    simp only [value?] at h
    split at h
    · cases h
    · rename_i hi
      exact Option.not_isSome_iff_eq_none.mp hi
  | _ => rfl

/-- A clause for a group gives neither a position nor a value. -/
lemma eq_none_of_group (h : group? c = some g) : position? c = none ∧ value? c = none := by
  cases c with
  | record fields =>
    simp only [group?] at h
    split at h
    · cases h
    · rename_i hneither
      obtain ⟨hi, hv⟩ := not_or.mp hneither
      simp only [Option.not_isSome_iff_eq_none] at hi hv
      exact ⟨hi, by simp [value?, hv]⟩
  | _ => exact ⟨rfl, rfl⟩

/-- Only records are clauses for groups. -/
lemma exists_record_of_group (h : group? c = some g) : ∃ fields, c = .record fields := by
  cases c with
  | record fields => exact ⟨fields, rfl⟩
  | _ => cases h

/-- The group of a record is one of its fields. -/
lemma exists_mem_of_group {fields : List (String × Cell)} (h : group? (.record fields) = some g) :
    ∃ key, (key, g) ∈ fields := by
  simp only [group?] at h
  split at h
  · cases h
  · rcases Option.or_eq_some_iff.mp h with h | ⟨-, h⟩
    · exact ⟨_, mem_of_lookup_eq_some h⟩
    · exact ⟨_, mem_of_lookup_eq_some h⟩

/-- Induction over lists of clauses, through the groups of their members. -/
@[elab_as_elim]
theorem inductionOn {motive : Cell → Prop} (c : Cell)
    (step : ∀ c, (∀ m ∈ members c, ∀ g, group? m = some g → motive g) → motive c) : motive c := by
  -- Between a list and the groups of its members stand the records.
  have both : motive c ∧ ∀ g, group? c = some g → motive g := by
    induction c using Cell.inductionOn with
    | list cells ih => exact ⟨step _ fun m hm => (ih m hm).2, nofun⟩
    | record fields ih =>
      refine ⟨step _ nofun, fun g hg => ?_⟩
      obtain ⟨key, hmem⟩ := exists_mem_of_group hg
      exact (ih _ hmem).1
    | _ => exact ⟨step _ nofun, nofun⟩
  exact both.1

/-- Each clause is of exactly one kind, or of none that is known. -/
lemma kind (c : Cell) : Kind c := by
  cases hp : position? c with
  | some index => exact .position hp
  | none =>
    cases hv : value? c with
    | some val => exact .value hv
    | none =>
      cases hg : group? c with
      | some g => exact .group hg
      | none => exact .unknown hp hv hg

/-- A group is live if one of its members is. -/
lemma live_iff_of_group (hg : group? c = some g) : Live c ↔ ∃ m ∈ members g, Live m := by
  obtain ⟨hp, hv⟩ := eq_none_of_group hg
  constructor
  · intro live
    cases live with
    | position e => cases hp.symm.trans e
    | value e => cases hv.symm.trans e
    | group e hm live =>
      cases hg.symm.trans e
      exact ⟨_, hm, live⟩
  · rintro ⟨m, hm, live⟩
    exact .group hg hm live

/-- A clause of no known kind is not live. -/
lemma not_live_of_unknown (hp : position? c = none) (hv : value? c = none) (hg : group? c = none) : ¬ Live c := by
  intro live
  cases live with
  | position e => cases hp.symm.trans e
  | value e => cases hv.symm.trans e
  | group e => cases hg.symm.trans e

/-! ## How clauses are read -/

/-- The selector of a scope includes the positions that the scope takes in. -/
lemma includes_ofCell_iff {p : Nat} {c : Cell} :
    (Selector.ofCell c).Includes p ↔ TakesIn p c := by
  constructor
  · intro h
    cases c with
    | null => exact .null
    | text s =>
      by_cases hs : s = "any"
      · subst hs
        exact .any
      · simp only [Selector.ofCell, if_neg hs] at h
        cases h with
        | listed h => simp at h
    | list cells =>
      cases h with
      | listed h => exact .listed h
    | int n =>
      cases h with
      | listed h =>
        cases List.mem_singleton.mp h
        exact .alone
    | _ =>
      cases h with
      | listed h => cases List.mem_singleton.mp h
  · intro h
    cases h with
    | null => exact .any
    | any => exact .any
    | alone => exact .listed (List.mem_singleton_self _)
    | listed h => exact .listed h

/-- What stands under the key of the group of a record is what its clause has as a group. -/
lemma parseGroup_eq {axis operation : String} {key : Option String}
    {fields : List (String × Cell)} :
    FilterRule.parseGroup axis operation key fields =
      ((key.bind fun k => fields.lookup k).elim (.ok []) (FilterRule.parse axis operation)) := by
  induction fields with
  | nil => cases key <;> rfl
  | cons field fields ih =>
    obtain ⟨k, c⟩ := field
    cases key with
    | none => simpa [FilterRule.parseGroup] using ih
    | some key =>
      by_cases h : k = key
      · simp [FilterRule.parseGroup, h]
      · have hb : (key == k) = false := by simpa using fun e => h e.symm
        simpa [FilterRule.parseGroup, h, List.lookup_cons, hb] using ih

/-- The group of a record that gives neither a position nor a value stands under the first group key
that the record has. -/
lemma group?_record {fields : List (String × Cell)} (hi : fields.lookup "index" = none)
    (hv : fields.lookup "val" = none) :
    group? (.record fields) = (groupKey? fields).bind fun k => fields.lookup k := by
  simp only [group?, hi, hv, groupKey?, groupKeys, List.find?_cons, List.find?_nil]
  cases ha : fields.lookup "allOf" with
  | some g => simp [ha]
  | none =>
    cases hc : fields.lookup "combined" with
    | some g => simp [hc]
    | none => simp

/-- How a clause for a position is read. -/
lemma parseItem_of_position (h : position? c = some index) :
    FilterRule.parseItem axis operation c = .ok (some (.position index)) := by
  cases c with
  | record fields =>
    simp only [position?] at h
    simp [FilterRule.parseItem, h]
  | _ => cases h

/-- How a clause for a value is read. -/
lemma parseItem_of_value (h : value? c = some val) :
    FilterRule.parseItem axis operation c = .ok (some (.value (Selector.ofCell (scope axis c)) val)) := by
  have hp := position?_eq_none_of_value h
  cases c with
  | record fields =>
    simp only [position?] at hp
    simp only [value?, hp, Option.isSome_none, Bool.false_eq_true, if_false] at h
    simp [FilterRule.parseItem, hp, h, selectorAt, scope]
  | _ => cases h

/-- How a clause for a group is read: nothing is left of an empty one. -/
lemma parseItem_of_group (h : group? c = some g) :
    FilterRule.parseItem axis operation c = do
      let rules ← FilterRule.parse axis operation g
      return if rules.isEmpty then none else some (.all rules) := by
  obtain ⟨hp, hv⟩ := eq_none_of_group h
  obtain ⟨fields, rfl⟩ := exists_record_of_group h
  simp only [position?] at hp
  simp only [value?, hp, Option.isSome_none, Bool.false_eq_true, if_false] at hv
  have hgroup := group?_record hp hv
  simp only [FilterRule.parseItem, hp, hv, parseGroup_eq, ← hgroup, h, Option.elim_some]

/-- How a clause of no known kind is read: nothing is left of it. -/
lemma parseItem_of_unknown (hp : position? c = none) (hv : value? c = none) (hg : group? c = none) :
    FilterRule.parseItem axis operation c = .ok none := by
  cases c with
  | record fields =>
    simp only [position?] at hp
    simp only [value?, hp, Option.isSome_none, Bool.false_eq_true, if_false] at hv
    have hgroup := group?_record hp hv
    simp only [FilterRule.parseItem, hp, hv, parseGroup_eq, ← hgroup, hg, Option.elim_none]
    rfl
  | _ => rfl

/-- No fault is found among cells that are all records. -/
lemma findNonRecord_eq_none_iff (index : Nat) :
    findNonRecord index cells = none ↔ ∀ c ∈ cells, ∃ fields, c = .record fields := by
  induction cells generalizing index with
  | nil => simp [findNonRecord]
  | cons c cells ih => cases c <;> simp [findNonRecord, ih]

/-- A list is well formed if all its cells are records. -/
lemma isRuleList_list_iff : IsRuleList (.list cells) ↔ ∀ c ∈ cells, ∃ fields, c = .record fields := by
  constructor
  · intro h
    cases h with
    | list h => exact h
  · exact .list

/-- Reading a list is reading its members, once it is found to be a list of rules. -/
lemma parse_eq_ok_iff : FilterRule.parse axis operation c = .ok rules ↔
    IsRuleList c ∧ FilterRule.parseItems axis operation (members c) = .ok rules := by
  cases c with
  | null => exact ⟨fun h => ⟨.null, h⟩, fun h => h.2⟩
  | list cells =>
    rw [isRuleList_list_iff, ← findNonRecord_eq_none_iff 0]
    simp only [FilterRule.parse, checkRecords, members]
    cases findNonRecord 0 cells with
    | none => exact ⟨fun h => ⟨rfl, h⟩, fun h => h.2⟩
    | some found =>
      constructor
      · intro h
        cases h
      · intro h
        cases h.1
  | _ =>
    constructor
    · intro h
      cases h
    · intro h
      cases h.1

/-- A list of clauses is read clause by clause. -/
lemma parseItems_cons_eq_ok_iff : FilterRule.parseItems axis operation (c :: cells) = .ok rules ↔
    ∃ rule? rest, FilterRule.parseItem axis operation c = .ok rule? ∧
      FilterRule.parseItems axis operation cells = .ok rest ∧ rules = rule?.toList ++ rest := by
  rw [FilterRule.parseItems, bind_eq_ok_iff]
  constructor
  · rintro ⟨rule?, hrule, h⟩
    obtain ⟨rest, hrest, h⟩ := bind_eq_ok_iff.mp h
    cases h
    exact ⟨rule?, rest, hrule, hrest, rfl⟩
  · rintro ⟨rule?, rest, hrule, hrest, e⟩
    exact ⟨rule?, hrule, bind_eq_ok_iff.mpr ⟨rest, hrest, e ▸ rfl⟩⟩

/-! ## Clauses and their rules agree -/

/-- No clauses agree with no rules. -/
lemma Agree.nil {axis : String} : Agree axis [] [] where
  positions := rfl
  live := by simp
  some_met := by simp
  all_met := by simp

/-- Clauses that agree with rules do so one list behind the other. -/
lemma Agree.append {axis : String} {clauses clauses' : List Cell} {rules rules' : List FilterRule}
    (h : Agree axis clauses rules) (h' : Agree axis clauses' rules') :
    Agree axis (clauses ++ clauses') (rules ++ rules') where
  positions := by
    simp only [positionRules, List.filterMap_append, h.positions, h'.positions]
  live := by
    simp only [List.mem_append, or_and_right, exists_or, h.live, h'.live, ne_eq,
      List.append_eq_nil_iff, not_and_or]
  some_met row i := by
    simp only [List.mem_append, or_and_right, exists_or, h.some_met row i, h'.some_met row i]
  all_met row i := by
    simp only [List.mem_append, or_imp, forall_and, h.all_met row i, h'.all_met row i]

/-- A clause without position, value and group agrees with no rules. -/
lemma Agree.unknown (hp : position? c = none) (hv : value? c = none) (hg : group? c = none) : Agree axis [c] [] := by
  have dead : ¬ Live c := not_live_of_unknown hp hv hg
  have unmet : ∀ row i, ¬ MetByRow axis row i c := by
    intro row i h
    cases h with
    | value e => cases hv.symm.trans e
    | positions e => cases hg.symm.trans e
    | members e => cases hg.symm.trans e
  exact
    { positions := by simp [hp, positionRules]
      live := by simp [dead]
      some_met := by simp [unmet]
      all_met := by simp [dead] }

/-- A clause that gives a position agrees with the position rule. -/
lemma Agree.position (hp : position? c = some index) : Agree axis [c] [.position index] := by
  have unmet : ∀ row i, ¬ MetByRow axis row i c := by
    intro row i h
    cases h with
    | value e => cases hp.symm.trans (position?_eq_none_of_value e)
    | positions e => cases hp.symm.trans (eq_none_of_group e).1
    | members e => cases hp.symm.trans (eq_none_of_group e).1
  have unmet' : ∀ row i, ¬ (FilterRule.position index).MetByRow row i := by
    intro row i h
    cases h
  exact
    { positions := by simp [hp, positionRules]
      live := by simpa using Live.position hp
      some_met := by simp [unmet, unmet']
      all_met := by simpa [unmet, unmet'] using Live.position hp }

/-- A clause that gives a value agrees with the value rule. -/
lemma Agree.value (hv : value? c = some val) : Agree axis [c] [.value (Selector.ofCell (scope axis c)) val] := by
  have hp := position?_eq_none_of_value hv
  have live : Live c := .value hv
  have met : ∀ row i, MetByRow axis row i c ↔
      (FilterRule.value (Selector.ofCell (scope axis c)) val).MetByRow row i := by
    intro row i
    constructor
    · intro h
      cases h with
      | value e hs hc he =>
        cases hv.symm.trans e
        exact .value ⟨_, _, hc, includes_ofCell_iff.mpr hs, he⟩
      | positions e => cases hv.symm.trans (eq_none_of_group e).2
      | members e => cases hv.symm.trans (eq_none_of_group e).2
    · intro h
      cases h with
      | value h =>
        obtain ⟨p, cell, hc, hs, he⟩ := h
        exact .value hv (includes_ofCell_iff.mp hs) hc he
  exact
    { positions := by simp [hp, positionRules]
      live := by simp [live]
      some_met := by simp [met]
      all_met := by simp [met, live] }

/-- A clause that gives a group agrees with the group of the rules of its members, or with nothing if
there are none. -/
lemma Agree.group (hg : group? c = some g) (h : Agree axis (Clause.members g) rules) :
    Agree axis [c] (if rules.isEmpty then none else some (FilterRule.all rules)).toList := by
  obtain ⟨hp, hv⟩ := eq_none_of_group hg
  have live : Live c ↔ rules ≠ [] := (live_iff_of_group hg).trans h.live
  have hpos : Clause.positions g = positionRules rules := h.positions
  have met : ∀ row i, MetByRow axis row i c ↔ rules ≠ [] ∧ (FilterRule.all rules).MetByRow row i := by
    intro row i
    constructor
    · intro m
      cases m with
      | value e => cases hv.symm.trans e
      | positions e hne ha =>
        cases hg.symm.trans e
        rw [hpos] at hne ha
        refine ⟨?_, .positions hne ha⟩
        rintro rfl
        exact hne rfl
      | members e hnil hl ha =>
        cases hg.symm.trans e
        exact ⟨h.live.mp hl, .members (hpos.symm.trans hnil) ((h.all_met row i).mp ha)⟩
    · rintro ⟨hne, m⟩
      cases m with
      | positions hp ha => exact .positions hg (hpos ▸ hp) (hpos ▸ ha)
      | members hnil ha =>
        exact .members hg (hpos.trans hnil) (h.live.mpr hne) ((h.all_met row i).mpr ha)
  -- A group without rules is passed over, and its clause is then not live.
  by_cases hr : rules = []
  · subst hr
    exact
      { positions := by simp [hp, positionRules]
        live := by simp [live]
        some_met := by simp [met]
        all_met := by simp [live] }
  · have he : rules.isEmpty = false := by simpa using hr
    simp only [he]
    exact
      { positions := by simp [hp, positionRules]
        live := by simp [live, hr]
        some_met := by simp [met, hr]
        all_met := by simp [met, live, hr] }

/-- The rules of clauses agree with them if the rule of each clause does. -/
lemma agree_of_parseItems
    (hc : ∀ c ∈ cells, ∀ rule, FilterRule.parseItem axis operation c = .ok rule → Agree axis [c] rule.toList)
    (h : FilterRule.parseItems axis operation cells = .ok rules) : Agree axis cells rules := by
  induction cells generalizing rules with
  | nil =>
    cases h
    exact .nil
  | cons c cells ih =>
    obtain ⟨rule, rest, hrule, hrest, rfl⟩ := parseItems_cons_eq_ok_iff.mp h
    obtain ⟨hhead, htail⟩ := List.forall_mem_cons.mp hc
    exact (hhead rule hrule).append (ih htail hrest)

/-- The rule of a clause agrees with it if the rules of its group agree with the members. -/
lemma agree_of_parseItem {rule : Option FilterRule}
    (hgroup : ∀ g, group? c = some g → ∀ rules, FilterRule.parse axis operation g = .ok rules →
      Agree axis (members g) rules)
    (h : FilterRule.parseItem axis operation c = .ok rule) : Agree axis [c] rule.toList := by
  cases kind c with
  | position hp =>
    rw [parseItem_of_position hp] at h
    cases h
    exact .position hp
  | value hv =>
    rw [parseItem_of_value hv] at h
    cases h
    exact .value hv
  | group hg =>
    rw [parseItem_of_group hg] at h
    obtain ⟨rules, hrules, h⟩ := bind_eq_ok_iff.mp h
    cases h
    exact .group hg (hgroup _ hg rules hrules)
  | unknown hp hv hg =>
    rw [parseItem_of_unknown hp hv hg] at h
    cases h
    exact .unknown hp hv hg

/-- The rules of a cell agree with its clauses, and the rule of a clause agrees with it. -/
lemma agree_of_parse (axis operation : String) (c : Cell) :
    (∀ rules, FilterRule.parse axis operation c = .ok rules → Agree axis (members c) rules) ∧
      ∀ rule, FilterRule.parseItem axis operation c = .ok rule → Agree axis [c] rule.toList := by
  have lists : ∀ c rules, FilterRule.parse axis operation c = .ok rules → Agree axis (members c) rules := by
    intro c
    induction c using inductionOn with
    | step c ih =>
      intro rules h
      have items : ∀ m ∈ members c, ∀ rule, FilterRule.parseItem axis operation m = .ok rule →
          Agree axis [m] rule.toList := fun m hm _ hrule => agree_of_parseItem (ih m hm) hrule
      exact agree_of_parseItems items (parse_eq_ok_iff.mp h).2
  exact ⟨lists c, fun _ h => agree_of_parseItem (fun g _ => lists g) h⟩

end Clause

open Classical in
/-- Rows go exactly if the clauses that the rules are written as leave them out; the others stay as they
are and in order. -/
theorem ignoreRows_eq_filter {operation : String} {raw : Cell} {rules : List FilterRule}
    (h : FilterRule.parse "col" operation raw = .ok rules) (t : Table) :
    t.ignoreRows rules =
      (t.zipIdx.filter fun (row, i) => ¬ Clause.LeavesOutRow "col" raw row i).map Prod.fst := by
  have agree := (Clause.agree_of_parse "col" operation raw).1 rules h
  have keeps : ∀ row i, FilterRule.keepsAsList row i rules = true ↔
      ¬ Clause.LeavesOutRow "col" raw row i := by
    intro row i
    rw [FilterRule.keepsAsList_iff, ← agree.positions, ← agree.some_met row i]
    rfl
  refine congrArg (List.map Prod.fst) (List.filter_congr ?_)
  rintro ⟨row, i⟩ -
  rw [Bool.eq_iff_iff, keeps row i, decide_eq_true_iff]

open Classical in
/-- A group within a group, over rows of different lengths. -/
theorem ignoreRows_eq_filter_nested :
    ∃ rules, FilterRule.parse "col" "ignoreRowIf" (.list [.record [("allOf", .list
        [.record [("val", .text "x")], .record [("combined", .list [.record [("index", .text ">= 1")]])]])]]) =
          .ok rules ∧
      Table.ignoreRows rules [[.text "x"], [.null, .text "x"], []] = [[.text "x"], []] ∧
      Table.ignoreRows rules [[.text "x"], [.null, .text "x"], []] =
        ((List.zipIdx [[.text "x"], [.null, .text "x"], []]).filter fun (row, i) =>
          ¬ Clause.LeavesOutRow "col" (.list [.record [("allOf", .list [.record [("val", .text "x")],
            .record [("combined", .list [.record [("index", .text ">= 1")]])]])]]) row i).map Prod.fst := by
  refine ⟨[.all [.value .any (.text "x"), .all [.position (.text ">= 1")]]], rfl, rfl, ?_⟩
  have h : FilterRule.parse "col" "ignoreRowIf" (.list [.record [("allOf", .list
      [.record [("val", .text "x")], .record [("combined", .list [.record [("index", .text ">= 1")]])]])]]) =
        .ok [.all [.value .any (.text "x"), .all [.position (.text ">= 1")]]] := rfl
  exact ignoreRows_eq_filter h _

end Tabular
