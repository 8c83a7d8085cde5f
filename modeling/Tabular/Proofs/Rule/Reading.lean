import Tabular.Proofs.Rule.Clause

/-!
# Which lists of rules are read, and as what

Reading looks at the whole list of rules and at the groups of those of its members that give neither a
position nor a value, at every depth. It succeeds exactly if all that it looks at are lists of records, or
nothing. What is left then is the tree of the live clauses, in order: a clause that gives no rule leaves no
trace wherever it stands, and no group is without rules.

* `Readable`: all that is looked at is well formed.
* `ReadAs`: the rule that a clause is read as.
* `exists_parse_iff`: when reading succeeds.
* `forall₂_readAs_of_parse`: what is left then.
* `parse_eq_ok_iff_and_stable`: both, and that dead clauses change nothing.
-/

namespace Tabular

namespace Clause

/-- The lists that are looked at: the whole one, and those that are looked at in the groups of its
members. -/
inductive Visited : Cell → Cell → Prop where
  | whole c : Visited c c
  | group {c m g v} : m ∈ members c → group? m = some g → Visited g v → Visited c v

/-- All that is looked at stands for a list of rules. -/
def Readable (c : Cell) : Prop :=
  ∀ v, Visited c v → IsRuleList v

open Classical in
/-- The live clauses among others, in order. -/
noncomputable def live (clauses : List Cell) : List Cell :=
  clauses.filter fun c => Live c

/-- A clause is read as the rule of its position, of its value, or of the live members of its group, of
which there has to be one. -/
inductive ReadAs (axis : String) : Cell → FilterRule → Prop where
  | position {c index} : position? c = some index → ReadAs axis c (.position index)
  | value {c val} : value? c = some val → ReadAs axis c (.value (Selector.ofCell (scope axis c)) val)
  | group {c g rules} : group? c = some g → rules ≠ [] →
    List.Forall₂ (ReadAs axis) (live (members g)) rules → ReadAs axis c (.all rules)

/-- A record that gives no rule: of no known kind, or with a group in which nothing is live. -/
structure Dead (d : Cell) : Prop where
  record : ∃ fields, d = .record fields
  readable : ∀ g, group? d = some g → Readable g
  dead : ¬ Live d

/-- A clause is put into a list, or into the group of one of its members, at any depth. -/
inductive Inserts (d : Cell) : Cell → Cell → Prop where
  | here before later : Inserts d (.list (before ++ later)) (.list (before ++ d :: later))
  | within {m m' g g'} before later : group? m = some g → group? m' = some g' → Inserts d g g' →
    Inserts d (.list (before ++ m :: later)) (.list (before ++ m' :: later))

variable {axis operation : String} {c d : Cell} {cells : List Cell} {rules : List FilterRule}

/-! ## What reading looks at -/

/-- A cell is readable if it is well formed and the groups of its members are readable. -/
lemma readable_iff : Readable c ↔ IsRuleList c ∧ ∀ m ∈ members c, ∀ g, group? m = some g → Readable g := by
  constructor
  · intro h
    exact ⟨h c (.whole c), fun m hm g hg v hv => h v (.group hm hg hv)⟩
  · rintro ⟨hlist, hgroups⟩ v hv
    cases hv with
    | whole => exact hlist
    | group hm hg hv => exact hgroups _ hm _ hg v hv

/-- Two lists of clauses are read one after the other. -/
lemma parseItems_append_eq_ok_iff {before later : List Cell} :
    FilterRule.parseItems axis operation (before ++ later) = .ok rules ↔
      ∃ first second, FilterRule.parseItems axis operation before = .ok first ∧
        FilterRule.parseItems axis operation later = .ok second ∧ rules = first ++ second := by
  induction before generalizing rules with
  | nil => simp [FilterRule.parseItems, eq_comm]
  | cons c before ih =>
    rw [List.cons_append, parseItems_cons_eq_ok_iff]
    constructor
    · rintro ⟨rule?, rest, hrule, h, e⟩
      obtain ⟨first, second, hfirst, hsecond, rfl⟩ := ih.mp h
      exact ⟨_, second, parseItems_cons_eq_ok_iff.mpr ⟨rule?, first, hrule, hfirst, rfl⟩, hsecond,
        e.trans (List.append_assoc _ _ _).symm⟩
    · rintro ⟨first, second, h, hsecond, e⟩
      obtain ⟨rule?, rest, hrule, hrest, rfl⟩ := parseItems_cons_eq_ok_iff.mp h
      exact ⟨rule?, rest ++ second, hrule, ih.mpr ⟨rest, second, hrest, hsecond, rfl⟩,
        e.trans (List.append_assoc _ _ _)⟩

/-- A list of clauses is read if each of them is. -/
lemma exists_parseItems_iff : (∃ rules, FilterRule.parseItems axis operation cells = .ok rules) ↔
    ∀ c ∈ cells, ∃ rule?, FilterRule.parseItem axis operation c = .ok rule? := by
  induction cells with
  | nil => exact ⟨fun _ => nofun, fun _ => ⟨[], rfl⟩⟩
  | cons c cells ih =>
    rw [List.forall_mem_cons, ← ih]
    constructor
    · rintro ⟨rules, h⟩
      obtain ⟨rule?, rest, hrule, hrest, -⟩ := parseItems_cons_eq_ok_iff.mp h
      exact ⟨⟨rule?, hrule⟩, rest, hrest⟩
    · rintro ⟨⟨rule?, hrule⟩, rest, hrest⟩
      exact ⟨_, parseItems_cons_eq_ok_iff.mpr ⟨rule?, rest, hrule, hrest, rfl⟩⟩

/-- A clause can be read if its group can. -/
lemma exists_parseItem_iff (axis operation : String) : (∃ rule?, FilterRule.parseItem axis operation c = .ok rule?) ↔
    ∀ g, group? c = some g → ∃ rules, FilterRule.parse axis operation g = .ok rules := by
  cases kind c with
  | position hp =>
    refine iff_of_true ⟨_, parseItem_of_position hp⟩ fun g hg => ?_
    cases hp.symm.trans (eq_none_of_group hg).1
  | value hv =>
    refine iff_of_true ⟨_, parseItem_of_value hv⟩ fun g hg => ?_
    cases hv.symm.trans (eq_none_of_group hg).2
  | group hg =>
    rw [parseItem_of_group hg]
    constructor
    · rintro ⟨rule?, h⟩ g' e
      obtain ⟨rules, hrules, -⟩ := bind_eq_ok_iff.mp h
      cases hg.symm.trans e
      exact ⟨rules, hrules⟩
    · intro h
      obtain ⟨rules, hrules⟩ := h _ hg
      exact ⟨_, bind_eq_ok_iff.mpr ⟨rules, hrules, rfl⟩⟩
  | unknown hp hv hg =>
    refine iff_of_true ⟨_, parseItem_of_unknown hp hv hg⟩ fun g hg' => ?_
    cases hg.symm.trans hg'

/-- A cell is read as rules if all that is looked at stands for a list of rules. -/
lemma exists_parse_iff (axis operation : String) :
    (∃ rules, FilterRule.parse axis operation c = .ok rules) ↔ Readable c := by
  induction c using inductionOn with
  | step c ih =>
    have items : (∃ rules, FilterRule.parseItems axis operation (members c) = .ok rules) ↔
        ∀ m ∈ members c, ∀ g, group? m = some g → Readable g := by
      rw [exists_parseItems_iff]
      refine forall₂_congr fun m hm => ?_
      rw [exists_parseItem_iff]
      exact forall₂_congr fun g hg => ih m hm g hg
    simp only [parse_eq_ok_iff, exists_and_left]
    rw [readable_iff, items]

/-! ## What is read -/

/-- Nothing is left of clauses of which none is live. -/
lemma live_eq_nil_iff : live cells = [] ↔ ¬ ∃ m ∈ cells, Live m := by
  simp [live]

/-- A live clause is left as it is. -/
lemma live_singleton_of_live (h : Live c) : live [c] = [c] := by
  simp [live, h]

/-- Nothing is left of a clause that is not live. -/
lemma live_singleton_of_not_live (h : ¬ Live c) : live [c] = [] := by
  simp [live, h]

/-- What is left of clauses is what is left of each of them. -/
lemma live_cons : live (c :: cells) = live [c] ++ live cells :=
  List.filter_append [c] cells

/-- A live clause is read as a rule, any other as nothing, if the lists of groups are read so. -/
lemma readAs_of_parseItem {rule? : Option FilterRule}
    (hgroup : ∀ g, group? c = some g → ∀ rules, FilterRule.parse axis operation g = .ok rules →
      List.Forall₂ (ReadAs axis) (live (members g)) rules)
    (h : FilterRule.parseItem axis operation c = .ok rule?) :
    List.Forall₂ (ReadAs axis) (live [c]) rule?.toList := by
  cases kind c with
  | position hp =>
    rw [parseItem_of_position hp] at h
    cases h
    rw [live_singleton_of_live (.position hp)]
    exact .cons (.position hp) .nil
  | value hv =>
    rw [parseItem_of_value hv] at h
    cases h
    rw [live_singleton_of_live (.value hv)]
    exact .cons (.value hv) .nil
  | group hg =>
    rw [parseItem_of_group hg] at h
    obtain ⟨rules, hrules, h⟩ := bind_eq_ok_iff.mp h
    cases h
    have read := hgroup _ hg rules hrules
    by_cases hnil : rules = []
    · subst hnil
      have dead : ¬ Live c := by
        rw [live_iff_of_group hg]
        exact live_eq_nil_iff.mp (List.forall₂_nil_right_iff.mp read)
      rw [live_singleton_of_not_live dead]
      exact .nil
    · have alive : Live c := by
        rw [live_iff_of_group hg]
        by_contra none
        rw [live_eq_nil_iff.mpr none] at read
        exact hnil (List.forall₂_nil_left_iff.mp read)
      rw [live_singleton_of_live alive, if_neg (by simpa using hnil)]
      exact .cons (.group hg hnil read) .nil
  | unknown hp hv hg =>
    rw [parseItem_of_unknown hp hv hg] at h
    cases h
    rw [live_singleton_of_not_live (not_live_of_unknown hp hv hg)]
    exact .nil

/-- What a cell is read as are its live members, in order. -/
lemma forall₂_readAs_of_parse (h : FilterRule.parse axis operation c = .ok rules) :
    List.Forall₂ (ReadAs axis) (live (members c)) rules := by
  induction c using inductionOn generalizing rules with
  | step c ih =>
    have items : ∀ cells ⊆ members c, ∀ rules, FilterRule.parseItems axis operation cells = .ok rules →
        List.Forall₂ (ReadAs axis) (live cells) rules := by
      intro cells
      induction cells with
      | nil =>
        intro _ rules h
        cases h
        exact .nil
      | cons m cells ihcells =>
        intro hsub rules h
        obtain ⟨hm, hcells⟩ := List.cons_subset.mp hsub
        obtain ⟨rule?, rest, hrule, hrest, rfl⟩ := parseItems_cons_eq_ok_iff.mp h
        rw [live_cons]
        exact List.rel_append (readAs_of_parseItem (fun g hg _ hg' => ih m hm g hg hg') hrule)
          (ihcells hcells rest hrest)
    exact items _ (List.Subset.refl _) _ (parse_eq_ok_iff.mp h).2

/-- Clauses are read in one way only. -/
lemma readAs_unique {clauses : List Cell} {rules' : List FilterRule}
    (hunique : ∀ m ∈ clauses, ∀ rule rule', ReadAs axis m rule → ReadAs axis m rule' → rule = rule')
    (h : List.Forall₂ (ReadAs axis) clauses rules) (h' : List.Forall₂ (ReadAs axis) clauses rules') :
    rules = rules' := by
  induction h generalizing rules' with
  | nil =>
    cases h'
    rfl
  | cons hm _ ih =>
    cases h' with
    | cons hm' hrest' =>
      obtain ⟨hhead, htail⟩ := List.forall_mem_cons.mp hunique
      rw [hhead _ _ hm hm', ih htail hrest']

/-- The rules that clauses are read as are unique, one by one. -/
lemma eq_of_forall₂_readAs {rules' : List FilterRule} (h : List.Forall₂ (ReadAs axis) (live (members c)) rules)
    (h' : List.Forall₂ (ReadAs axis) (live (members c)) rules') : rules = rules' := by
  induction c using inductionOn generalizing rules rules' with
  | step c ih =>
    refine readAs_unique (fun m hm rule rule' hr hr' => ?_) h h'
    have hmem : m ∈ members c := (List.mem_filter.mp hm).1
    cases hr with
    | position hp =>
      cases hr' with
      | position hp' => rw [Option.some.inj (hp.symm.trans hp')]
      | value hv' => cases hp.symm.trans (position?_eq_none_of_value hv')
      | group hg' => cases hp.symm.trans (eq_none_of_group hg').1
    | value hv =>
      cases hr' with
      | position hp' => cases hp'.symm.trans (position?_eq_none_of_value hv)
      | value hv' => rw [Option.some.inj (hv.symm.trans hv')]
      | group hg' => cases hv.symm.trans (eq_none_of_group hg').2
    | group hg _ hrules =>
      cases hr' with
      | position hp' => cases hp'.symm.trans (eq_none_of_group hg).1
      | value hv' => cases hv'.symm.trans (eq_none_of_group hg).2
      | group hg' _ hrules' =>
        cases hg.symm.trans hg'
        rw [ih m hmem _ hg hrules hrules']

/-- Rules are what a cell is read as exactly if all that is looked at stands for a list of rules and they are
the live members. -/
lemma parse_eq_ok_iff_readAs : FilterRule.parse axis operation c = .ok rules ↔
    Readable c ∧ List.Forall₂ (ReadAs axis) (live (members c)) rules := by
  constructor
  · intro h
    exact ⟨(exists_parse_iff axis operation).mp ⟨rules, h⟩, forall₂_readAs_of_parse h⟩
  · rintro ⟨hreadable, hread⟩
    obtain ⟨rules', h'⟩ := (exists_parse_iff axis operation).mpr hreadable
    rwa [eq_of_forall₂_readAs hread (forall₂_readAs_of_parse h')]

/-! ## Clauses that leave no trace -/

/-- A dead clause is read, and leaves nothing. -/
lemma Dead.parseItem_eq (h : Dead d) : FilterRule.parseItem axis operation d = .ok none := by
  obtain ⟨rule?, hrule⟩ := (exists_parseItem_iff axis operation).mpr
    fun g hg => (exists_parse_iff axis operation).mpr (h.readable g hg)
  have read := readAs_of_parseItem (fun g _ _ hg => forall₂_readAs_of_parse hg) hrule
  rw [live_singleton_of_not_live h.dead, List.forall₂_nil_left_iff, Option.toList_eq_nil_iff] at read
  rw [hrule, read]

/-- A dead clause in front changes nothing. -/
lemma parseItems_dead_cons_iff (h : Dead d) : FilterRule.parseItems axis operation (d :: cells) = .ok rules ↔
    FilterRule.parseItems axis operation cells = .ok rules := by
  rw [parseItems_cons_eq_ok_iff, h.parseItem_eq]
  constructor
  · rintro ⟨rule?, rest, hrule, hrest, e⟩
    cases hrule
    exact e ▸ hrest
  · intro h
    exact ⟨none, rules, rfl, h, rfl⟩

/-- A list is read if its cells are records and each of them is read. -/
lemma parse_list_eq_ok_iff : FilterRule.parse axis operation (.list cells) = .ok rules ↔
    (∀ c ∈ cells, ∃ fields, c = .record fields) ∧ FilterRule.parseItems axis operation cells = .ok rules := by
  rw [parse_eq_ok_iff, isRuleList_list_iff]
  rfl

/-- A clause that gives no rule leaves no trace, wherever it is put. -/
lemma Inserts.parse_eq_ok_iff {c' : Cell} (h : Inserts d c c') (hd : Dead d) :
    FilterRule.parse axis operation c' = .ok rules ↔ FilterRule.parse axis operation c = .ok rules := by
  induction h generalizing rules with
  | here before later =>
    rw [parse_list_eq_ok_iff, parse_list_eq_ok_iff, parseItems_append_eq_ok_iff, parseItems_append_eq_ok_iff]
    simp only [parseItems_dead_cons_iff hd]
    apply and_congr_left'
    simp only [List.mem_append, List.mem_cons, or_imp, forall_and, forall_eq, hd.record, true_and]
  | @within m m' g g' before later hg hg' _ ih =>
    have same : ∀ rule?, FilterRule.parseItem axis operation m' = .ok rule? ↔
        FilterRule.parseItem axis operation m = .ok rule? := by
      intro rule?
      rw [parseItem_of_group hg, parseItem_of_group hg', bind_eq_ok_iff, bind_eq_ok_iff]
      simp only [ih]
    rw [parse_list_eq_ok_iff, parse_list_eq_ok_iff, parseItems_append_eq_ok_iff, parseItems_append_eq_ok_iff]
    simp only [parseItems_cons_eq_ok_iff, same]
    apply and_congr_left'
    simp only [List.mem_append, List.mem_cons, or_imp, forall_and, forall_eq, exists_record_of_group hg,
      exists_record_of_group hg', true_and]

end Clause

namespace FilterRule

/-- A group is among rules, or in a group among them, at any depth. -/
inductive GroupIn (group : List FilterRule) : List FilterRule → Prop where
  | member {rules} : .all group ∈ rules → GroupIn group rules
  | nested {rules outer} : .all outer ∈ rules → GroupIn group outer → GroupIn group rules

variable {group rules : List FilterRule} {row : Row} {i : Nat}

/-- No group that is read is without rules. -/
lemma GroupIn.ne_nil {axis : String} {clauses : List Cell} (h : GroupIn group rules)
    (read : List.Forall₂ (Clause.ReadAs axis) clauses rules) : group ≠ [] := by
  induction h generalizing clauses with
  | member hmem =>
    obtain ⟨m, -, hm⟩ := exists_of_mem_forall₂ read hmem
    cases hm with
    | group _ hne _ => exact hne
  | nested hmem _ ih =>
    obtain ⟨m, -, hm⟩ := exists_of_mem_forall₂ read hmem
    cases hm with
    | group _ _ read => exact ih read

/-- A group without position rules has a vote, so that its quorum decides something. -/
lemma votes_ne_nil (hne : rules ≠ []) (hnil : positionRules rules = []) : votes row i rules ≠ [] := by
  obtain ⟨rule, hr⟩ := List.exists_mem_of_ne_nil _ hne
  have hvote : (vote? row i rule).isSome := by
    rw [Option.isSome_iff_ne_none]
    intro e
    obtain ⟨index, rfl⟩ := vote?_eq_none_iff.mp e
    exact positionRules_eq_nil_iff.mp hnil _ hr index rfl
  obtain ⟨vote, hvote⟩ := Option.isSome_iff_exists.mp hvote
  rw [votes_eq_filterMap]
  exact List.ne_nil_of_mem (List.mem_filterMap.mpr ⟨rule, hr, hvote⟩)

end FilterRule

/-- A cell is read as rules exactly if all that is looked at stands for a list of rules, and then as the tree
of its live clauses. No group among the rules is without rules, so that none is decided on without a vote. A
record that gives no rule may be put into any list that is looked at, and nothing else is read. -/
theorem parse_eq_ok_iff_and_stable (axis operation : String) (raw : Cell) :
    ((∃ rules, FilterRule.parse axis operation raw = .ok rules) ↔
      ∀ c, Clause.Visited raw c → Clause.IsRuleList c) ∧
    ∀ rules,
      (FilterRule.parse axis operation raw = .ok rules ↔
        (∀ c, Clause.Visited raw c → Clause.IsRuleList c) ∧
          List.Forall₂ (Clause.ReadAs axis) (Clause.live (Clause.members raw)) rules) ∧
      (FilterRule.parse axis operation raw = .ok rules →
        (∀ group, FilterRule.GroupIn group rules → group ≠ [] ∧
          ∀ row i, positionRules group = [] → FilterRule.votes row i group ≠ []) ∧
        ∀ d raw', Clause.Dead d → Clause.Inserts d raw raw' →
          FilterRule.parse axis operation raw' = .ok rules) := by
  refine ⟨Clause.exists_parse_iff axis operation, fun rules => ⟨Clause.parse_eq_ok_iff_readAs, fun h => ⟨?_, ?_⟩⟩⟩
  · intro group hgroup
    have hne := hgroup.ne_nil (Clause.forall₂_readAs_of_parse h)
    exact ⟨hne, fun row i hnil => FilterRule.votes_ne_nil hne hnil⟩
  · intro d raw' hd hinserts
    exact (hinserts.parse_eq_ok_iff hd).mpr h

/-- An empty group is put into a group, next to a record of no known kind. -/
theorem parse_eq_ok_iff_and_stable_nested :
    FilterRule.parse "col" "ignoreRowIf"
        (.list [.record [("index", .int 0)], .record [("allOf", .list
          [.record [("note", .null)], .record [("val", .text "x")]])]]) =
      .ok [.position (.int 0), .all [.value .any (.text "x")]] ∧
    Clause.Dead (.record [("combined", .list [])]) ∧
    FilterRule.parse "col" "ignoreRowIf"
        (.list [.record [("index", .int 0)], .record [("allOf", .list
          [.record [("note", .null)], .record [("combined", .list [])], .record [("val", .text "x")]])]]) =
      .ok [.position (.int 0), .all [.value .any (.text "x")]] := by
  have dead : Clause.Dead (.record [("combined", .list [])]) := by
    refine ⟨⟨_, rfl⟩, ?_, ?_⟩
    · rintro _ ⟨⟩
      exact Clause.readable_iff.mpr ⟨.list nofun, nofun⟩
    · rw [Clause.live_iff_of_group (g := .list []) rfl]
      exact fun ⟨_, hm, _⟩ => nomatch hm
  have read : FilterRule.parse "col" "ignoreRowIf"
      (.list [.record [("index", .int 0)], .record [("allOf", .list
        [.record [("note", .null)], .record [("val", .text "x")]])]]) =
      .ok [.position (.int 0), .all [.value .any (.text "x")]] := rfl
  refine ⟨read, dead, ?_⟩
  apply (((parse_eq_ok_iff_and_stable "col" "ignoreRowIf" _).2 _).2 read).2 _ _ dead
  exact .within [_] [] rfl rfl (.here [_] [_])

end Tabular
