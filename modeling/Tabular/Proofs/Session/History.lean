import Tabular.Proofs.Session.Naming

/-!
# Histories of sessions

What a session is after a log of requests from the beginning, requests that fail among them. Whatever one
request does (`Effect`), the tables that the session tells of are there afterwards, and it has only been
added to: names get neither lost nor moved, and the history gets an entry for a refinement that was
carried out. So it is with a whole log.

* `Sound`: the tables that a session tells of are there.
* `Extends`: a session has only been added to.
* `Effect.sound`, `Effect.extends`: both of one request.
* `records_after`: both of a log, with the length of the history.
-/

namespace Tabular

namespace Store

variable {s : Store} {name other : String} {rows : Table} {source : String} {operations : List String}

/-- All tables that notes tell of as sources are there. -/
def Sourced (s : Store) : Prop :=
  ∀ info ∈ s.infos, info.source ≠ "" → s.contains info.source = true

/-- A put adds one name at most. -/
lemma contains_put_iff :
    (s.put name rows source operations).contains other = true ↔ other = name ∨ s.contains other = true := by
  by_cases e : other = name
  · subst e
    simp only [contains, put, Directory.contains, Directory.find?_put_self, Option.isSome_some, true_or]
  · rw [contains_put_of_ne rows source operations e]
    simp only [e, false_or]

/-- After a put all notes are of the table that was put, or were there before. -/
lemma mem_infos_put {info : TableInfo} (h : info ∈ (s.put name rows source operations).infos) :
    info = infoOf name rows source operations ∨ info ∈ s.infos := by
  obtain ⟨other, hfind⟩ := (Directory.mem_values_iff _).mp h
  by_cases e : other = name
  · subst e
    rw [put, Directory.find?_put_self] at hfind
    exact .inl (Option.some.inj hfind).symm
  · rw [put, Directory.find?_put_of_ne _ _ e] at hfind
    exact .inr ((Directory.mem_values_iff _).mpr ⟨other, hfind⟩)

/-- A put whose source is stored leaves every source stored. -/
lemma Sourced.put (h : s.Sourced) (hsource : source ≠ "" → s.contains source = true) :
    (s.put name rows source operations).Sourced := by
  intro info hinfo hne
  rw [contains_put_iff]
  rcases mem_infos_put hinfo with rfl | hold
  · exact .inr (hsource hne)
  · exact .inr (h info hold hne)

/-- A put leaves the names in their order and adds at the end. -/
lemma names_prefix_put : s.names <+: (s.put name rows source operations).names := by
  rw [names, names, put, Directory.names_put]
  split
  · exact List.prefix_rfl
  · exact List.prefix_append _ _

/-- The notes of a store stand in the order of the names, each under its own. -/
lemma Coherent.map_name_infos (h : s.Coherent) : s.infos.map (·.name) = s.names := by
  rw [infos, names, Directory.values, Directory.names, List.map_map]
  apply List.map_congr_left
  rintro ⟨name, info⟩ hentry
  have hinfo := s.registry.mem_entries_iff.mp hentry
  have hname : name ∈ s.tables.names := by
    rw [← h.names_eq]
    exact List.mem_map_of_mem hentry
  obtain ⟨rows, hrows⟩ := contains_iff.mp ((s.tables.mem_names_iff name).mp hname)
  exact (h.info_eq hrows hinfo).1

end Store

namespace Session

variable {p : Platform} {s s' s'' : Session} {r : Request} {carriedOut : Bool}

/-! ## What requests keep -/

/-- The tables that a session tells of are there. -/
structure Sound (s : Session) : Prop where
  current : ∀ name, s.current = some name → s.store.contains name = true
  history : ∀ entry ∈ s.history, s.store.contains entry.source = true ∧ s.store.contains entry.output = true
  sourced : s.store.Sourced

/-- A session has the history and the names of another one at its beginning. -/
structure Extends (s s' : Session) : Prop where
  history : s.history <+: s'.history
  names : s.store.names <+: s'.store.names

/-- A session extends itself. -/
lemma Extends.refl (s : Session) : Extends s s where
  history := List.prefix_rfl
  names := List.prefix_rfl

/-- What extends an extension of a session extends the session. -/
lemma Extends.trans (h : Extends s s') (h' : Extends s' s'') : Extends s s'' where
  history := h.history.trans h'.history
  names := h.names.trans h'.names

/-- A session before the first request is sound. -/
lemma sound_empty : Sound empty where
  current := nofun
  history := nofun
  sourced := nofun

/-- A session stays sound when a table is put whose source is there, and becomes the current one or not. -/
lemma Sound.put (h : s.Sound) {name source : String} {rows : Table} {operations : List String} {current}
    (hsource : source ≠ "" → s.store.contains source = true) (hcurrent : current = s.current ∨ current = some name) :
    Sound ⟨s.store.put name rows source operations, current, s.history⟩ where
  current := by
    intro other hother
    apply Store.contains_put_iff.mpr
    rcases hcurrent with rfl | rfl
    · exact .inr (h.current other hother)
    · exact .inl (Option.some.inj hother).symm
  history := by
    intro entry hentry
    obtain ⟨hs, ho⟩ := h.history entry hentry
    exact ⟨Store.contains_put_iff.mpr (.inr hs), Store.contains_put_iff.mpr (.inr ho)⟩
  sourced := h.sourced.put hsource

/-- An entry about stored tables leaves the history sound. -/
lemma Sound.concat (h : s.Sound) {entry : HistoryEntry} (hsource : s.store.contains entry.source = true)
    (houtput : s.store.contains entry.output = true) : Sound { s with history := s.history ++ [entry] } where
  current := h.current
  history := by
    intro other hother
    rcases List.mem_append.mp hother with hold | hnew
    · exact h.history other hold
    · rcases List.mem_singleton.mp hnew with rfl
      exact ⟨hsource, houtput⟩
  sourced := h.sourced

/-- No request makes a session unsound. -/
lemma Effect.sound (h : Effect p s r s' carriedOut) (hs : s.Sound) : s'.Sound := by
  cases h with
  | nothing => exact hs
  | registered => exact hs.put (absurd rfl) (.inr rfl)
  | stored hd => exact hs.put (fun _ => hd.contains_source) (.inl rfl)
  | refined hd =>
    apply (hs.put (fun _ => hd.contains_source) (.inr rfl)).concat
    · exact Store.contains_put_iff.mpr (.inr hd.contains_source)
    · exact Store.contains_put_iff.mpr (.inl rfl)

/-- A request takes back neither names nor entries of the history. -/
lemma Effect.extends (h : Effect p s r s' carriedOut) : Extends s s' := by
  cases h with
  | nothing => exact .refl s
  | registered => exact ⟨List.prefix_rfl, Store.names_prefix_put⟩
  | stored => exact ⟨List.prefix_rfl, Store.names_prefix_put⟩
  | refined => exact ⟨List.prefix_append _ _, Store.names_prefix_put⟩

/-- A request adds an entry to the history if it is carried out, and none else. -/
lemma Effect.length_history (h : Effect p s r s' carriedOut) :
    s'.history.length = s.history.length + carriedOut.toNat := by
  cases h with
  | nothing => rfl
  | registered => rfl
  | stored => rfl
  | refined => exact List.length_append

/-! ## Runs -/

/-- The session that a log of requests leads to. -/
def after (p : Platform) (s : Session) (log : List Request) : Session :=
  log.foldl (fun s r => (s.answer p r).1) s

/-- The requests of a log with the replies to them. -/
def transcript (p : Platform) (s : Session) : List Request → List (Request × Except RequestError Reply)
  | [] => []
  | r :: log => (r, (s.answer p r).2) :: transcript p (s.answer p r).1 log

/-- Requests behind others are answered by the session that these have left. -/
lemma after_append (p : Platform) (s : Session) (before later : List Request) :
    s.after p (before ++ later) = (s.after p before).after p later :=
  List.foldl_append

/-- What a log leads to from a reachable session is reachable. -/
lemma reachable_after (hs : Reachable p (fun _ => True) s) (log : List Request) :
    Reachable p (fun _ => True) (s.after p log) := by
  induction log generalizing s with
  | nil => exact hs
  | cons r log ih => exact ih (.step hs trivial)

/-- No log makes a session unsound. -/
lemma Sound.after (hs : s.Sound) (log : List Request) : (s.after p log).Sound := by
  induction log generalizing s with
  | nil => exact hs
  | cons r log ih => exact ih ((effect_answer p s r).sound hs)

/-- A log takes back neither names nor entries of the history. -/
lemma extends_after (p : Platform) (s : Session) (log : List Request) : Extends s (s.after p log) := by
  induction log generalizing s with
  | nil => exact .refl s
  | cons r log ih => exact (effect_answer p s r).extends.trans (ih (s.answer p r).1)

/-- The first request of a log counts by itself, the others from the session that it leaves. -/
lemma countP_transcript_cons (p : Platform) (s : Session) (r : Request) (log : List Request) :
    (s.transcript p (r :: log)).countP isCarriedOut =
      (isCarriedOut (r, (s.answer p r).2)).toNat + ((s.answer p r).1.transcript p log).countP isCarriedOut := by
  rw [transcript, List.countP_cons, Nat.add_comm]
  cases isCarriedOut (r, (s.answer p r).2) with
  | false => rfl
  | true => rfl

/-- The history grows by one entry for each refinement that is carried out. -/
lemma length_history_after (p : Platform) (s : Session) (log : List Request) :
    (s.after p log).history.length = s.history.length + (s.transcript p log).countP isCarriedOut := by
  induction log generalizing s with
  | nil => rfl
  | cons r log ih =>
    have hstep := (effect_answer p s r).length_history
    calc (s.after p (r :: log)).history.length
        = (s.answer p r).1.history.length + ((s.answer p r).1.transcript p log).countP isCarriedOut :=
          ih (s.answer p r).1
      _ = s.history.length + (s.transcript p (r :: log)).countP isCarriedOut := by
        rw [hstep, countP_transcript_cons, Nat.add_assoc]

/-- What holds of a session after a log of requests from the beginning. -/
structure Records (p : Platform) (s : Session) (log : List Request) : Prop where
  wellFormed : ∀ name, s.store.contains name = true → TableName.WellFormed name
  current : ∀ name, s.current = some name → s.store.contains name = true
  length_history : s.history.length = (empty.transcript p log).countP isCarriedOut
  history : ∀ entry ∈ s.history, s.store.contains entry.source = true ∧ s.store.contains entry.output = true
  source : ∀ info ∈ s.store.infos, info.source ≠ "" → s.store.contains info.source = true
  /-- Listed are the names of the stored tables. -/
  listed : ∃ infos current, (s.answer p .list).2 = .ok (.listed infos current) ∧
    infos.map (·.name) = s.store.tables.names ∧ ∀ name, name ∈ s.store.tables.names ↔ s.store.contains name = true
  /-- What an earlier session had stands in the history and in the list at the places that it had there. -/
  grows : ∀ before later, log = before ++ later →
    (empty.after p before).history <+: s.history ∧
      (empty.after p before).store.tables.names <+: s.store.tables.names

/-- Whatever is asked for, the tables that a session tells of are there under names of the form of names,
and every refinement that is carried out adds to the history, from which, as from the tables, nothing is
ever lost. -/
theorem records_after (p : Platform) (log : List Request) : Records p (empty.after p log) log := by
  have reachable : ∀ log, Reachable p (fun _ => True) (empty.after p log) := reachable_after .start
  have sound := sound_empty.after (p := p) log
  have names_eq : ∀ log, (empty.after p log).store.names = (empty.after p log).store.tables.names :=
    fun log => (reachable log).coherent.names_eq
  constructor
  case wellFormed =>
    intro name hname
    obtain ⟨label, rfl⟩ := (reachable log).named name hname
    exact TableName.wellFormed_ofLabel label
  case current => exact sound.current
  case length_history => exact (length_history_after p empty log).trans (Nat.zero_add _)
  case history => exact sound.history
  case source => exact sound.sourced
  case listed =>
    refine ⟨_, _, rfl, ?_, Directory.mem_names_iff _⟩
    rw [(reachable log).coherent.map_name_infos, names_eq]
  case grows =>
    rintro before later rfl
    have h := extends_after p (empty.after p before) later
    rw [← after_append] at h
    rw [← names_eq, ← names_eq]
    exact ⟨h.history, h.names⟩

/-- Of two refinements one finds its table, and puts the outcome in its place. -/
example :
    (empty.after ⟨.columnar, .strict⟩
      [.register (.text "Sales") (.list []), .register (.text "2024") (.list []),
       .refine (.text "Costs") (.list []) .null, .refine (.text "sales") (.list []) (.text "SALES")]).store.names =
      ["sales", "t_2024"] ∧
    (empty.transcript ⟨.columnar, .strict⟩
      [.register (.text "Sales") (.list []), .register (.text "2024") (.list []),
       .refine (.text "Costs") (.list []) .null,
       .refine (.text "sales") (.list []) (.text "SALES")]).countP isCarriedOut = 1 :=
  ⟨rfl, rfl⟩

end Session

end Tabular
