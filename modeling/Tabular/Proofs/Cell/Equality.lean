import Mathlib.Data.List.Perm.Subperm
import Mathlib.Tactic.Lemma
import Tabular.Directory
import Tabular.Proofs.Cell.Induction
import Tabular.Proofs.Number.Place

/-!
# Equality of cells as an equivalence

Loose equality is said kind by kind: numbers and truth values are at one place, lists have equal cells at each
index, records have equal cells under each key. It is an equivalence on the cells that hold no undefined number.
Strict equality is loose equality between two truth values or between two cells that are none, so it is an
equivalence as well, and one that keeps truth values apart from numbers.

* `Definite`: a cell without undefined numbers.
* `looselyEqual_refl`, `looselyEqual_symm`, `looselyEqual_trans`: loose equality is an equivalence of such
  cells.
* `strictlyEqual_equivalence_and_separates`: so is strict equality, and what it keeps apart.
-/

namespace Tabular

namespace Place

/-- Equal places have one value; each infinite one equals itself only. -/
lemma same_iff {p q : Place} : p.same q = true ↔ p.value? = q.value? ∧ (p.value? = none → p = q) := by
  cases p with
  | finite c e =>
    cases q with
    | finite d f => simp [same_finite_iff, value?]
    | _ => simp [same, value?]
  | _ => cases q <;> simp [same, value?]

/-- A place is the same as itself. -/
lemma same_refl (p : Place) : p.same p = true :=
  same_iff.mpr ⟨rfl, fun _ => rfl⟩

/-- Which of two places comes first does not matter. -/
lemma same_symm {p q : Place} (h : p.same q = true) : q.same p = true := by
  obtain ⟨hvalue, heq⟩ := same_iff.mp h
  exact same_iff.mpr ⟨hvalue.symm, fun e => (heq (hvalue.trans e)).symm⟩

/-- Places that are the same as a third are the same. -/
lemma same_trans {p q r : Place} (h : p.same q = true) (h' : q.same r = true) : p.same r = true := by
  obtain ⟨hvalue, heq⟩ := same_iff.mp h
  obtain ⟨hvalue', heq'⟩ := same_iff.mp h'
  exact same_iff.mpr ⟨hvalue.trans hvalue', fun e => (heq e).trans (heq' (hvalue.symm.trans e))⟩

end Place

namespace Cell

/-- No undefined number is in a cell, at any depth, and each record has at most one field under a key. -/
inductive Definite : Cell → Prop where
  | null : Definite .null
  | bool {t} : Definite (.bool t)
  | int {n} : Definite (.int n)
  | float {x} : x ≠ .nan → Definite (.float x)
  | text {s} : Definite (.text s)
  | list {cells} : (∀ c ∈ cells, Definite c) → Definite (.list cells)
  | record {fields} : (fields.map Prod.fst).Nodup → (∀ f ∈ fields, Definite f.2) → Definite (.record fields)

/-- A truth value. -/
inductive IsTruth : Cell → Prop where
  | bool t : IsTruth (.bool t)

variable {a b c : Cell} {p : Place} {s : String} {xs ys : List Cell} {fields others : List (String × Cell)}

/-! ## Loose equality, kind by kind -/

/-- A cell that has a place equals the cells with the same place. -/
lemma samePlace_iff (h : a.place? = some p) :
    samePlace a b = true ↔ ∃ q, b.place? = some q ∧ p.same q = true := by
  rw [samePlace, h]
  cases b.place? with
  | none => simp
  | some q => simp

/-- What has a place equals what is at the same place. -/
lemma looselyEqual_place_iff (h : a.place? = some p) :
    a.looselyEqual b = true ↔ ∃ q, b.place? = some q ∧ p.same q = true := by
  rw [← samePlace_iff h]
  cases a with
  | bool t => cases b <;> exact Iff.rfl
  | int n => cases b <;> exact Iff.rfl
  | float x => cases b <;> exact Iff.rfl
  | _ => cases h

/-- Nothing equals only nothing. -/
lemma looselyEqual_null_iff : Cell.null.looselyEqual b = true ↔ b = .null := by
  cases b with
  | null => exact ⟨fun _ => rfl, fun _ => rfl⟩
  | _ => exact ⟨nofun, nofun⟩

/-- A text equals only itself. -/
lemma looselyEqual_text_iff : (Cell.text s).looselyEqual b = true ↔ b = .text s := by
  cases b with
  | text t =>
    show (s == t) = true ↔ _
    rw [beq_iff_eq, Cell.text.injEq, eq_comm]
  | _ => exact ⟨nofun, nofun⟩

/-- Lists are equal if they are of one length and their cells are equal one by one. -/
lemma listsEqual_iff : listsEqual xs ys = true ↔ xs.length = ys.length ∧
    ∀ (i : Nat) (x y : Cell), xs[i]? = some x → ys[i]? = some y → x.looselyEqual y = true := by
  induction xs generalizing ys with
  | nil =>
    cases ys with
    | nil => exact ⟨fun _ => ⟨rfl, nofun⟩, fun _ => rfl⟩
    | cons y ys => exact ⟨nofun, nofun⟩
  | cons x xs ih =>
    cases ys with
    | nil => exact ⟨nofun, nofun⟩
    | cons y ys =>
      rw [listsEqual, Bool.and_eq_true, ih, List.length_cons, List.length_cons, Nat.add_right_cancel_iff]
      constructor
      · rintro ⟨hhead, hlength, htail⟩
        refine ⟨hlength, fun i => ?_⟩
        cases i with
        | zero =>
          rintro _ _ ⟨⟩ ⟨⟩
          exact hhead
        | succ i => exact htail i
      · rintro ⟨hlength, hall⟩
        exact ⟨hall 0 x y rfl rfl, hlength, fun i => hall (i + 1)⟩

/-- A list equals a list of the same length with equal cells. -/
lemma looselyEqual_list_iff : (Cell.list xs).looselyEqual b = true ↔ ∃ ys, b = .list ys ∧
    xs.length = ys.length ∧ ∀ (i : Nat) (x y : Cell), xs[i]? = some x → ys[i]? = some y → x.looselyEqual y = true := by
  cases b with
  | list ys =>
    rw [looselyEqual, listsEqual_iff]
    simp
  | _ =>
    constructor
    · intro h
      cases h
    · rintro ⟨ys, ⟨⟩, -⟩

/-- Fields are within others if each is found there with an equal cell. -/
lemma fieldsWithin_iff : fieldsWithin fields others = true ↔
    ∀ f ∈ fields, ∃ y, others.lookup f.1 = some y ∧ f.2.looselyEqual y = true := by
  induction fields with
  | nil => exact ⟨fun _ => nofun, fun _ => rfl⟩
  | cons f fields ih =>
    rw [fieldsWithin, Bool.and_eq_true, ih, List.forall_mem_cons]
    refine and_congr_left fun _ => ?_
    cases others.lookup f.1 with
    | none => simp
    | some y => simp

/-- A record equals a record of as many fields that has an equal cell under each of its keys. -/
lemma looselyEqual_record_iff : (Cell.record fields).looselyEqual b = true ↔ ∃ others, b = .record others ∧
    fields.length = others.length ∧ ∀ f ∈ fields, ∃ y, others.lookup f.1 = some y ∧ f.2.looselyEqual y = true := by
  cases b with
  | record others =>
    rw [looselyEqual, Bool.and_eq_true, beq_iff_eq, fieldsWithin_iff]
    simp
  | _ =>
    constructor
    · intro h
      cases h
    · rintro ⟨others, ⟨⟩, -⟩

/-! ## Loose equality as an equivalence -/

/-- All floating point numbers but the undefined one have a place. -/
lemma Definite.exists_place {x : Binary64} (hx : x ≠ .nan) : ∃ p, (Cell.float x).place? = some p := by
  cases x with
  | nan => exact absurd rfl hx
  | _ => exact ⟨_, rfl⟩

/-- A cell that has a place equals itself. -/
lemma looselyEqual_refl_of_place (h : a.place? = some p) : a.looselyEqual a = true :=
  (looselyEqual_place_iff h).mpr ⟨p, h, p.same_refl⟩

/-- Where no key is there twice, a field is what is found under its key. -/
lemma lookup_of_mem (hkeys : (fields.map Prod.fst).Nodup) {f : String × Cell} (hf : f ∈ fields) :
    fields.lookup f.1 = some f.2 :=
  (Directory.mem_entries_iff ⟨fields, hkeys⟩).mp hf

/-- A cell without undefined numbers equals itself. -/
lemma looselyEqual_refl (h : a.Definite) : a.looselyEqual a = true := by
  induction h with
  | null => rfl
  | bool => exact looselyEqual_refl_of_place rfl
  | int => exact looselyEqual_refl_of_place rfl
  | float hx =>
    obtain ⟨p, hp⟩ := Definite.exists_place hx
    exact looselyEqual_refl_of_place hp
  | text => exact looselyEqual_text_iff.mpr rfl
  | list _ ih =>
    refine looselyEqual_list_iff.mpr ⟨_, rfl, rfl, fun i x y hx hy => ?_⟩
    cases hx.symm.trans hy
    exact ih x (List.mem_of_getElem? hx)
  | record hkeys _ ih =>
    exact looselyEqual_record_iff.mpr ⟨_, rfl, rfl, fun f hf => ⟨f.2, lookup_of_mem hkeys hf, ih f hf⟩⟩

/-- For a cell that has a place the order of the sides does not matter. -/
lemma looselyEqual_symm_of_place (hp : a.place? = some p) (h : a.looselyEqual b = true) :
    b.looselyEqual a = true := by
  obtain ⟨q, hq, hsame⟩ := (looselyEqual_place_iff hp).mp h
  exact (looselyEqual_place_iff hq).mpr ⟨p, hp, Place.same_symm hsame⟩

/-- Of two records with as many fields, neither with a key twice, one has no other keys if it has all keys of the
other. -/
lemma exists_mem_of_lookup (hkeys : (fields.map Prod.fst).Nodup) (hlength : fields.length = others.length)
    (hfound : ∀ f ∈ fields, ∃ y, others.lookup f.1 = some y) {g : String × Cell} (hg : g ∈ others) :
    ∃ x, (g.1, x) ∈ fields := by
  have hsubset : fields.map Prod.fst ⊆ others.map Prod.fst := by
    intro key hkey
    obtain ⟨f, hf, rfl⟩ := List.mem_map.mp hkey
    obtain ⟨y, hy⟩ := hfound f hf
    exact List.mem_map.mpr ⟨(f.1, y), mem_of_lookup_eq_some hy, rfl⟩
  have hperm : (fields.map Prod.fst).Perm (others.map Prod.fst) := by
    apply (hkeys.subperm hsubset).perm_of_length_le
    rw [List.length_map, List.length_map, hlength]
  obtain ⟨f, hf, hkey⟩ := List.mem_map.mp (hperm.mem_iff.mpr (List.mem_map_of_mem hg))
  exact ⟨f.2, hkey ▸ hf⟩

/-- For cells without undefined numbers the order of the sides does not matter. -/
lemma looselyEqual_symm (ha : a.Definite) (hb : b.Definite) (h : a.looselyEqual b = true) :
    b.looselyEqual a = true := by
  induction ha generalizing b with
  | null =>
    cases looselyEqual_null_iff.mp h
    rfl
  | bool => exact looselyEqual_symm_of_place rfl h
  | int => exact looselyEqual_symm_of_place rfl h
  | float hx =>
    obtain ⟨p, hp⟩ := Definite.exists_place hx
    exact looselyEqual_symm_of_place hp h
  | text =>
    cases looselyEqual_text_iff.mp h
    exact looselyEqual_text_iff.mpr rfl
  | list _ ih =>
    obtain ⟨ys, rfl, hlength, hall⟩ := looselyEqual_list_iff.mp h
    cases hb with
    | list hys =>
      refine looselyEqual_list_iff.mpr ⟨_, rfl, hlength.symm, fun i y x hy hx => ?_⟩
      exact ih x (List.mem_of_getElem? hx) (hys y (List.mem_of_getElem? hy)) (hall i x y hx hy)
  | record hkeys _ ih =>
    obtain ⟨others, rfl, hlength, hall⟩ := looselyEqual_record_iff.mp h
    cases hb with
    | record hkeys' hothers =>
      refine looselyEqual_record_iff.mpr ⟨_, rfl, hlength.symm, fun g hg => ?_⟩
      have hfound := fun f hf => (hall f hf).imp fun _ => And.left
      obtain ⟨x, hx⟩ := exists_mem_of_lookup hkeys hlength hfound hg
      obtain ⟨y, hy, hequal⟩ := hall _ hx
      cases (lookup_of_mem hkeys' hg).symm.trans hy
      exact ⟨x, lookup_of_mem hkeys hx, ih _ hx (hothers g hg) hequal⟩

/-- A cell that has a place equals what is equal to what it equals. -/
lemma looselyEqual_trans_of_place (hp : a.place? = some p) (h : a.looselyEqual b = true)
    (h' : b.looselyEqual c = true) : a.looselyEqual c = true := by
  obtain ⟨q, hq, hsame⟩ := (looselyEqual_place_iff hp).mp h
  obtain ⟨r, hr, hsame'⟩ := (looselyEqual_place_iff hq).mp h'
  exact (looselyEqual_place_iff hp).mpr ⟨r, hr, Place.same_trans hsame hsame'⟩

/-- A cell without undefined numbers equals what is equal to what it equals. -/
lemma looselyEqual_trans (ha : a.Definite) (h : a.looselyEqual b = true) (h' : b.looselyEqual c = true) :
    a.looselyEqual c = true := by
  induction ha generalizing b c with
  | null =>
    cases looselyEqual_null_iff.mp h
    exact h'
  | bool => exact looselyEqual_trans_of_place rfl h h'
  | int => exact looselyEqual_trans_of_place rfl h h'
  | float hx =>
    obtain ⟨p, hp⟩ := Definite.exists_place hx
    exact looselyEqual_trans_of_place hp h h'
  | text =>
    cases looselyEqual_text_iff.mp h
    exact h'
  | list _ ih =>
    obtain ⟨ys, rfl, hlength, hall⟩ := looselyEqual_list_iff.mp h
    obtain ⟨zs, rfl, hlength', hall'⟩ := looselyEqual_list_iff.mp h'
    refine looselyEqual_list_iff.mpr ⟨_, rfl, hlength.trans hlength', fun i x z hx hz => ?_⟩
    have hi := hlength ▸ (List.getElem?_eq_some_iff.mp hx).1
    have hy : ys[i]? = some ys[i] := List.getElem?_eq_getElem hi
    exact ih x (List.mem_of_getElem? hx) (hall i x ys[i] hx hy) (hall' i ys[i] z hy hz)
  | record _ _ ih =>
    obtain ⟨others, rfl, hlength, hall⟩ := looselyEqual_record_iff.mp h
    obtain ⟨last, rfl, hlength', hall'⟩ := looselyEqual_record_iff.mp h'
    refine looselyEqual_record_iff.mpr ⟨_, rfl, hlength.trans hlength', fun f hf => ?_⟩
    obtain ⟨y, hy, hequal⟩ := hall f hf
    obtain ⟨z, hz, hequal'⟩ := hall' _ (mem_of_lookup_eq_some hy)
    exact ⟨z, hz, ih f hf hequal hequal'⟩

/-! ## Strict equality -/

/-- Different truth values differ as numbers, too. -/
lemma looselyEqual_bool_bool_iff {s t : Bool} : (Cell.bool s).looselyEqual (.bool t) = true ↔ s = t := by
  cases s <;> cases t <;> decide

/-- Strict equality is loose equality between truth values, or between cells that are none. -/
lemma strictlyEqual_iff :
    a.strictlyEqual b = true ↔ a.looselyEqual b = true ∧ (a.IsTruth ↔ b.IsTruth) := by
  cases a with
  | bool s =>
    cases b with
    | bool t =>
      rw [strictlyEqual, beq_iff_eq, looselyEqual_bool_bool_iff]
      exact (and_iff_left ⟨fun _ => .bool t, fun _ => .bool s⟩).symm
    | _ => exact ⟨nofun, fun h => nomatch h.2.mp (.bool s)⟩
  | _ =>
    cases b with
    | bool t => exact ⟨nofun, fun h => nomatch h.2.mpr (.bool t)⟩
    | _ => exact (and_iff_left ⟨nofun, nofun⟩).symm

/-- Strict equality is an equivalence of cells without undefined numbers. -/
lemma strictlyEqual_equivalence :
    Equivalence fun a b : {c : Cell // c.Definite} => a.1.strictlyEqual b.1 = true where
  refl a := strictlyEqual_iff.mpr ⟨looselyEqual_refl a.2, Iff.rfl⟩
  symm {a b} h := by
    obtain ⟨hequal, htruth⟩ := strictlyEqual_iff.mp h
    exact strictlyEqual_iff.mpr ⟨looselyEqual_symm a.2 b.2 hequal, htruth.symm⟩
  trans {a b c} h h' := by
    obtain ⟨hequal, htruth⟩ := strictlyEqual_iff.mp h
    obtain ⟨hequal', htruth'⟩ := strictlyEqual_iff.mp h'
    exact strictlyEqual_iff.mpr ⟨looselyEqual_trans a.2 hequal hequal', htruth.trans htruth'⟩

/-- Only a truth value equals itself. -/
lemma strictlyEqual_bool_iff {t : Bool} : a.strictlyEqual (.bool t) = true ↔ a = .bool t := by
  cases a with
  | bool s => rw [strictlyEqual, beq_iff_eq, Cell.bool.injEq]
  | _ => exact ⟨nofun, nofun⟩

/-- A truth value equals only itself. -/
lemma bool_strictlyEqual_iff {t : Bool} : (Cell.bool t).strictlyEqual a = true ↔ a = .bool t := by
  cases a with
  | bool s => rw [strictlyEqual, beq_iff_eq, Cell.bool.injEq, eq_comm]
  | _ => exact ⟨nofun, nofun⟩

/-- A whole number equals the cells that are numbers of the same value, however they are written. -/
lemma strictlyEqual_int_iff {n : Int} : a.strictlyEqual (.int n) = true ↔ a.number? = some (n : ℚ) := by
  rw [← namesPosition_iff]
  cases a <;> exact Iff.rfl

/-- Which of two cells comes first does not matter to their places. -/
lemma samePlace_comm (a b : Cell) : samePlace a b = samePlace b a := by
  rw [samePlace, samePlace]
  cases a.place? with
  | none => cases b.place? <;> rfl
  | some p =>
    cases b.place? with
    | none => rfl
    | some q => exact Bool.eq_iff_iff.mpr ⟨Place.same_symm, Place.same_symm⟩

/-- Against a whole number the order of the sides does not matter, undefined numbers or not. -/
lemma int_strictlyEqual_comm (n : Int) (a : Cell) : (Cell.int n).strictlyEqual a = a.strictlyEqual (.int n) := by
  cases a with
  | int m => exact samePlace_comm (.int n) (.int m)
  | float x => exact samePlace_comm (.int n) (.float x)
  | _ => rfl

/-- The undefined number equals nothing. -/
lemma nan_strictlyEqual (a : Cell) : (Cell.float .nan).strictlyEqual a = false := by
  cases a <;> rfl

/-- Nothing equals the undefined number. -/
lemma strictlyEqual_nan (a : Cell) : a.strictlyEqual (.float .nan) = false := by
  cases a with
  | float x => cases x <;> rfl
  | _ => rfl

/-- Equal cells of different kinds are a whole number and a floating point number. -/
lemma kindName_eq_or_number?_eq (h : a.strictlyEqual b = true) :
    a.kindName = b.kindName ∨ ∃ q, a.number? = some q ∧ b.number? = some q := by
  cases a with
  | null =>
    cases looselyEqual_null_iff.mp (strictlyEqual_iff.mp h).1
    exact .inl rfl
  | bool t =>
    cases bool_strictlyEqual_iff.mp h
    exact .inl rfl
  | int n =>
    rw [int_strictlyEqual_comm, strictlyEqual_int_iff] at h
    exact .inr ⟨n, rfl, h⟩
  | float x =>
    cases b with
    | int n => exact .inr ⟨n, strictlyEqual_int_iff.mp h, rfl⟩
    | float y => exact .inl rfl
    | _ => cases x <;> cases h
  | text s =>
    cases looselyEqual_text_iff.mp (strictlyEqual_iff.mp h).1
    exact .inl rfl
  | list xs =>
    obtain ⟨ys, rfl, -⟩ := looselyEqual_list_iff.mp (strictlyEqual_iff.mp h).1
    exact .inl rfl
  | record fields =>
    obtain ⟨others, rfl, -⟩ := looselyEqual_record_iff.mp (strictlyEqual_iff.mp h).1
    exact .inl rfl

end Cell

open Cell

/-- On the cells without undefined numbers strict equality is an equivalence. Equal cells are of one kind or the
same number. A truth value equals itself only, a whole number equals the cells that are exactly this number, and
the undefined number equals nothing, whichever cell is asked first. -/
theorem strictlyEqual_equivalence_and_separates :
    (Equivalence fun a b : {c : Cell // c.Definite} => a.1.strictlyEqual b.1 = true) ∧
    (∀ a b : Cell, a.strictlyEqual b = true →
      a.kindName = b.kindName ∨ ∃ q, a.number? = some q ∧ b.number? = some q) ∧
    (∀ (t : Bool) (c : Cell), ((Cell.bool t).strictlyEqual c = true ↔ c = .bool t) ∧
      (c.strictlyEqual (.bool t) = true ↔ c = .bool t)) ∧
    (∀ (n : Int) (c : Cell), ((Cell.int n).strictlyEqual c = true ↔ c.number? = some (n : ℚ)) ∧
      (c.strictlyEqual (.int n) = true ↔ c.number? = some (n : ℚ))) ∧
    ∀ c : Cell, (Cell.float .nan).strictlyEqual c = false ∧ c.strictlyEqual (.float .nan) = false := by
  refine ⟨strictlyEqual_equivalence, fun a b h => kindName_eq_or_number?_eq h, fun t c => ?_, fun n c => ?_,
    fun c => ?_⟩
  · exact ⟨bool_strictlyEqual_iff, strictlyEqual_bool_iff⟩
  · exact ⟨int_strictlyEqual_comm n c ▸ strictlyEqual_int_iff, strictlyEqual_int_iff⟩
  · exact ⟨nan_strictlyEqual c, strictlyEqual_nan c⟩

/-- Two records with their fields in another order, and with a truth value and a floating point number where the
other one has whole numbers. -/
theorem strictlyEqual_equivalence_and_separates_nested :
    (record [("a", list [bool true, text "x"]), ("b", float (.finite false (Nat.pow 2 52) (-52) (by decide)))]).Definite ∧
    (record [("b", int 1), ("a", list [int 1, text "x"])]).Definite ∧
    (record [("b", int 1), ("a", list [int 1, text "x"])]).strictlyEqual
      (record [("a", list [bool true, text "x"]), ("b", float (.finite false (Nat.pow 2 52) (-52) (by decide)))]) =
        true := by
  have pair {a b : Cell} (ha : a.Definite) (hb : b.Definite) : ∀ c ∈ [a, b], c.Definite :=
    List.forall_mem_cons.mpr ⟨ha, List.forall_mem_singleton.mpr hb⟩
  have fields {a b : String × Cell} (ha : a.2.Definite) (hb : b.2.Definite) : ∀ f ∈ [a, b], f.2.Definite :=
    List.forall_mem_cons.mpr ⟨ha, List.forall_mem_singleton.mpr hb⟩
  have hmixed : (record [("a", list [bool true, text "x"]),
      ("b", float (.finite false (Nat.pow 2 52) (-52) (by decide)))]).Definite :=
    .record (by decide) (fields (.list (pair .bool .text)) (.float nofun))
  have hwhole : (record [("b", int 1), ("a", list [int 1, text "x"])]).Definite :=
    .record (by decide) (fields .int (.list (pair .int .text)))
  have hequivalence := strictlyEqual_equivalence_and_separates.1
  exact ⟨hmixed, hwhole, hequivalence.symm (x := ⟨_, hmixed⟩) (y := ⟨_, hwhole⟩) rfl⟩

end Tabular
