import EntityQuery.Proofs.Storing
import Mathlib.Algebra.Order.Group.Nat
import Mathlib.Data.List.Find
import Mathlib.Data.List.Nodup
import Mathlib.Data.List.Pairwise
import Mathlib.Data.List.TakeWhile
import Mathlib.Tactic.ByContra

/-!
# Rows in any table of an entity type

What a row of a seed becomes in the table of an entity type of which a table can be made
(`Metadata.Makes`), with or without an integer key, and whatever other tables there are. In
every transaction that the table is in, a lawful engine refuses the row, or puts the same
table in place of that one (`Seeding.insertRow_cases`).

The records of a table that was filled are those of the rows (`Seeding.recordAt`), each once,
under the numbers that the rows give or get (`Seeding.Numbered`).

* `Table.Ordered.place`: one record more keeps the records in order;
* `Seeding.insertAll_cases`: a seed is refused, or all of it is inserted.
-/

namespace EntityQuery

open Store
open Sql (IsName nameOf)

/-- What is set where a single element stands is set for that element alone. -/
theorem set_map_of_unique {α β : Type} {p : α → Bool} {l : List α} {i : Nat} {a : α}
    (hl : l.Nodup) (hi : l[i]? = some a) (ha : p a = true)
    (h : ∀ b ∈ l, p b = true → b = a) (f : α → β) (x : β) :
    (l.map f).set i x = l.map fun b => if p b then x else f b := by
  refine List.ext_getElem? fun j => ?_
  rw [List.getElem?_set, List.getElem?_map, List.getElem?_map, List.length_map]
  have hlt := (List.getElem?_eq_some_iff.1 hi).1
  by_cases hij : i = j
  · subst hij
    rw [if_pos rfl, if_pos hlt, hi, Option.map_some, if_pos ha]
  · rw [if_neg hij]
    cases hj : l[j]? with
    | none => rfl
    | some b =>
      have hb : ¬p b = true := fun hb =>
        hij ((List.getElem?_inj hlt hl).1 (by rw [hi, hj, h b (List.mem_of_getElem? hj) hb]))
      rw [Option.map_some, Option.map_some, if_neg hb]

/-- A stored field is found by its name. -/
theorem Metadata.column?_of_mem {m : Metadata} {b : ColumnBinding}
    (hfields : (m.columns.map (·.field)).Nodup) (hb : b ∈ m.columns) :
    m.column? b.field = some b :=
  find?_of_unique hb (beq_self_eq_true _) fun _ hc hfield =>
    List.inj_on_of_nodup_map hfields hc hb (beq_iff_eq.1 hfield)

namespace ColumnBinding

/-- Whether a stored field is the number of its record. -/
def numbers (b : ColumnBinding) : Bool := (ColumnDefinition.ofBinding b).isIntegerKey

/-- A field that is the number of its record has integers. -/
theorem ofScalar_of_numbers {b : ColumnBinding} (h : b.numbers = true) :
    ColumnType.ofScalar b.type.scalarType = .integer := by
  have hkey : (ColumnDefinition.ofBinding b).key = .numbering := beq_iff_eq.1 h
  have hrole : (ColumnDefinition.ofBinding b).key = if Text.lower b.field == "id" then
    ColumnDefinition.roleOfKey (.ofScalar b.type.scalarType) else .plain := rfl
  rw [hrole] at hkey
  by_contra hne
  rw [ColumnDefinition.roleOfKey, if_neg hne] at hkey
  split at hkey <;> cases hkey

end ColumnBinding

/-- A table can be made of a definition by whose names a database reads those of an entity
    type, and no field is stored twice. -/
structure Metadata.Makes (m : Metadata) (d : TableDefinition) : Prop extends m.Named d where
  fields : (m.columns.map (·.field)).Nodup
  apart : d.columns.Pairwise ColumnDefinition.Apart

namespace Store

/-! ## Changes -/

namespace View

variable {E : Engine} {V : View E} {name : String} {t t' : Table} {c c' c'' : E.Content}

theorem Keeps.refl (c : E.Content) : V.Keeps name c c := fun _ _ _ => rfl

theorem Keeps.trans (h : V.Keeps name c c') (h' : V.Keeps name c' c'') : V.Keeps name c c'' :=
  fun other hne hreserved => (h' other hne hreserved).trans (h other hne hreserved)

theorem Puts.trans (h : V.Puts name t c c') (h' : V.Puts name t' c' c'') :
    V.Puts name t' c c'' :=
  ⟨h'.entry, h.others.trans h'.others⟩

end View

/-! ## Rows -/

namespace Seeding

variable {E : Engine} (V : View E)

/-- What a row leaves in the column of a stored field. -/
def datum (row : SeedRow) (b : ColumnBinding) : Datum :=
  V.store (.ofScalar b.type.scalarType) ((row.lookup b.field).elim .null .ofValue)

/-- The number that a row gives for its record, or null. -/
def numberGiven (m : Metadata) (row : SeedRow) : Datum :=
  match m.columns.find? (·.numbers) with
  | some b => datum V row b
  | none => .null

/-- The record that a row becomes under a number: the number where it is kept, and else what
    the row leaves in each column. -/
def recordAt (m : Metadata) (row : SeedRow) (n : Int) : Record :=
  ⟨n, m.columns.map fun b => if b.numbers then .integer (.ofInt n) else datum V row b⟩

/-- What a row gives, by the names that a database reads. -/
def pairs (m : Metadata) (row : SeedRow) : List (String × Datum) :=
  row.filterMap fun e => (m.column? e.1).map fun b => (b.readColumn.name, .ofValue e.2)

variable {V} {m : Metadata} {d : TableDefinition} {row : SeedRow} {ds : List (String × Datum)}
  {t t' : Table}

/-- The data of a row are given if each of its fields is stored. -/
theorem given_eq_ok (h : given m row = .ok ds) :
    (∀ e ∈ row, ∃ b ∈ m.columns, b.field = e.1) ∧
      ds = row.filterMap fun e => (m.column? e.1).map fun b => (b.column, .ofValue e.2) := by
  induction row generalizing ds with
  | nil =>
    cases h
    exact ⟨nofun, rfl⟩
  | cons e row ih =>
    simp only [given] at h
    split at h
    · cases h
    · next b hb =>
      split at h
      · cases h
      · next ds' hds' =>
        cases h
        obtain ⟨hmem, rfl⟩ := ih hds'
        have hfield : (b.field == e.1) = true :=
          List.find?_some (p := fun b : ColumnBinding => b.field == e.1) hb
        refine ⟨List.forall_mem_cons.2 ⟨⟨b, List.mem_of_find?_eq_some hb, ?_⟩, hmem⟩, ?_⟩
        · exact beq_iff_eq.1 hfield
        · rw [List.filterMap_cons, hb]
          rfl

/-- A row whose fields are stored has data. -/
theorem exists_given (hrow : ∀ e ∈ row, ∃ b ∈ m.columns, b.field = e.1) :
    ∃ ds, given m row = .ok ds := by
  induction row with
  | nil => exact ⟨[], rfl⟩
  | cons e row ih =>
    obtain ⟨ds, hds⟩ := ih fun e' he' => hrow e' (List.mem_cons_of_mem _ he')
    obtain ⟨b, hb, hfield⟩ := hrow e List.mem_cons_self
    cases hcolumn : m.column? e.1 with
    | none => exact absurd (beq_iff_eq.2 hfield) (List.find?_eq_none.1 hcolumn b hb)
    | some c => exact ⟨(c.column, .ofValue e.2) :: ds, by simp only [given, hcolumn, hds]⟩

/-- The data of a row are given by names. -/
theorem pairs_eq (hgiven : given m row = .ok ds) :
    pairs m row = ds.map fun g => (nameOf g.1, g.2) := by
  obtain ⟨-, rfl⟩ := given_eq_ok hgiven
  rw [pairs, List.map_filterMap]
  refine congrArg (List.filterMap · row) (funext fun e => ?_)
  rw [Option.map_map]
  rfl

/-- The columns that a row gives have names. -/
theorem isName_of_given (hd : m.Named d) (hgiven : given m row = .ok ds) :
    ∀ c ∈ ds.map (·.1), IsName c := by
  obtain ⟨-, rfl⟩ := given_eq_ok hgiven
  intro c hc
  obtain ⟨g, hg, rfl⟩ := List.mem_map.1 hc
  obtain ⟨e, -, hg⟩ := List.mem_filterMap.1 hg
  obtain ⟨b, hb, rfl⟩ := Option.map_eq_some_iff.1 hg
  exact hd.names b (List.mem_of_find?_eq_some hb)

/-- The parameters of the statement for a row have its data, one after the other. -/
theorem insertParameters_eq (ds : List (String × Datum)) : insertParameters ds =
    ((List.range ds.length).map Predicate.placeholder).zip (ds.map (·.2)) := by
  refine List.ext_getElem? fun i => ?_
  rw [insertParameters, List.getElem?_map, List.getElem?_zipIdx, List.zip_eq_zipWith,
    List.getElem?_zipWith, List.getElem?_map, List.getElem?_map]
  cases hi : ds[i]? with
  | none => simp
  | some g =>
    have hlt := (List.getElem?_eq_some_iff.1 hi).1
    simp [List.getElem?_range hlt]

/-- The statement for a row inserts a record, with a parameter for each of its columns. -/
theorem insertsRecord_of_given (hd : m.Named d) (hgiven : given m row = .ok ds) :
    Sql.InsertsRecord (insertSql m.table (ds.map (·.1))) d.name ((pairs m row).map (·.1))
      ((List.range ds.length).map Predicate.placeholder) := by
  have hform := insertsRecord_insertSql hd.table (isName_of_given hd hgiven)
  rw [List.length_map, List.map_map] at hform
  rwa [pairs_eq hgiven, List.map_map]

/-- The columns and the data of a row are those that it gives by names. -/
theorem zip_pairs (hgiven : given m row = .ok ds) :
    ((pairs m row).map (·.1)).zip (ds.map (·.2)) = pairs m row := by
  rw [pairs_eq hgiven, List.map_map, List.zip_map']
  rfl

/-- There is a column, a parameter and a datum for each value that a row gives. -/
theorem lengths_of_given (hgiven : given m row = .ok ds) :
    ((pairs m row).map (·.1)).length =
        ((List.range ds.length).map Predicate.placeholder).length ∧
      (ds.map (·.2)).length = ((List.range ds.length).map Predicate.placeholder).length := by
  simp only [pairs_eq hgiven, List.length_map, List.length_range, and_self]

theorem nodup_placeholders (n : Nat) : ((List.range n).map Predicate.placeholder).Nodup :=
  List.nodup_range.map Sql.placeholder_injective

/-- A row is inserted with a parameter for each of its columns. -/
theorem insertRow_of_given (hgiven : given m row = .ok ds) (x : E.Transaction) :
    insertRow m row x = ((E.execute (insertSql m.table (ds.map (·.1)))
        (((List.range ds.length).map Predicate.placeholder).zip (ds.map (·.2))) x).1.mapError
          .database,
      (E.execute (insertSql m.table (ds.map (·.1)))
        (((List.range ds.length).map Predicate.placeholder).zip (ds.map (·.2))) x).2) := by
  simp only [insertRow, hgiven, insertParameters_eq]

/-! ## Tables of the definition -/

theorem columns_eq (hd : m.Named d) (ht : t.definition = d) :
    t.columns = m.columns.map ColumnBinding.readColumn := by
  rw [Table.columns, ht, hd.columns]

theorem getElem?_columns (hd : m.Named d) (ht : t.definition = d) {b : ColumnBinding} {i : Nat}
    (hi : m.columns[i]? = some b) : t.columns[i]? = some b.readColumn := by
  rw [columns_eq hd ht, List.getElem?_map, hi]
  rfl

/-- Two columns are apart. -/
theorem apart_readColumn (hd : m.Makes d) {b c : ColumnBinding} (hb : b ∈ m.columns)
    (hc : c ∈ m.columns) (hne : b ≠ c) : b.readColumn.Apart c.readColumn := by
  have hapart := hd.apart
  rw [hd.columns, List.pairwise_map] at hapart
  have hsymm : Std.Symm fun b c : ColumnBinding => b.readColumn.Apart c.readColumn :=
    ⟨fun b c hbc => ⟨by rw [Sql.sameName, Bool.beq_comm]; exact hbc.1,
      by rw [Bool.and_comm]; exact hbc.2⟩⟩
  exact hapart.forall hb hc hne

/-- A column has its name alone. -/
theorem eq_of_sameName (hd : m.Makes d) {b c : ColumnBinding} (hb : b ∈ m.columns)
    (hc : c ∈ m.columns) (h : Sql.sameName b.readColumn.name c.readColumn.name = true) : b = c := by
  by_contra hne
  have hfalse := (apart_readColumn hd hb hc hne).1
  rw [h] at hfalse
  cases hfalse

/-- Only one column is the number of the record. -/
theorem eq_of_numbers (hd : m.Makes d) {b c : ColumnBinding} (hb : b ∈ m.columns)
    (hc : c ∈ m.columns) (hb' : b.numbers = true) (hc' : c.numbers = true) : b = c := by
  by_contra hne
  have hkey {b : ColumnBinding} (h : b.numbers = true) : b.readColumn.isKey = true := by
    have hkey : b.readColumn.key = .numbering := beq_iff_eq.1 h
    rw [ColumnDefinition.isKey, hkey]
    rfl
  have hfalse := (apart_readColumn hd hb hc hne).2
  rw [hkey hb', hkey hc'] at hfalse
  cases hfalse

/-- What the name of a column stands for. -/
theorem place?_eq (hd : m.Makes d) (ht : t.definition = d) {b : ColumnBinding} {i : Nat}
    (hi : m.columns[i]? = some b) :
    t.place? b.readColumn.name = if b.numbers then some .number else some (.column i) := by
  have hc := getElem?_columns hd.toNamed ht hi
  have hindex : t.columnIndex? b.readColumn.name = some i :=
    Table.columnIndex?_of_apart (by rw [Table.columns, ht]; exact hd.apart) hc
  simp only [Table.place?, hindex, hc, Option.any_some]
  rfl

theorem place?_eq_number_iff (hd : m.Makes d) (ht : t.definition = d) {b : ColumnBinding}
    (hb : b ∈ m.columns) :
    t.place? b.readColumn.name = some .number ↔ b.numbers = true := by
  obtain ⟨i, hi⟩ := List.getElem?_of_mem hb
  rw [place?_eq hd ht hi]
  cases b.numbers <;> simp

/-- A row gives something for columns of the table. -/
theorem isSome_place?_pairs (hd : m.Makes d) (ht : t.definition = d) :
    ∀ g ∈ pairs m row, (t.place? g.1).isSome = true := by
  intro g hg
  obtain ⟨e, -, hg⟩ := List.mem_filterMap.1 hg
  obtain ⟨b, hb, rfl⟩ := Option.map_eq_some_iff.1 hg
  obtain ⟨i, hi⟩ := List.getElem?_of_mem (List.mem_of_find?_eq_some hb)
  rw [place?_eq hd ht hi]
  split <;> rfl

/-- What a row gives for a column is found by its name. -/
theorem find?_pairs (hd : m.Makes d) {b : ColumnBinding} (hb : b ∈ m.columns)
    (hrow : ∀ e ∈ row, ∃ b ∈ m.columns, b.field = e.1) :
    ((pairs m row).find? fun g => Sql.sameName g.1 b.readColumn.name) =
      (row.lookup b.field).map fun v => (b.readColumn.name, .ofValue v) := by
  induction row with
  | nil => rfl
  | cons e row ih =>
    have ih := ih fun e' he' => hrow e' (List.mem_cons_of_mem _ he')
    obtain ⟨c, hc, hfield⟩ := hrow e List.mem_cons_self
    have hcolumn : m.column? e.1 = some c := hfield ▸ Metadata.column?_of_mem hd.fields hc
    have hpairs : pairs m (e :: row) = (c.readColumn.name, .ofValue e.2) :: pairs m row := by
      rw [pairs, List.filterMap_cons, hcolumn]
      rfl
    rw [hpairs, List.lookup_cons, ← hfield]
    by_cases hbc : b = c
    · subst hbc
      rw [List.find?_cons_of_pos (by exact beq_self_eq_true _), beq_self_eq_true]
      rfl
    · have hname : Sql.sameName c.readColumn.name b.readColumn.name = false :=
        Bool.eq_false_iff.2 fun hname => hbc (eq_of_sameName hd hc hb hname).symm
      have hne : (b.field == c.field) = false :=
        beq_eq_false_iff_ne.2 fun heq => hbc (List.inj_on_of_nodup_map hd.fields hb hc heq)
      rw [List.find?_cons, hname, hne]
      exact ih

/-- What a row leaves in the columns of the table. -/
theorem dataOf_pairs (hV : V.Lawful) (hd : m.Makes d) (ht : t.definition = d)
    (hrow : ∀ e ∈ row, ∃ b ∈ m.columns, b.field = e.1) :
    t.dataOf V.store (pairs m row) = m.columns.map (datum V row) := by
  rw [Table.dataOf, columns_eq hd.toNamed ht, List.map_map]
  refine List.map_congr_left fun b hb => ?_
  rw [Function.comp_apply, find?_pairs hd hb hrow, datum]
  cases row.lookup b.field with
  | none => exact (hV.store_null _).symm
  | some v => rfl

/-- The number that is given for the record of a row. -/
theorem numberOf_pairs (hV : V.Lawful) (hd : m.Makes d) (ht : t.definition = d)
    (hrow : ∀ e ∈ row, ∃ b ∈ m.columns, b.field = e.1) :
    t.numberOf V.store (pairs m row) = numberGiven V m row := by
  have hmem : ∀ g ∈ pairs m row, ∃ c ∈ m.columns, g.1 = c.readColumn.name := by
    intro g hg
    obtain ⟨e, -, hg⟩ := List.mem_filterMap.1 hg
    obtain ⟨c, hc, rfl⟩ := Option.map_eq_some_iff.1 hg
    exact ⟨c, List.mem_of_find?_eq_some hc, rfl⟩
  rw [numberGiven, Table.numberOf]
  cases hkey : m.columns.find? (·.numbers) with
  | none =>
    have hfind : ((pairs m row).find? fun g => t.place? g.1 == some .number) = none := by
      rw [List.find?_eq_none]
      intro g hg
      obtain ⟨c, hc, hname⟩ := hmem g hg
      rw [hname, beq_iff_eq, place?_eq_number_iff hd ht hc]
      exact List.find?_eq_none.1 hkey c hc
    rw [hfind]
  | some b =>
    have hb := List.mem_of_find?_eq_some hkey
    have hb' : b.numbers = true := List.find?_some hkey
    -- The number and the column go by the same names.
    have hfind : ((pairs m row).find? fun g => t.place? g.1 == some .number) =
        (pairs m row).find? fun g => Sql.sameName g.1 b.readColumn.name := by
      refine List.find?_congr fun g hg => ?_
      obtain ⟨c, hc, hname⟩ := hmem g hg
      rw [hname, Bool.eq_iff_iff, beq_iff_eq, place?_eq_number_iff hd ht hc]
      constructor
      · intro hc'
        rw [eq_of_numbers hd hc hb hc' hb', Sql.sameName, beq_self_eq_true]
      · intro hsame
        rw [eq_of_sameName hd hc hb hsame]
        exact hb'
    rw [hfind, find?_pairs hd hb hrow]
    simp only [datum, ColumnBinding.ofScalar_of_numbers hb']
    cases row.lookup b.field with
    | none => exact (hV.store_null _).symm
    | some v => rfl

end Seeding

/-! ## Records in order -/

namespace Table

variable {t t' : Table} {r : Record}

/-- The records of a table are in the order of their numbers, none of which is above the
    greatest that the table keeps. -/
structure Ordered (t : Table) : Prop where
  sorted : t.records.Pairwise fun a b => a.key < b.key
  le_sequence : ∀ r ∈ t.records, r.key ≤ t.sequence

theorem ordered_empty (d : TableDefinition) : (empty d).Ordered := ⟨.nil, nofun⟩

theorem perm_place (t : Table) (r : Record) : (t.place r).records.Perm (r :: t.records) := by
  refine List.perm_middle.trans (.cons r ?_)
  rw [List.takeWhile_append_dropWhile]

/-- From the first record whose number is not below a new one, all numbers are above it. -/
theorem Ordered.lt_of_mem_dropWhile (h : t.Ordered) (hr : ∀ r' ∈ t.records, r'.key ≠ r.key) :
    ∀ r' ∈ t.records.dropWhile (·.key < r.key), r.key < r'.key := by
  have hdrop := h.sorted.sublist
    (List.dropWhile_sublist fun r' : Record => decide (r'.key < r.key))
  cases hd : t.records.dropWhile (·.key < r.key) with
  | nil => nofun
  | cons first rest =>
    rw [hd, List.pairwise_cons] at hdrop
    have hmem : first ∈ t.records :=
      (List.dropWhile_sublist _).subset (hd ▸ List.mem_cons_self)
    have hnot : ¬first.key < r.key := by
      have := List.head_dropWhile_not (l := t.records)
        (fun r' : Record => decide (r'.key < r.key)) (by rw [hd]; exact List.cons_ne_nil _ _)
      simpa [hd] using this
    have hfirst : r.key < first.key :=
      lt_of_le_of_ne (Int.not_lt.1 hnot) fun heq => hr first hmem heq.symm
    exact List.forall_mem_cons.2 ⟨hfirst, fun r' hr' => hfirst.trans (hdrop.1 r' hr')⟩

/-- A record with a new number comes where its number belongs. -/
theorem Ordered.place (h : t.Ordered) (hr : ∀ r' ∈ t.records, r'.key ≠ r.key) :
    (t.place r).Ordered := by
  have hsorted := h.sorted
  rw [← List.takeWhile_append_dropWhile (p := fun r' => decide (r'.key < r.key)) (l := t.records),
    List.pairwise_append] at hsorted
  obtain ⟨htake, hdrop, hacross⟩ := hsorted
  have hbefore : ∀ r' ∈ t.records.takeWhile (·.key < r.key), r'.key < r.key :=
    fun r' hr' => of_decide_eq_true
      (List.mem_takeWhile_imp (p := fun r' : Record => decide (r'.key < r.key)) hr')
  constructor
  · refine List.pairwise_append.2
      ⟨htake, List.pairwise_cons.2 ⟨h.lt_of_mem_dropWhile hr, hdrop⟩, ?_⟩
    intro a ha b hb
    rcases List.mem_cons.1 hb with rfl | hb
    · exact hbefore a ha
    · exact hacross a ha b hb
  · intro r' hr'
    rcases List.mem_cons.1 ((t.perm_place r).mem_iff.1 hr') with rfl | hr'
    · exact Int.le_max_right _ _
    · exact (h.le_sequence r' hr').trans (Int.le_max_left _ _)

/-- The greatest key is the one kept for the table, if no record has a greater one. -/
theorem lastKey_eq (h : ∀ r ∈ t.records, r.key ≤ t.sequence) : t.lastKey = t.sequence := by
  rw [lastKey]
  generalize t.records = records at h
  induction records with
  | nil => rfl
  | cons r records ih =>
    rw [List.foldl_cons, Int.max_eq_left (h r List.mem_cons_self)]
    exact ih fun r' hr' => h r' (List.mem_cons_of_mem _ hr')

end Table

namespace Seeding

/-! ## Seeds -/

variable {E : Engine}

/-- The numbers of the records that rows become one after the other, where the greatest so
    far is given: those that the rows give, and else the next. -/
inductive Numbered (V : View E) (m : Metadata) : Int → List SeedRow → List Int → Prop
  | nil {last : Int} : Numbered V m last [] []
  | given {last : Int} {row : SeedRow} {rows : List SeedRow} {k : Int64} {ns : List Int} :
    numberGiven V m row = .integer k → Numbered V m (max last k.toInt) rows ns →
      Numbered V m last (row :: rows) (k.toInt :: ns)
  | next {last : Int} {row : SeedRow} {rows : List SeedRow} {ns : List Int} :
    numberGiven V m row = .null → Numbered V m (last + 1) rows ns →
      Numbered V m last (row :: rows) ((last + 1) :: ns)

/-- The fields of a row are stored, and there is one. -/
def Stored (m : Metadata) (row : SeedRow) : Prop :=
  row ≠ [] ∧ ∀ e ∈ row, ∃ b ∈ m.columns, b.field = e.1

variable {V : View E} {m : Metadata} {d : TableDefinition} {row : SeedRow} {rows : List SeedRow}
  {t t' : Table} {n : Int}

/-- A table with the record of a row under a number, added to those of another table. -/
structure Added (V : View E) (m : Metadata) (row : SeedRow) (n : Int) (t t' : Table) :
    Prop where
  definition : t'.definition = t.definition
  perm : t'.records.Perm (recordAt V m row n :: t.records)
  sequence : t'.sequence = max t.sequence n
  ordered : t'.Ordered
  number : (∃ k, numberGiven V m row = .integer k ∧ n = k.toInt) ∨
    numberGiven V m row = .null ∧ n = t.sequence + 1

/-- The number of a record is kept in the column that is one, if there is such a column. -/
theorem placeNumbered_eq (V : View E) (hd : m.Makes d) (ht : t.definition = d) (row : SeedRow)
    (n : Int) :
    t.placeNumbered n (m.columns.map (datum V row)) = t.place (recordAt V m row n) := by
  have hindex : t.keyIndex? = m.columns.findIdx? (·.numbers) := by
    rw [Table.keyIndex?, columns_eq hd.toNamed ht, List.findIdx?_map]
    rfl
  rw [Table.placeNumbered, hindex, recordAt]
  cases hi : m.columns.findIdx? (·.numbers) with
  | none =>
    have hdata : m.columns.map (datum V row) =
        m.columns.map fun b => if b.numbers then .integer (.ofInt n) else datum V row b := by
      refine List.map_congr_left fun b hb => ?_
      rw [if_neg (by simpa using List.findIdx?_eq_none_iff.1 hi b hb)]
    rw [hdata]
  | some i =>
    obtain ⟨hlt, hnumbers, -⟩ := List.findIdx?_eq_some_iff_getElem.1 hi
    have hset := set_map_of_unique (List.Nodup.of_map _ hd.fields) (List.getElem?_eq_getElem hlt)
      hnumbers (fun b hb hb' => eq_of_numbers hd hb (List.getElem_mem _) hb' hnumbers)
      (datum V row) (.integer (.ofInt n))
    simp only [hset]

/-- What a row becomes if it extends a table. -/
theorem added_of_extend (hV : V.Lawful) (hd : m.Makes d) (ht : t.definition = d)
    (hordered : t.Ordered) (hrow : ∀ e ∈ row, ∃ b ∈ m.columns, b.field = e.1)
    (h : t.extend V.store (pairs m row) = .ok t') : ∃ n, Added V m row n t t' := by
  obtain ⟨n, rfl, hnumber⟩ := Table.extend_eq_ok h
  rw [numberOf_pairs hV hd ht hrow, Table.lastKey_eq hordered.le_sequence] at hnumber
  rw [dataOf_pairs hV hd ht hrow, placeNumbered_eq V hd ht]
  have hnew : ∀ r ∈ t.records, r.key ≠ (recordAt V m row n).key := by
    intro r hr
    obtain ⟨k, -, -, hnew⟩ | ⟨-, rfl⟩ := hnumber
    · exact hnew r hr
    · exact (Int.lt_add_one_of_le (hordered.le_sequence r hr)).ne
  exact ⟨n, rfl, t.perm_place _, rfl, hordered.place hnew,
    hnumber.imp_left fun ⟨k, hk, hn, _⟩ => ⟨k, hk, hn⟩⟩

/-- A request is refused in every transaction that a table is in, for one reason. What is left
    if the transaction is rolled back is as it was. -/
def Refused (V : View E) (request : E.Transaction → Except StoreError Unit × E.Transaction)
    (name : String) (t : Table) : Prop :=
  ∃ e, ∀ x, V.entry (V.inside x) name = .table t →
    ∃ x', request x = (.error e, x') ∧ V.outside x' = V.outside x

/-- In every transaction that a table is in, a request puts another one in its place. -/
def Replaces (V : View E) (request : E.Transaction → Except StoreError Unit × E.Transaction)
    (name : String) (t t' : Table) : Prop :=
  ∀ x, V.entry (V.inside x) name = .table t →
    ∃ x', request x = (.ok (), x') ∧ V.outside x' = V.outside x ∧
      V.Puts name t' (V.inside x) (V.inside x')

/-- The statement for a row puts the table in its place that the row does. -/
theorem replaces_of_extends {ds : List (String × Datum)} {name : String}
    (hgiven : given m row = .ok ds)
    (h : V.Extends (insertSql m.table (ds.map (·.1)))
      (((List.range ds.length).map Predicate.placeholder).zip (ds.map (·.2))) name t t') :
    Replaces V (insertRow m row) name t t' := by
  intro x hx
  obtain ⟨x', hx', houtside, hputs⟩ := h x hx
  exact ⟨x', by rw [insertRow_of_given hgiven, hx']; rfl, houtside, hputs⟩

/-- A row is refused in every transaction that a table is in, for the same reason, or in each
    of them the same table takes the place of that one. -/
theorem insertRow_cases (hV : V.Lawful) (hd : m.Makes d) (ht : t.definition = d)
    (hordered : t.Ordered) (row : SeedRow) :
    Refused V (insertRow m row) d.name t ∨
      Stored m row ∧ ∃ t' n, Added V m row n t t' ∧ Replaces V (insertRow m row) d.name t t' := by
  cases hgiven : given m row with
  | error e =>
    refine .inl ⟨e, fun x _ => ⟨x, ?_, rfl⟩⟩
    simp only [insertRow, hgiven]
  | ok ds =>
    obtain ⟨hcolumns, hdata⟩ := lengths_of_given hgiven
    obtain ⟨f, hf⟩ | ⟨hne, -, t', hextend, hextends⟩ :=
      hV.insert t (insertsRecord_of_given hd.toNamed hgiven) (nodup_placeholders _) hcolumns hdata
    · refine .inl ⟨.database f, fun x hx => ?_⟩
      obtain ⟨x', hx', houtside⟩ := hf x hx
      exact ⟨x', by rw [insertRow_of_given hgiven, hx']; rfl, houtside⟩
    · rw [zip_pairs hgiven] at hextend
      have hrow := (given_eq_ok hgiven).1
      have hrow_ne : row ≠ [] := by
        rintro rfl
        cases hgiven
        exact hne rfl
      obtain ⟨n, hadded⟩ := added_of_extend hV hd ht hordered hrow hextend
      exact .inr ⟨⟨hrow_ne, hrow⟩, t', n, hadded, replaces_of_extends hgiven hextends⟩

theorem Replaces.nil (V : View E) (m : Metadata) (name : String) (t : Table) :
    Replaces V (insertAll m []) name t t :=
  fun x hx => ⟨x, rfl, rfl, hx, .refl _⟩

/-- Further rows go into the table that a row has put in its place. -/
theorem Replaces.cons {name : String} {mid : Table} (h : Replaces V (insertRow m row) name t mid)
    (hrows : Replaces V (insertAll m rows) name mid t') :
    Replaces V (insertAll m (row :: rows)) name t t' := by
  intro x hx
  obtain ⟨x₁, hx₁, houtside₁, hputs₁⟩ := h x hx
  obtain ⟨x₂, hx₂, houtside₂, hputs₂⟩ := hrows x₁ hputs₁.entry
  exact ⟨x₂, by rw [insertAll, hx₁]; exact hx₂, houtside₂.trans houtside₁, hputs₁.trans hputs₂⟩

/-- A seed is refused in every transaction that a table is in, for the same reason, or in each
    of them all of it is inserted, and the same table takes the place of that one. -/
theorem insertAll_cases (hV : V.Lawful) (hd : m.Makes d) (rows : List SeedRow)
    (ht : t.definition = d) (hordered : t.Ordered) :
    Refused V (insertAll m rows) d.name t ∨
    (∀ row ∈ rows, Stored m row) ∧ ∃ t' ns, Numbered V m t.sequence rows ns ∧
      t'.definition = d ∧ t'.Ordered ∧
      t'.records.Perm (List.zipWith (recordAt V m) rows ns ++ t.records) ∧
      t'.sequence = ns.foldl max t.sequence ∧ Replaces V (insertAll m rows) d.name t t' := by
  -- The table after a row is one of the same definition, which the other rows go into.
  induction rows generalizing t with
  | nil => exact .inr ⟨nofun, t, [], .nil, ht, hordered, .refl _, rfl, .nil V m d.name t⟩
  | cons row rows ih =>
    obtain ⟨e, he⟩ | ⟨hstored, mid, n, hadded, hrow⟩ := insertRow_cases hV hd ht hordered row
    · refine .inl ⟨e, fun x hx => ?_⟩
      obtain ⟨x', hx', houtside⟩ := he x hx
      exact ⟨x', by rw [insertAll, hx'], houtside⟩
    · have hmid : mid.definition = d := hadded.definition.trans ht
      obtain ⟨e, he⟩ | ⟨hrest, t', ns, hnumbered, ht', hordered', hperm, hlast, hrows⟩ :=
        ih hmid hadded.ordered
      · refine .inl ⟨e, fun x hx => ?_⟩
        obtain ⟨x₁, hx₁, houtside₁, hputs⟩ := hrow x hx
        obtain ⟨x₂, hx₂, houtside₂⟩ := he x₁ hputs.entry
        exact ⟨x₂, by rw [insertAll, hx₁]; exact hx₂, houtside₂.trans houtside₁⟩
      · refine .inr ⟨List.forall_mem_cons.2 ⟨hstored, hrest⟩, t', n :: ns, ?_, ht',
          hordered', ?_, ?_, hrow.cons hrows⟩
        · rw [hadded.sequence] at hnumbered
          obtain ⟨k, hk, rfl⟩ | ⟨hnull, rfl⟩ := hadded.number
          · exact .given hk hnumbered
          · rw [Int.max_eq_right (Int.le_of_lt (Int.lt_succ _))] at hnumbered
            exact .next hnull hnumbered
        · -- The record of the first row is the last of those that were there for the others.
          refine hperm.trans ((List.Perm.append_left _ hadded.perm).trans ?_)
          exact List.perm_middle
        · rw [hlast, hadded.sequence, List.foldl_cons]

end Seeding

end Store

end EntityQuery
