import EntityQuery.Proofs.Placing

/-!
# Rows that are inserted

What the rows of a seed become in the table of an entity type with an integer key
(`Metadata.Keyed`). A row that gives values for stored fields but not for the key
(`Seeding.Fits`) becomes a record with the next number, which holds in each column what
the column makes of the value for its field, and null where there is none
(`Seeding.record`).

* `Table.extend_unnumbered`: a record without a number gets the next;
* `insertRow_filled`: one row is one more record;
* `insertAll_filled`: the rows of a seed become records in their order, numbered from 1.
-/

namespace EntityQuery

open Store
open Sql (isColumnName IsTable)

/-- Whether a stored field is the key of its table. -/
def ColumnBinding.isKey (b : ColumnBinding) : Bool := Text.lower b.field == "id"

/-- The columns of an entity type are plain names that differ, letter case apart, and one
    field is the key, an integer. -/
structure Metadata.Keyed (m : Metadata) : Prop where
  names : ∀ b ∈ m.columns, isColumnName b.column = true
  apart : m.columns.Pairwise fun a b => Sql.sameName a.column b.column = false
  key : ∃ k ∈ m.columns, k.isKey = true ∧
    (k.type.scalarType = .int32 ∨ k.type.scalarType = .int64) ∧
    ∀ b ∈ m.columns, b.isKey = true → b = k

namespace Store.Seeding

variable {E : Engine}

/-- A row gives values for stored fields, at least for one and none for the key: each value
    is null or of the declared scalar type. -/
structure Fits (m : Metadata) (row : SeedRow) : Prop where
  ne_nil : row ≠ []
  nodup : (row.map (·.1)).Nodup
  given : ∀ e ∈ row, ∃ b ∈ m.columns, b.field = e.1 ∧ b.isKey = false ∧
    (e.2 = .null ∨ e.2.Proper b.type.scalarType)

/-- The statement for a row, with its data, is within all limits. -/
def Admitted (V : View E) (m : Metadata) (row : SeedRow) : Prop :=
  ∀ ds, given m row = .ok ds → V.Admits (insertSql m.table (ds.map (·.1))) (ds.map (·.2))

/-- What the record that a row becomes under a number holds for a stored field. -/
def cell (V : View E) (row : SeedRow) (n : Nat) (b : ColumnBinding) : Datum :=
  if b.isKey then .integer (.ofInt n) else datum V row b

/-- The record that a row becomes under a number. -/
def record (V : View E) (m : Metadata) (row : SeedRow) (n : Nat) : Record :=
  ⟨n, m.columns.map (cell V row n)⟩

/-- The table of an entity type that holds the rows of a seed. -/
def filled (V : View E) (m : Metadata) (name : String) (seed : List SeedRow) : Table :=
  ⟨⟨name, m.columns.map .ofBinding⟩, (seed.zipIdx 1).map fun e => record V m e.1 e.2,
    seed.length⟩

end Store.Seeding

/-! ## Keyed tables -/

namespace Metadata.Keyed

variable {m : Metadata} {a b : ColumnBinding}

/-- A column has its name alone. -/
theorem eq_of_sameName (h : m.Keyed) (ha : a ∈ m.columns) (hb : b ∈ m.columns)
    (hab : Sql.sameName a.column b.column = true) : a = b := by
  by_contra hne
  have hsymm : Std.Symm fun a b : ColumnBinding => Sql.sameName a.column b.column = false :=
    ⟨fun a b hab => by rwa [Sql.sameName, Bool.beq_comm] at hab⟩
  have hfalse := h.apart.forall ha hb hne
  rw [hab] at hfalse
  cases hfalse

/-- There is only one key. -/
theorem eq_of_isKey (h : m.Keyed) (ha : a ∈ m.columns) (ha' : a.isKey = true)
    (hb : b ∈ m.columns) (hb' : b.isKey = true) : a = b := by
  obtain ⟨k, -, -, -, hkey⟩ := h.key
  rw [hkey a ha ha', hkey b hb hb']

/-- The key orders the records, and no other column has a role. -/
theorem key_ofBinding (h : m.Keyed) (hb : b ∈ m.columns) :
    (ColumnDefinition.ofBinding b).key = if b.isKey then .numbering else .plain := by
  obtain ⟨k, -, -, htype, hkey⟩ := h.key
  have hrole : (ColumnDefinition.ofBinding b).key =
      if b.isKey then ColumnDefinition.roleOfKey (.ofScalar b.type.scalarType) else .plain := rfl
  rw [hrole]
  split
  · next hisKey =>
    rw [hkey b hb hisKey]
    rcases htype with htype | htype <;> rw [htype] <;> rfl
  · rfl

theorem isIntegerKey_ofBinding (h : m.Keyed) (hb : b ∈ m.columns) :
    (ColumnDefinition.ofBinding b).isIntegerKey = b.isKey := by
  rw [ColumnDefinition.isIntegerKey, h.key_ofBinding hb]
  cases b.isKey <;> rfl

theorem isKey_ofBinding (h : m.Keyed) (hb : b ∈ m.columns) :
    (ColumnDefinition.ofBinding b).isKey = b.isKey := by
  rw [ColumnDefinition.isKey, h.key_ofBinding hb]
  cases b.isKey <;> rfl

/-- The columns can be those of a table. -/
theorem pairwise_apart (h : m.Keyed) :
    (m.columns.map ColumnDefinition.ofBinding).Pairwise ColumnDefinition.Apart := by
  rw [List.pairwise_map]
  refine h.apart.imp_of_mem fun ha hb hab => ⟨hab, ?_⟩
  rw [h.isKey_ofBinding ha, h.isKey_ofBinding hb, Bool.eq_false_iff, ne_eq, Bool.and_eq_true]
  rintro ⟨ha', hb'⟩
  rw [h.eq_of_isKey ha ha' hb hb', Sql.sameName, beq_self_eq_true] at hab
  cases hab

theorem numbers_eq (h : m.Keyed) (hb : b ∈ m.columns) : b.numbers = b.isKey :=
  h.isIntegerKey_ofBinding hb

/-- A table can be made of the definition. -/
theorem makes (h : m.Keyed) (hfields : (m.columns.map (·.field)).Nodup) {name : String}
    (hname : IsTable m.table name) : m.Makes ⟨name, m.columns.map .ofBinding⟩ where
  toNamed := Metadata.named_of_isColumnName hname h.names
  fields := hfields
  apart := h.pairwise_apart

end Metadata.Keyed

namespace Store

/-! ## Records without a number -/

namespace Table

variable {t : Table}

/-- A record with the greatest number comes last. -/
theorem place_eq {r : Record} (h : ∀ r' ∈ t.records, r'.key < r.key) (hr : t.sequence ≤ r.key) :
    t.place r = { t with records := t.records ++ [r], sequence := r.key } := by
  have hall : ∀ r' ∈ t.records, decide (r'.key < r.key) = true :=
    fun r' hr' => decide_eq_true (h r' hr')
  rw [place, List.takeWhile_eq_self_iff.2 hall, List.dropWhile_eq_nil_iff.2 hall,
    Int.max_eq_right hr]

/-- A record that is given no number gets the next. -/
theorem extend_unnumbered {store : ColumnType → Datum → Datum} {given : List (String × Datum)}
    (hlast : ∀ r ∈ t.records, r.key ≤ t.sequence)
    (hmax : t.sequence + 1 ≤ Int64.maxValue.toInt) (hnumber : t.numberOf store given = .null) :
    t.extend store given = .ok (t.placeNumbered (t.sequence + 1) (t.dataOf store given)) := by
  rw [← lastKey_eq hlast] at hmax
  rw [extend, hnumber, insertNumbered_null hmax, lastKey_eq hlast]

end Table

/-! ## Rows -/

namespace Seeding

variable {E : Engine} {V : View E} {m : Metadata} {name : String} {row : SeedRow}
  {seed : List SeedRow}

theorem apart_filled (hm : m.Keyed) :
    (filled V m name seed).columns.Pairwise ColumnDefinition.Apart :=
  hm.pairwise_apart

theorem plain_filled (hm : m.Keyed) : ∀ c ∈ (filled V m name seed).columns, c.key ≠ .unique := by
  intro c hc
  obtain ⟨b, hb, rfl⟩ := List.mem_map.1 hc
  rw [hm.key_ofBinding hb]
  split <;> exact nofun

/-- The records are numbered up to the number of rows. -/
theorem key_le_filled :
    ∀ r ∈ (filled V m name seed).records, r.key ≤ (filled V m name seed).sequence := by
  intro r hr
  obtain ⟨⟨row, n⟩, he, rfl⟩ := List.mem_map.1 hr
  have := List.mem_zipIdx he
  show (n : Int) ≤ (seed.length : Int)
  omega

/-- The records of a keyed table are those of the rows. -/
theorem recordAt_eq (V : View E) (hm : m.Keyed) (row : SeedRow) (n : Nat) :
    recordAt V m row n = record V m row n := by
  rw [recordAt, record]
  refine congrArg _ (List.map_congr_left fun b hb => ?_)
  rw [hm.numbers_eq hb, cell]

/-- A row gives no number. -/
theorem numberGiven_eq (hV : V.Lawful) (hm : m.Keyed) (hfields : (m.columns.map (·.field)).Nodup)
    (hrow : Fits m row) : numberGiven V m row = .null := by
  rw [numberGiven]
  split
  · next k hk =>
    have hmem := List.mem_of_find?_eq_some hk
    have hkey : k.isKey = true :=
      hm.numbers_eq hmem ▸ List.find?_some (p := fun b : ColumnBinding => b.numbers) hk
    have hlookup : row.lookup k.field = none := by
      cases hlookup : row.lookup k.field with
      | none => rfl
      | some v =>
        obtain ⟨before, after, rfl, -⟩ := List.lookup_eq_some_iff.1 hlookup
        obtain ⟨b, hb, hfield, hplain, -⟩ := hrow.given (k.field, v) (by simp)
        obtain rfl := List.inj_on_of_nodup_map hfields hb hmem hfield
        rw [hkey] at hplain
        cases hplain
    rw [datum, hlookup]
    exact hV.store_null _
  · rfl

/-- One row more is one record more, at the end. -/
theorem filled_append (V : View E) (m : Metadata) (name : String) (seed : List SeedRow)
    (row : SeedRow) : filled V m name (seed ++ [row]) =
      ⟨⟨name, m.columns.map .ofBinding⟩,
        (filled V m name seed).records ++ [record V m row (seed.length + 1)], seed.length + 1⟩ := by
  have hrecords : (filled V m name (seed ++ [row])).records =
      (filled V m name seed).records ++ [record V m row (seed.length + 1)] := by
    rw [filled, List.zipIdx_append, List.map_append, Nat.add_comm 1]
    rfl
  have hsequence : (filled V m name (seed ++ [row])).sequence = (seed.length : Int) + 1 := by
    rw [filled, List.length_append, List.length_singleton]
    rfl
  rw [← hrecords, ← hsequence]
  rfl

/-- The filled table is extended by a further row, under the next number. -/
theorem extend_filled (hV : V.Lawful) (hm : m.Keyed) (hfields : (m.columns.map (·.field)).Nodup)
    (hname : IsTable m.table name) (hrow : Fits m row) (seed : List SeedRow)
    (hmax : seed.length + 1 < 2 ^ 63) :
    (filled V m name seed).extend V.store (pairs m row) =
      .ok (filled V m name (seed ++ [row])) := by
  have hd := hm.makes hfields hname
  have hfields' : ∀ e ∈ row, ∃ b ∈ m.columns, b.field = e.1 := fun e he =>
    (hrow.given e he).imp fun b hb => ⟨hb.1, hb.2.1⟩
  have hbelow : ∀ r ∈ (filled V m name seed).records, r.key < (seed.length : Int) + 1 :=
    fun r hr => Int.lt_add_one_of_le (key_le_filled r hr)
  have hmax' : (filled V m name seed).sequence + 1 ≤ Int64.maxValue.toInt := by
    show (seed.length : Int) + 1 ≤ Int64.maxValue.toInt
    have : Int64.maxValue.toInt = 2 ^ 63 - 1 := by decide
    omega
  have hnumber : (filled V m name seed).numberOf V.store (pairs m row) = .null :=
    (numberOf_pairs hV hd rfl hfields').trans (numberGiven_eq hV hm hfields hrow)
  have hrecord : recordAt V m row ((filled V m name seed).sequence + 1) =
      record V m row (seed.length + 1) := recordAt_eq V hm row (seed.length + 1)
  rw [Table.extend_unnumbered key_le_filled hmax' hnumber, dataOf_pairs hV hd rfl hfields',
    placeNumbered_eq V hd rfl, hrecord, Table.place_eq hbelow (Int.le_of_lt (Int.lt_succ _)),
    filled_append]
  rfl

/-- One row more is one record more in the table. -/
theorem insertRow_filled (hV : V.Lawful) (hm : m.Keyed) (hfields : (m.columns.map (·.field)).Nodup)
    (hname : IsTable m.table name) (hrow : Fits m row) (hadmits : Admitted V m row)
    (seed : List SeedRow) (hmax : seed.length + 1 < 2 ^ 63) :
    Replaces V (insertRow m row) name (filled V m name seed) (filled V m name (seed ++ [row])) := by
  have hd := hm.makes hfields hname
  obtain ⟨ds, hds⟩ := exists_given fun e he =>
    (hrow.given e he).imp fun b hb => ⟨hb.1, hb.2.1⟩
  have hne : (pairs m row).map (·.1) ≠ [] := by
    obtain ⟨e, row', rfl⟩ := List.exists_cons_of_ne_nil hrow.ne_nil
    obtain ⟨b, hb, hfield, -⟩ := hrow.given e List.mem_cons_self
    have hcolumn : m.column? e.1 = some b := hfield ▸ Metadata.column?_of_mem hfields hb
    rw [pairs, List.filterMap_cons, hcolumn]
    exact List.cons_ne_nil _ _
  have hplaces : ∀ c ∈ (pairs m row).map (·.1),
      ((filled V m name seed).place? c).isSome = true := by
    intro c hc
    obtain ⟨g, hg, rfl⟩ := List.mem_map.1 hc
    exact isSome_place?_pairs hd rfl g hg
  have hextend := extend_filled hV hm hfields hname hrow seed hmax
  rw [← zip_pairs hds] at hextend
  obtain ⟨hcolumns, hdata⟩ := lengths_of_given hds
  exact replaces_of_extends hds (hV.inserts (insertsRecord_of_given hd.toNamed hds)
    (nodup_placeholders _) hcolumns hdata hne hplaces (plain_filled hm) hextend (hadmits ds hds))

/-- The rows of a seed become records in their order. -/
theorem insertAll_filled (hV : V.Lawful) (hm : m.Keyed)
    (hfields : (m.columns.map (·.field)).Nodup) (hname : IsTable m.table name)
    (seed rows : List SeedRow) (hrows : ∀ row ∈ rows, Fits m row ∧ Admitted V m row)
    (hmax : seed.length + rows.length < 2 ^ 63) :
    Replaces V (insertAll m rows) name (filled V m name seed)
      (filled V m name (seed ++ rows)) := by
  induction rows generalizing seed with
  | nil =>
    rw [List.append_nil]
    exact .nil V m name _
  | cons row rows ih =>
    rw [List.length_cons] at hmax
    obtain ⟨hrow, hadmits⟩ := hrows row List.mem_cons_self
    have hlength : (seed ++ [row]).length + rows.length < 2 ^ 63 := by
      rw [List.length_append, List.length_singleton]
      omega
    have hfirst := insertRow_filled hV hm hfields hname hrow hadmits seed (by omega)
    have hothers := ih (seed ++ [row]) (fun r hr => hrows r (List.mem_cons_of_mem _ hr)) hlength
    rw [List.append_assoc, List.singleton_append] at hothers
    exact hfirst.cons hothers

end Seeding

end Store

end EntityQuery
