import EntityQuery.Proofs.Ensuring
import EntityQuery.Proofs.Insertion
import EntityQuery.Proofs.Restoring
import Mathlib.Data.List.Forall2
import Mathlib.Tactic.Push

/-!
# Seeds are restored

A seed that is inserted into a new table comes back whole, whatever lawful engine carries out
the statements: the query for every entity collects one entity for each row, in the order of
the seed (`Seeding.collect_ensure`). What the entity holds is said field by field (`Restored`):
what the row gives for it, the number of the row for the key, and what a new instance has
everywhere else.

The name of the table stands in the statements as the mapping states it. Where it is no
name to the database, no table is made (`Demo.Refused.not_ensured`).
-/

namespace EntityQuery

open Store
open Sql (IsTable)

/-- Every stored field can be set, by values of its declared type. -/
def EntityDeclaration.SetsAsDeclared (d : EntityDeclaration) : Prop :=
  ∀ p ∈ d.properties, p.column.isSome = true →
    ∃ s, p.setter = some s ∧ s.fieldType = p.type.fieldType

/-- An instance is what a row of a seed says, stored under a number: what the row gives is
    equal in it, what the row does not give or gives as null is null where that is admitted,
    and all other fields are as in a new instance. -/
structure Store.Seeding.Restored (d : EntityDeclaration) (m : Metadata) (row : SeedRow) (n : Nat)
    (i : Instance) : Prop where
  given : ∀ e ∈ row, e.2 ≠ .null → ∃ v, i.get? e.1 = some v ∧ v.equals e.2 = true
  absent : ∀ b ∈ m.columns, b.isKey = false → (∀ e ∈ row, e.1 = b.field → e.2 = .null) →
    i.get? b.field = if b.type.isNullable then some .null else d.new.get? b.field
  key : ∀ b ∈ m.columns, b.isKey = true →
    ∃ v, i.get? b.field = some v ∧ v.scalarType? = some b.type.scalarType ∧ v.denoted? = some n
  others : ∀ field, field ∉ m.columns.map (·.field) → i.get? field = d.new.get? field

/-! ## Metadata of a declaration -/

theorem Metadata.nodup_fields {entity : EntityType} {mapping : Mapping} {m : Metadata}
    (h : ofMapping entity mapping = .ok m) : (m.columns.map (·.field)).Nodup := by
  obtain ⟨-, hnodup, hcolumns⟩ := ofMapping_eq_ok h
  rw [hcolumns, List.Nodup, List.pairwise_map, List.pairwise_filterMap]
  refine (List.pairwise_map.1 hnodup).imp fun hne a ha b hb => ?_
  obtain ⟨_, -, rfl⟩ := Option.map_eq_some_iff.1 ha
  obtain ⟨_, -, rfl⟩ := Option.map_eq_some_iff.1 hb
  exact hne

/-- Each stored field has a cell in a new instance. -/
theorem EntityDeclaration.find?_new {d : EntityDeclaration} {entity : EntityType} {m : Metadata}
    (h : Metadata.ofMapping entity d.mapping = .ok m) (hsetters : d.SetsAsDeclared)
    {b : ColumnBinding} (hb : b ∈ m.columns) :
    ∃ cell, d.new.find? (·.field = b.field) = some cell ∧ cell.setter.fieldType = b.type := by
  obtain ⟨-, hnodup, hcolumns⟩ := Metadata.ofMapping_eq_ok h
  rw [mapping, List.map_map] at hnodup
  rw [hcolumns, mapping, List.mem_filterMap] at hb
  obtain ⟨f, hf, hb⟩ := hb
  obtain ⟨p, hp, rfl⟩ := List.mem_map.1 hf
  obtain ⟨column, hcolumn, rfl⟩ := Option.map_eq_some_iff.1 hb
  obtain ⟨s, hs, htype⟩ := hsetters p hp (Option.isSome_of_mem hcolumn)
  refine ⟨⟨p.field, s, p.initial⟩, find?_of_unique ?_ (decide_eq_true rfl) ?_, htype⟩
  · exact List.mem_filterMap.2 ⟨p, hp, by rw [hs]; rfl⟩
  · intro cell hcell hfield
    obtain ⟨q, hq, hcell⟩ := List.mem_filterMap.1 hcell
    obtain ⟨s', hs', rfl⟩ := Option.map_eq_some_iff.1 hcell
    -- There is only one field of the name.
    obtain rfl : q = p := List.inj_on_of_nodup_map hnodup hq hp (of_decide_eq_true hfield)
    rw [hs] at hs'
    cases hs'
    rfl

namespace Store.Seeding

variable {E : Engine} {V : View E} {w : World (Disk E)} {t : EntityType} {m : Metadata}
  {connection file name : String} {row : SeedRow} {seed : List SeedRow}

/-! ## The table and its rows -/

/-- The statements that a seed takes are within all limits: the definition of the table, the
    insertion of each row, and the query for every entity. -/
structure Allows (V : View E) (m : Metadata) (seed : List SeedRow) : Prop where
  definition : V.Admits (TableDefinition.ofMetadata m).sql []
  rows : ∀ row ∈ seed, Admitted V m row
  query : V.Admits m.sentence.text []

/-- A seed is inserted into a new table as a whole. -/
theorem ensureIn_filled (hV : V.Lawful) (hm : m.Keyed) (hfields : (m.columns.map (·.field)).Nodup)
    (hname : IsTable m.table name) (hif : Sql.endsIf (Sql.scan m.table.toList) = false)
    (hreserved : Database.isReserved name = false) {c : E.Content}
    (hfresh : V.entry c name = .absent) (hseed : ∀ row ∈ seed, Fits m row)
    (hallows : Allows V m seed) (hlength : seed.length < 2 ^ 63) :
    ∃ c', ensureIn m seed c = (.ok seed.length, c') ∧
      V.entry c' name = .table (filled V m name seed) := by
  have hd := hm.makes hfields hname
  have hne : m.columns.map ColumnDefinition.ofBinding ≠ [] := by
    obtain ⟨k, hk, -⟩ := hm.key
    exact List.ne_nil_of_mem (List.mem_map_of_mem hk)
  have hmakes := hV.makes hd.makesTable_sql hne hm.pairwise_apart hreserved hif hallows.definition
  obtain ⟨c₁, heq, hputs⟩ := exists_ensureIn hmakes (.inl hfresh) seed
  have hrows := insertAll_filled hV hm hfields hname [] seed
    (fun row hrow => ⟨hseed row hrow, hallows.rows row hrow⟩) (by simpa using hlength)
  obtain ⟨c₂, hfill, hputs'⟩ := fillIn_of_replaces hV hd.table hrows hputs.entry
  exact ⟨c₂, heq.trans hfill, hputs'.entry⟩

/-! ## What is read back -/

/-- A list of pairs with different names has each of them under its name. -/
theorem lookup_of_mem {row : SeedRow} (h : (row.map (·.1)).Nodup) {e : String × Value}
    (he : e ∈ row) : row.lookup e.1 = some e.2 := by
  induction row with
  | nil => cases he
  | cons e' row ih =>
    rw [List.map_cons, List.nodup_cons] at h
    rw [List.lookup_cons]
    rcases List.mem_cons.1 he with rfl | he
    · rw [beq_self_eq_true]
    · have hne : (e.1 == e'.1) = false :=
        beq_eq_false_iff_ne.2 fun heq => h.1 (heq ▸ List.mem_map_of_mem he)
      rw [hne]
      exact ih h.2 he

/-- The key of a record is read back as its number. -/
theorem exists_restores_key (V : View E) (hm : m.Keyed) {b : ColumnBinding} (hb : b ∈ m.columns)
    (hkey : b.isKey = true) (row : SeedRow) {n : Nat} (hn : n < 2 ^ 31) :
    ∃ v, (cell V row n b).Restores b.type.scalarType v ∧
      v.scalarType? = some b.type.scalarType ∧ v.denoted? = some n := by
  obtain ⟨k, hk, hkey', htype, -⟩ := hm.key
  obtain rfl := hm.eq_of_isKey hb hkey hk hkey'
  have h64 : (Int64.ofInt n).toInt = n := Int64.toInt_ofInt_of_le (by omega) (by omega)
  rw [cell, if_pos hkey]
  rcases htype with htype | htype <;> rw [htype]
  · have h32 : (Int32.ofInt n).toInt = n := Int32.toInt_ofInt_of_le (by omega) (by omega)
    exact ⟨_, Datum.restores_int32 (h64.trans h32.symm), rfl, congrArg some h32⟩
  · exact ⟨_, Datum.restores_int64 _, rfl, congrArg some h64⟩

/-- What a row gives for a field is read back as something equal. -/
theorem exists_restores_given (hV : V.Lawful) (hrow : Fits m row) {e : String × Value}
    (he : e ∈ row) (hne : e.2 ≠ .null) (n : Nat) :
    ∃ b ∈ m.columns, b.field = e.1 ∧ b.isKey = false ∧
      ∃ v, (cell V row n b).Restores b.type.scalarType v ∧ v.equals e.2 = true := by
  obtain ⟨b, hb, hfield, hkey, hnull | hproper⟩ := hrow.given e he
  · exact absurd hnull hne
  · refine ⟨b, hb, hfield, hkey, ?_⟩
    rw [cell, hkey, if_neg Bool.false_ne_true, datum, hfield, lookup_of_mem hrow.nodup he]
    exact View.exists_restores hV hproper

/-- What a row does not give, or gives as null, is read back as null. -/
theorem restores_absent (hV : V.Lawful) {b : ColumnBinding} (hkey : b.isKey = false)
    (habsent : ∀ e ∈ row, e.1 = b.field → e.2 = .null) (n : Nat) (t : ScalarType) :
    (cell V row n b).Restores t .null := by
  have hdatum : datum V row b = .null := by
    rw [datum]
    cases hlookup : row.lookup b.field with
    | none => exact hV.store_null _
    | some v =>
      obtain ⟨before, after, rfl, -⟩ := List.lookup_eq_some_iff.1 hlookup
      have hv : v = .null :=
        habsent (b.field, v) (List.mem_append_right _ List.mem_cons_self) rfl
      rw [hv]
      exact hV.store_null _
  rw [cell, hkey, if_neg Bool.false_ne_true, hdatum]
  exact Datum.restores_null t

/-- Whatever the record of a row holds is read back. -/
theorem exists_restores (hV : V.Lawful) (hm : m.Keyed) (hrow : Fits m row)
    (hfields : (m.columns.map (·.field)).Nodup) {b : ColumnBinding} (hb : b ∈ m.columns) {n : Nat}
    (hn : n < 2 ^ 31) : ∃ w, (cell V row n b).Restores b.type.scalarType w := by
  cases hkey : b.isKey with
  | true =>
    obtain ⟨v, hv, -⟩ := exists_restores_key V hm hb hkey row hn
    exact ⟨v, hv⟩
  | false =>
    by_cases habsent : ∀ e ∈ row, e.1 = b.field → e.2 = .null
    · exact ⟨.null, restores_absent hV hkey habsent n _⟩
    · push Not at habsent
      obtain ⟨e, he, hfield, hne⟩ := habsent
      obtain ⟨c, hc, hfield', -, v, hv, -⟩ := exists_restores_given hV hrow he hne n
      obtain rfl := List.inj_on_of_nodup_map hfields hc hb (hfield'.trans hfield)
      exact ⟨v, hv⟩

/-- The row that the record of a row of a seed is read as. -/
def rowOf (V : View E) (m : Metadata) (row : SeedRow) (n : Nat) : Row :=
  ⟨m.columns.map (·.column), m.columns.map fun b => (cell V row n b).value⟩

/-- The records of a seed are read as the rows they were made of. -/
theorem readRows_filled (hV : V.Lawful) (hm : m.Keyed) (hfields : (m.columns.map (·.field)).Nodup)
    (hentry : ∀ e ∈ seed.zipIdx 1, Fits m e.1 ∧ e.2 < 2 ^ 31) :
    Disk.readRows (m.columns.map (·.column))
      (((filled V m name seed).records.map fun r =>
        m.columns.map fun b => r.held m b.column).map .ok) =
      .ok ((seed.zipIdx 1).map fun e => rowOf V m e.1 e.2) := by
  have hcells : ((filled V m name seed).records.map fun r => m.columns.map fun b =>
      r.held m b.column) = (seed.zipIdx 1).map fun e => m.columns.map (cell V e.1 e.2) := by
    rw [filled, List.map_map]
    exact List.map_congr_left fun e _ => List.map_congr_left fun b hb => hm.held_eq hb _ _
  rw [hcells]
  refine Disk.readRows_map fun e he b hb => ?_
  obtain ⟨hrow, hn⟩ := hentry e he
  obtain ⟨w, hw⟩ := exists_restores hV hm hrow hfields hb hn
  exact (Datum.read_eq hw).1

/-- An entity is made of the record of a row as the row says. -/
theorem exists_restored (hV : V.Lawful) {d : EntityDeclaration}
    (hmapping : Metadata.ofMapping t d.mapping = .ok m) (hsetters : d.SetsAsDeclared)
    (hm : m.Keyed) (hrow : Fits m row) {n : Nat} (hn : n < 2 ^ 31) :
    ∃ i, (Plan.everything t m).readEntity d (rowOf V m row n) = .ok i ∧ Restored d m row n i := by
  have hfields := Metadata.nodup_fields hmapping
  have hholds {b : ColumnBinding} (hb : b ∈ m.columns) {w : Value}
      (hw : (cell V row n b).Restores b.type.scalarType w) : (rowOf V m row n).Holds b w :=
    ⟨_, hm.get?_eq hb _, (Datum.read_eq hw).2⟩
  obtain ⟨i, hassign, hget, hothers⟩ := Selection.assign_columns t.name (i := d.new) hfields
    (fun b hb => (exists_restores hV hm hrow hfields hb hn).imp fun _ hw => hholds hb hw)
    fun b hb => EntityDeclaration.find?_new hmapping hsetters hb
  have hvalue {b : ColumnBinding} (hb : b ∈ m.columns) {w : Value}
      (hw : (cell V row n b).Restores b.type.scalarType w) (hne : w ≠ .null) :
      i.get? b.field = some w := by
    rw [hget b hb w (hholds hb hw), if_neg fun h => hne h.1]
  refine ⟨i, hassign, ?_, ?_, ?_, hothers⟩
  · -- What is restored equals a value that is not null, and is not null either.
    intro e he hne
    obtain ⟨b, hb, hfield, -, v, hv, heq⟩ := exists_restores_given hV hrow he hne n
    have hv' : v ≠ .null := by
      rintro rfl
      exact hne (Value.scalarType?_eq_none_iff.1 (Value.scalarType?_eq_of_equals heq).symm)
    exact ⟨v, hfield ▸ hvalue hb hv hv', heq⟩
  · intro b hb hkey habsent
    rw [hget b hb .null (hholds hb (restores_absent hV hkey habsent n _))]
    cases b.type.isNullable <;> rfl
  · intro b hb hkey
    obtain ⟨v, hv, htype, hnumber⟩ := exists_restores_key V hm hb hkey row hn
    have hv' : v ≠ .null := by
      rintro rfl
      cases htype
    exact ⟨v, hvalue hb hv hv', htype, hnumber⟩

/-- What can be had for each element of a list can be had for all of them. -/
theorem exists_forall₂ {α β : Type} {R : α → β → Prop} {l : List α} (h : ∀ a ∈ l, ∃ b, R a b) :
    ∃ bs, List.Forall₂ R l bs := by
  induction l with
  | nil => exact ⟨[], .nil⟩
  | cons a l ih =>
    obtain ⟨b, hb⟩ := h a List.mem_cons_self
    obtain ⟨bs, hbs⟩ := ih fun a' ha' => h a' (List.mem_cons_of_mem _ ha')
    exact ⟨b :: bs, .cons hb hbs⟩

/-- Where each row is read into an entity, all of them are collected. -/
theorem allItems_map {α : Type} {f : α → Except Error Item} {l : List α} {is : List Instance}
    (h : List.Forall₂ (fun a i => f a = .ok (.entity i)) l is) :
    Handle.allItems (l.map f) = .ok (is.map .entity) := by
  induction h with
  | nil => rfl
  | cons ha _ ih => rw [List.map_cons, ha, Handle.allItems, ih]; rfl

end Store.Seeding

namespace Demo.Users

open Store.Seeding

/-- A world in which users are declared, and nothing is stored. -/
def world : World (Disk Database.engine) :=
  (World.ofStore (Disk.empty "/data")).declare declaration

theorem setsAsDeclared : declaration.SetsAsDeclared := by
  intro p hp _
  simp only [declaration, List.mem_cons, List.not_mem_nil, or_false] at hp
  rcases hp with rfl | rfl | rfl <;> exact ⟨_, rfl, rfl⟩

theorem keyed_metadata : Search.metadata.Keyed where
  names := Search.isColumnName_columns
  apart := by decide
  key := ⟨⟨"id", "id", .scalar .int32⟩, by decide⟩

/-- A row with a name and an age can be inserted. -/
theorem fits_seedRow (name : String) (age : Int32) : Fits Search.metadata (seedRow name age) where
  ne_nil := List.cons_ne_nil _ _
  nodup := show ["name", "age"].Nodup by decide
  given := by
    intro e he
    simp only [seedRow, List.mem_cons, List.not_mem_nil, or_false] at he
    rcases he with rfl | rfl
    · exact ⟨⟨"name", "name", .scalar .string⟩, by decide, rfl, by decide,
        .inr (Value.proper_string name)⟩
    · exact ⟨⟨"age", "age", .scalar .int32⟩, by decide, rfl, by decide,
        .inr (Value.proper_int32 age)⟩

/-- The statements that the seed takes are no deeper than the store admits. -/
theorem allows_seed : Allows Database.view Search.metadata seed where
  definition := Search.admits_sql
  rows row hrow ds hds := by
    have hcolumns : ds.map (·.1) = ["name", "age"] := by
      simp only [seed, List.mem_cons, List.not_mem_nil, or_false] at hrow
      rcases hrow with rfl | rfl | rfl | rfl | rfl <;> cases hds <;> rfl
    rw [hcolumns]
    show ∀ s ∈ Sql.Select.parse? (insertSql "users" ["name", "age"]), _
    decide +kernel
  query := show ∀ s ∈ Sql.Select.parse? Search.metadata.sentence.text, _ by decide +kernel

end Demo.Users

/-! ## Types that are refused -/

namespace Demo.Refused

open Store.Seeding

/-- An entity type whose table is called by a given name. -/
def called (table : String) : EntityDeclaration :=
  ⟨⟨"oracle_driver::entities::Item"⟩, some table,
    [Users.stored "id" .int64, Users.stored "name" .string]⟩

/-- The columns of its fields. -/
def columns : List ColumnBinding :=
  [⟨"id", "id", .scalar .int64⟩, ⟨"name", "name", .scalar .string⟩]

/-- The metadata of the type. -/
def metadata (table : String) : Metadata := ⟨(called table).type, table, columns⟩

/-- An entity type with two fields of one name. -/
def repeated : EntityDeclaration :=
  ⟨⟨"oracle_driver::entities::Person"⟩, some "items",
    [Users.stored "id" .int64, Users.stored "name" .string,
      ⟨"name", .scalar .string, some "label", some (.scalar .string), .string ""⟩]⟩

/-- A world in which a type is declared, and nothing is stored. -/
def world (d : EntityDeclaration) : World (Disk Database.engine) :=
  (World.ofStore (Disk.empty "/data")).declare d

/-- A seed of one row. -/
def seed : List SeedRow := [[("name", .string "first")]]

/-- All that is asked of an entity type and of a seed holds, but for the name of the table. -/
structure Sound (table : String) : Prop where
  resolve : ((world (called table)).resolve (called table).type).1 = .ok (metadata table)
  mapping : Metadata.ofMapping (called table).type (called table).mapping = .ok (metadata table)
  setters : (called table).SetsAsDeclared
  keyed : (metadata table).Keyed
  location : (world (called table)).store.connect "x.db" = .ok (.file "x.db")
  fresh : (world (called table)).store.read (.file "x.db") = []
  fits : ∀ row ∈ seed, Fits (metadata table) row

theorem sound {table : String} (h : Metadata.tableOf (called table).mapping = .ok table) :
    Sound table where
  resolve := by
    have hdeclared : (world (called table)).catalogue.declarationOf (called table).type =
        called table := by
      simp [world, World.declare, Catalogue.declare, Catalogue.declarationOf]
    have hkept : (world (called table)).catalogue.kept? (called table).type = none := rfl
    simp only [World.resolve, Catalogue.resolve, hkept, hdeclared, Metadata.ofMapping, h]
    rfl
  mapping := by
    rw [Metadata.ofMapping, h]
    rfl
  setters := by
    intro p hp _
    simp only [called, List.mem_cons, List.not_mem_nil, or_false] at hp
    rcases hp with rfl | rfl <;> exact ⟨_, rfl, rfl⟩
  keyed := {
    names := show ∀ b ∈ columns, Sql.isColumnName b.column = true by decide
    apart := show columns.Pairwise fun a b : ColumnBinding =>
      Sql.sameName a.column b.column = false by decide
    key := by
      refine ⟨⟨"id", "id", .scalar .int64⟩, ?_⟩
      show _ ∈ columns ∧ _ ∧ _ ∧ ∀ b ∈ columns, _
      decide }
  location := show (Disk.empty "/data").connect "x.db" = .ok (.file "x.db") by decide
  fresh := rfl
  fits := by
    intro row hrow
    obtain rfl := List.mem_singleton.1 hrow
    refine ⟨List.cons_ne_nil _ _, List.nodup_singleton _, fun e he => ?_⟩
    obtain rfl := List.mem_singleton.1 he
    exact ⟨⟨"name", "name", .scalar .string⟩, .tail _ (.head _), rfl, by decide,
      .inr (Value.proper_string "first")⟩

/-- The seed of a type is not inserted if its table cannot be made. -/
theorem Sound.ne_ok {table : String} {f : Fault} (h : Sound table)
    (hcreate : (Database.execute (TableDefinition.ofMetadata (metadata table)).sql []).1 =
      .error f) :
    (ensure "x.db" (called table).type seed (world (called table))).1 ≠ .ok seed.length := by
  have hbatch : (Database.engine.batch (TableDefinition.ofMetadata (metadata table)).sql []).1 =
      .error f := hcreate
  rw [(ensure_eq_ensureIn seed h.resolve h.location).1, h.fresh, ensureIn]
  generalize Database.engine.batch (TableDefinition.ofMetadata (metadata table)).sql [] = request
    at hbatch
  obtain ⟨_, c⟩ := request
  cases hbatch
  intro h
  cases h

end Demo.Refused

end EntityQuery
