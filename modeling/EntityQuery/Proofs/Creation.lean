import EntityQuery.Store.Prepared
import EntityQuery.Store.Schema

/-!
# Columns and records of tables

The columns of a table are *apart*: no two of them have one name, letter case apart, and at
most one is a key. So in the table every column is found by its name alone.

* `check_eq_ok_iff`: columns make a table exactly if they are apart;
* `Table.columnIndex?_of_apart`: where a column of such a table is found;
* `Table.extend_eq_ok`: a record that extends a table is placed under a new number.
-/

namespace EntityQuery.Store

/-- What alone meets a condition is found by it. -/
theorem find?_of_unique {α : Type} {p : α → Bool} {l : List α} {a : α} (ha : a ∈ l)
    (hp : p a = true) (h : ∀ b ∈ l, p b = true → b = a) : l.find? p = some a := by
  cases hfind : l.find? p with
  | none => exact absurd hp (List.find?_eq_none.1 hfind a ha)
  | some b => rw [h b (List.mem_of_find?_eq_some hfind) (List.find?_some hfind)]

/-- Two columns that may be in one table. -/
def ColumnDefinition.Apart (a b : ColumnDefinition) : Prop :=
  Sql.sameName a.name b.name = false ∧ (a.isKey && b.isKey) = false

namespace TableDefinition

/-- A column is apart from others if none has its name, and none is a key beside it. -/
theorem forall_apart_iff {seen : List ColumnDefinition} {c : ColumnDefinition} :
    (∀ s ∈ seen, s.Apart c) ↔
      hasColumn seen c.name = false ∧ (c.isKey && seen.any (·.isKey)) = false := by
  rw [hasColumn, List.any_eq_false, Bool.and_eq_false_iff, List.any_eq_false]
  simp only [ColumnDefinition.Apart, Bool.and_eq_false_iff, Bool.not_eq_true]
  constructor
  · intro h
    refine ⟨fun s hs => (h s hs).1, ?_⟩
    cases hc : c.isKey
    · exact .inl rfl
    · exact .inr fun s hs => (h s hs).2.resolve_right (by rw [hc]; exact nofun)
  · rintro ⟨hname, hkey | hkey⟩ s hs
    · exact ⟨hname s hs, .inr hkey⟩
    · exact ⟨hname s hs, .inl (hkey s hs)⟩

theorem checkFrom_eq_ok_iff {table : String} {seen columns : List ColumnDefinition} :
    checkFrom table seen columns = .ok () ↔
      (∀ c ∈ columns, ∀ s ∈ seen, s.Apart c) ∧ columns.Pairwise ColumnDefinition.Apart := by
  induction columns generalizing seen with
  | nil => simp [checkFrom]
  | cons c columns ih =>
    rw [checkFrom]
    -- The column passes from those to be checked to those seen, and so do its conditions.
    by_cases hc : ∀ s ∈ seen, s.Apart c
    · obtain ⟨hname, hkey⟩ := forall_apart_iff.1 hc
      simp only [hname, hkey, Bool.false_eq_true, if_false, ih, List.mem_cons, List.pairwise_cons,
        forall_eq_or_imp]
      constructor
      · rintro ⟨hseen, hp⟩
        exact ⟨⟨hc, fun d hd => (hseen d hd).2⟩, fun d hd => (hseen d hd).1, hp⟩
      · rintro ⟨⟨-, hseen⟩, hrest, hp⟩
        exact ⟨fun d hd => ⟨hrest d hd, hseen d hd⟩, hp⟩
    · refine iff_of_false (fun h => ?_) fun h => hc (h.1 c List.mem_cons_self)
      split at h
      · cases h
      · next hname =>
        split at h
        · cases h
        · next hkey =>
          exact hc (forall_apart_iff.2 ⟨by simpa using hname, by simpa using hkey⟩)

/-- Columns make a table exactly if they are apart. -/
theorem check_eq_ok_iff {d : TableDefinition} :
    d.check = .ok () ↔ d.columns.Pairwise ColumnDefinition.Apart := by
  simp [check, checkFrom_eq_ok_iff]

end TableDefinition

/-! ## Columns that are apart -/

namespace Table

variable {t : Table} {i : Nat} {c : ColumnDefinition}

/-- No column before one has its name, and none of both is a key if the other is. -/
theorem apart_of_lt (h : t.columns.Pairwise ColumnDefinition.Apart)
    (hc : t.columns[i]? = some c) {j : Nat} (hj : j < i) (hlt : j < t.columns.length) :
    t.columns[j].Apart c := by
  obtain ⟨hi, rfl⟩ := List.getElem?_eq_some_iff.1 hc
  exact List.pairwise_iff_getElem.1 h j i hlt hi hj

/-- A column is found by its name. -/
theorem columnIndex?_of_apart (h : t.columns.Pairwise ColumnDefinition.Apart)
    (hc : t.columns[i]? = some c) : t.columnIndex? c.name = some i := by
  obtain ⟨hi, hget⟩ := List.getElem?_eq_some_iff.1 hc
  rw [columnIndex?, List.findIdx?_eq_some_iff_getElem]
  refine ⟨hi, ?_, fun j hj => ?_⟩
  · rw [hget]
    exact beq_self_eq_true _
  · rw [Bool.not_eq_true]
    exact (apart_of_lt h hc hj _).1

/-- The integer key, if there is one, is the first. -/
theorem keyIndex?_of_apart (h : t.columns.Pairwise ColumnDefinition.Apart)
    (hc : t.columns[i]? = some c) (hkey : c.isIntegerKey = true) : t.keyIndex? = some i := by
  obtain ⟨hi, hget⟩ := List.getElem?_eq_some_iff.1 hc
  have hkeys {d : ColumnDefinition} (hd : d.isIntegerKey = true) : d.isKey = true := by
    rw [ColumnDefinition.isIntegerKey, beq_iff_eq] at hd
    rw [ColumnDefinition.isKey, hd]
    rfl
  rw [keyIndex?, List.findIdx?_eq_some_iff_getElem]
  refine ⟨hi, by rw [hget]; exact hkey, fun j hj => ?_⟩
  intro hj'
  have := (apart_of_lt h hc hj (Nat.lt_trans hj hi)).2
  rw [hkeys hj', hkeys hkey] at this
  cases this

/-- The name of a column leads somewhere. -/
theorem isSome_place? (h : t.columns.Pairwise ColumnDefinition.Apart)
    (hc : t.columns[i]? = some c) : (t.place? c.name).isSome = true := by
  simp only [place?, columnIndex?_of_apart h hc]
  split <;> rfl

/-- What a column holds in a record is at its place among the columns. -/
theorem column?_of_apart (h : t.columns.Pairwise ColumnDefinition.Apart)
    (hc : t.columns[i]? = some c) (r : Record) :
    t.column? r c.name = some (c.type, r.data.getD i .null) := by
  simp only [column?, columnIndex?_of_apart h hc, hc, Option.map_some]

/-! ## Records -/

variable {t' : Table}

/-- The number that a record without one gets is one more than the greatest. -/
theorem insertNumbered_null (hmax : t.lastKey + 1 ≤ Int64.maxValue.toInt) (data : List Datum) :
    t.insertNumbered .null data = .ok (t.placeNumbered (t.lastKey + 1) data) :=
  if_pos hmax

/-- A record has the number that is given, which is new, or else the next. -/
theorem insertNumbered_eq_ok {number : Datum} {data : List Datum}
    (h : t.insertNumbered number data = .ok t') :
    ∃ n, t' = t.placeNumbered n data ∧
      ((∃ k, number = .integer k ∧ n = k.toInt ∧ ∀ r ∈ t.records, r.key ≠ n) ∨
        number = .null ∧ n = t.lastKey + 1) := by
  cases number with
  | null =>
    by_cases hmax : t.lastKey + 1 ≤ Int64.maxValue.toInt
    · rw [insertNumbered_null hmax] at h
      exact ⟨t.lastKey + 1, (Except.ok.inj h).symm, .inr ⟨rfl, rfl⟩⟩
    · have hfull : t.insertNumbered .null data = .error .full := if_neg hmax
      rw [hfull] at h
      cases h
  | integer k =>
    by_cases hany : (t.records.any fun r => r.key == k.toInt) = true
    · have hrepeated : t.insertNumbered (.integer k) data =
        .error (.repeatedKey t.definition.name t.numberName) := if_pos hany
      rw [hrepeated] at h
      cases h
    · have hplaced : t.insertNumbered (.integer k) data = .ok (t.placeNumbered k.toInt data) :=
        if_neg hany
      rw [hplaced] at h
      refine ⟨k.toInt, (Except.ok.inj h).symm, .inl ⟨k, rfl, rfl, fun r hr heq => hany ?_⟩⟩
      exact List.any_eq_true.2 ⟨r, hr, beq_iff_eq.2 heq⟩
  | real => cases h
  | text => cases h
  | blob => cases h

/-- A record that extends a table is placed under its number. -/
theorem extend_eq_ok {store : ColumnType → Datum → Datum} {given : List (String × Datum)}
    (h : t.extend store given = .ok t') :
    ∃ n, t' = t.placeNumbered n (t.dataOf store given) ∧
      ((∃ k, t.numberOf store given = .integer k ∧ n = k.toInt ∧ ∀ r ∈ t.records, r.key ≠ n) ∨
        t.numberOf store given = .null ∧ n = t.lastKey + 1) :=
  insertNumbered_eq_ok h

end Table

/-- A column has its own name in a result. -/
theorem Prepared.columnName?_of_apart {p : Prepared} {t : Table} {i : Nat} {c : ColumnDefinition}
    (hp : p.table = some t) (h : t.columns.Pairwise ColumnDefinition.Apart)
    (hc : t.columns[i]? = some c) : p.columnName? c.name = some c.name := by
  rw [columnName?, hp, Option.bind_some, Table.place?, Table.columnIndex?_of_apart h hc]
  by_cases hkey : c.isIntegerKey = true
  · simp only [hc, Option.any_some, hkey, if_true, Table.numberName,
      Table.keyIndex?_of_apart h hc hkey, Option.bind_some]
  · simp only [hc, Option.any_some, hkey, Bool.false_eq_true, if_false, Option.map_some]

end EntityQuery.Store
