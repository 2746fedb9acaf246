import EntityQuery.Proofs.Collection
import EntityQuery.Proofs.Insertion

/-!
# Entities that are read back

What the query for every entity of a type collects of the records in its table. Its
statement has no condition, so that the records are visited as they are stored
(`Handle.collect_set`). A row is then read into a new instance, field by
field (`Selection.assign_columns`): a field gets what the row holds for it, coerced to
the declared type, unless that is null and the field does not admit null. The other
fields are left as they are.
-/

namespace EntityQuery

open Store
open Sql (isColumnName IsTable)

/-! ## The statement -/

/-- The plan for every entity of a type. -/
def Plan.everything (t : EntityType) (m : Metadata) : Plan :=
  ⟨t, some m, everyColumn m, .entity, none, none⟩

/-- The query for every entity has the plan for them. -/
theorem Plan.isOf_everything (t : EntityType) (m : Metadata) :
    IsOf m (.ofSource t) (everything t m) :=
  ⟨rfl, rfl, rfl, .none, rfl⟩

/-- The sentence that asks for every column. -/
def Metadata.sentence (m : Metadata) : Sql.Sentence :=
  ⟨m.columns.map (·.column), m.table, none, none⟩

theorem Plan.sentence_everything (t : EntityType) (m : Metadata) :
    (everything t m).sentence m none = m.sentence := by
  rw [sentence, everything, everyColumn, List.map_map]
  rfl

/-- The query for every entity of a type collects what the records in its table are read
    back as. -/
theorem Handle.collect_set {E : Engine} {V : View E} (hV : V.Lawful) {w : World (Disk E)}
    {m : Metadata} {t : EntityType} {context : Context} {location : Location} {name : String}
    {table : Table} (hm : (w.resolve t).1 = .ok m)
    (hcolumns : ∀ b ∈ m.columns, isColumnName b.column = true) (hne : m.columns ≠ [])
    (hname : IsTable m.table name) (hlocation : w.store.connect context.connection = .ok location)
    (hfound : V.entry (w.store.read location) name = .table table)
    (ht : table.columns = m.columns.map ColumnDefinition.ofBinding)
    (hapart : table.columns.Pairwise ColumnDefinition.Apart)
    (hkey : table.keyIndex?.isSome = true) (hplain : ∀ c ∈ table.columns, c.key ≠ .unique)
    (hadmits : V.Admits m.sentence.text []) :
    ((Handle.set context t).collect Disk.executor w).1 =
      match Disk.readRows (m.columns.map (·.column))
          ((table.records.map fun r => m.columns.map fun b => r.held m b.column).map .ok) with
      | .error e => .error e.toError
      | .ok rows =>
        allItems (rows.map ((Handle.set context t).read w.catalogue (.everything t m))) := by
  have hof := Plan.isOf_everything t m
  have hp : ((Handle.set context t).plan w).1 = .ok (.everything t m) :=
    World.translate_eq_ok_iff.2 ⟨m, hm, hof⟩
  obtain ⟨u, vs, hl, hrender⟩ := hof.exists_sentence
  obtain ⟨rfl, rfl⟩ : u = none ∧ vs = [] := by
    cases hl
    exact ⟨rfl, rfl⟩
  have hsql : (Plan.everything t m).render.sql = m.sentence.text := by
    rw [hrender, Plan.sentence_everything]
  have hparameters : (Plan.everything t m).render.parameters = [] := by
    rw [hrender]
    rfl
  -- There is nothing to choose: the records of the table are visited as they are stored.
  have hasks := hof.asksTable hl (by rw [hrender]) hcolumns hname hne ht hapart
  have hscans := hV.scans hasks rfl hkey hplain
  have hquery := Disk.query_render hV hof hcolumns hname hne ht hapart hlocation hfound
    (by rw [hparameters, hsql]; exact hadmits) hscans
  have hselected : m.selected (Chain.ofSource t).projection? = m.columns.map (·.column) := rfl
  have hanswer : m.answer V.operators (Chain.ofSource t).filters (Chain.ofSource t).limit?
      table.records = table.records := by
    simp [Metadata.answer, Chain.ofSource, Chain.limit?, Chain.filters, firsts]
  have hcontext : (Handle.set context t).context = context := rfl
  rw [hselected, hanswer] at hquery
  simp only [List.map_map, Function.comp_def] at hquery ⊢
  have hcollect := Handle.collect_executor hp
  rw [hcontext, hquery] at hcollect
  exact hcollect

/-! ## Rows -/

/-- A row of named values has the value of the first that bears a name. -/
theorem Row.get?_map {α : Type} (f : α → String) (g : α → Value) (l : List α) (column : String) :
    Row.get? ⟨l.map f, l.map g⟩ column = (l.find? (f · == column)).map g := by
  rw [Row.get?]
  induction l with
  | nil => rfl
  | cons a l ih =>
    rw [List.map_cons, List.idxOf?_cons, List.find?_cons]
    cases f a == column with
    | true => rfl
    | false =>
      rw [← ih]
      simp only [Bool.false_eq_true, if_false]
      cases List.idxOf? column (l.map f) <;> rfl

namespace Metadata.Keyed

variable {m : Metadata} {b : ColumnBinding}

/-- A column is found by its name among all. -/
theorem find?_column (hm : m.Keyed) (hb : b ∈ m.columns) :
    m.columns.find? (·.column == b.column) = some b := by
  refine find?_of_unique hb (beq_self_eq_true _) fun c hc heq => hm.eq_of_sameName hc hb ?_
  rw [beq_iff_eq.1 heq, Sql.sameName, beq_self_eq_true]

/-- What a record holds in a column, if it was made column by column. -/
theorem held_eq (hm : m.Keyed) (hb : b ∈ m.columns) (n : Int) (f : ColumnBinding → Datum) :
    (Record.mk n (m.columns.map f)).held m b.column = f b := by
  have hfind := hm.find?_column hb
  rw [List.find?_eq_getElem?_findIdx] at hfind
  rw [Record.held, List.getD_eq_getElem?_getD, List.getElem?_map, hfind]
  rfl

/-- The value of a row for a column, if it was made column by column. -/
theorem get?_eq (hm : m.Keyed) (hb : b ∈ m.columns) (g : ColumnBinding → Value) :
    Row.get? ⟨m.columns.map (·.column), m.columns.map g⟩ b.column = some (g b) := by
  rw [Row.get?_map, hm.find?_column hb]
  rfl

end Metadata.Keyed

namespace Store

/-- The value that a datum is read back as, or null. -/
def Datum.value (d : Datum) : Value :=
  match d.read with
  | .ok v => v
  | .error _ => .null

theorem Datum.read_eq {d : Datum} {t : ScalarType} {w : Value} (h : d.Restores t w) :
    d.read = .ok d.value ∧ d.value.convert t = .ok w := by
  obtain ⟨v, hv, hw⟩ := h
  rw [Datum.value, hv]
  exact ⟨rfl, hw⟩

namespace Disk

variable {α β : Type} {names : α → String} {l : List α}

/-- A row is read if all of its data are. -/
theorem readRow_map {f : α → Datum} (h : ∀ a ∈ l, (f a).read = .ok (f a).value) :
    readRow ((l.map names).zip (l.map f)) = .ok (l.map fun a => (f a).value) := by
  induction l with
  | nil => rfl
  | cons a l ih =>
    rw [List.map_cons, List.map_cons, List.zip_cons_cons, readRow, h a List.mem_cons_self,
      ih fun a' ha' => h a' (List.mem_cons_of_mem _ ha')]
    rfl

/-- Rows are read if all of their data are. -/
theorem readRows_map {rows : List β} {f : β → α → Datum}
    (h : ∀ r ∈ rows, ∀ a ∈ l, (f r a).read = .ok (f r a).value) :
    readRows (l.map names) ((rows.map fun r => l.map (f r)).map .ok) =
      .ok (rows.map fun r => ⟨l.map names, l.map fun a => (f r a).value⟩) := by
  induction rows with
  | nil => rfl
  | cons r rows ih =>
    rw [List.map_cons, List.map_cons, readRows, readRow_map (h r List.mem_cons_self),
      ih fun r' hr' => h r' (List.mem_cons_of_mem _ hr')]
    rfl

end Disk

end Store

/-! ## Instances -/

/-- A member reads null if it admits it, and a value of its scalar type, as they are. -/
theorem MemberType.read_eq_ok {s : MemberType} {w : Value}
    (hw : w = .null ∧ s.isNullable = true ∨ w.scalarType? = some s.scalarType) :
    s.read w = .ok w := by
  rcases hw with ⟨rfl, hs⟩ | hw
  · exact read_eq_ok_null_iff.2 ⟨hs, rfl⟩
  · have hne : w ≠ .null := fun h => by rw [h] at hw; cases hw
    rw [read_of_ne_null hne]
    exact Value.coerce_eq_ok_iff.2 (Value.convert_of_scalarType? hw)

namespace Instance

variable {i : Instance} {field : String} {cell : Cell} {v w : Value}

/-- Setting a field changes it and no other. -/
theorem set_eq_ok (h : i.find? (·.field = field) = some cell) (hread : cell.setter.read v = .ok w) :
    ∃ i', i.set field v = .ok (some i') ∧ i'.get? field = some w ∧
      ∀ f, f ≠ field → i'.find? (·.field = f) = i.find? (·.field = f) := by
  induction i with
  | nil => cases h
  | cons c rest ih =>
    by_cases hc : c.field = field
    · obtain rfl : c = cell := by simpa [hc] using h
      refine ⟨{ c with value := w } :: rest, ?_, ?_, fun f hf => ?_⟩
      · simp only [set, hc, if_true, hread]
      · simp [get?, hc]
      · have hne : c.field ≠ f := fun heq => hf (heq.symm.trans hc)
        simp [hne]
    · obtain ⟨rest', hset, hget, hothers⟩ := ih (by simpa [hc] using h)
      refine ⟨c :: rest', ?_, ?_, fun f hf => ?_⟩
      · simp only [set, hc, if_false, hset]
      · simpa [get?, hc] using hget
      · rw [List.find?_cons, List.find?_cons, hothers f hf]

end Instance

/-- A row has something for a column that, coerced to the declared type, is `w`. -/
def Row.Holds (row : Row) (b : ColumnBinding) (w : Value) : Prop :=
  ∃ v, row.get? b.column = some v ∧ v.convert b.type.scalarType = .ok w

/-- What a row holds for a column is the value in the place of the column, coerced. -/
theorem Row.holds_iff {row : Row} {b : ColumnBinding} {w : Value} :
    row.Holds b w ↔ ∃ i v, row.IsPlaceOf b.column i ∧ row.values[i]? = some v ∧
      v.convert b.type.scalarType = .ok w := by
  simp only [Row.Holds, Row.get?_eq_some_iff]
  exact ⟨fun ⟨v, ⟨i, hi, hv⟩, hw⟩ => ⟨i, v, hi, hv, hw⟩,
    fun ⟨i, v, hi, hv, hw⟩ => ⟨v, ⟨i, hi, hv⟩, hw⟩⟩

theorem Row.Holds.unique {row : Row} {b : ColumnBinding} {w w' : Value} (h : row.Holds b w)
    (h' : row.Holds b w') : w = w' := by
  obtain ⟨v, hv, hw⟩ := h
  obtain ⟨v', hv', hw'⟩ := h'
  rw [hv] at hv'
  cases hv'
  exact Except.ok.inj (hw.symm.trans hw')

/-- What a row holds for a column is null or of the declared type. -/
theorem Row.Holds.eq_null_or {row : Row} {b : ColumnBinding} {w : Value} (h : row.Holds b w) :
    w = .null ∨ w.scalarType? = some b.type.scalarType := by
  obtain ⟨v, -, hw⟩ := h
  exact Value.eq_null_or_of_convert hw

/-- The setter of a field takes what a row holds for it, if the field admits it. -/
theorem Row.Holds.read_eq {row : Row} {b : ColumnBinding} {w : Value} (h : row.Holds b w)
    {s : MemberType} (hs : s.fieldType = b.type)
    (hadmits : ¬(w = .null ∧ b.type.isNullable = false)) : s.read w = .ok w := by
  refine MemberType.read_eq_ok ?_
  rw [← MemberType.fieldType_isNullable, ← MemberType.fieldType_scalarType, hs]
  refine h.eq_null_or.imp_left fun hnull => ⟨hnull, ?_⟩
  rw [← Bool.not_eq_false]
  exact fun hnullable => hadmits ⟨hnull, hnullable⟩

/-- A field that a row has a value for gets this value, unless it is null and the field does
    not admit null; the other fields are left as they are, and the reading goes on. -/
theorem Selection.assign_cons (entity : String) {row : Row} {b : ColumnBinding} {w : Value}
    {i : Instance} {cell : Cell} (hw : row.Holds b w)
    (hcell : i.find? (·.field = b.field) = some cell) (hsetter : cell.setter.fieldType = b.type)
    (rest : List Selection) :
    ∃ i', assign entity row (⟨b.field, b.field, b.column, b.type⟩ :: rest) i =
        assign entity row rest i' ∧
      i'.get? b.field =
        (if w = .null ∧ b.type.isNullable = false then i.get? b.field else some w) ∧
      ∀ f, f ≠ b.field → i'.find? (·.field = f) = i.find? (·.field = f) := by
  have hread : Selection.read entity row ⟨b.field, b.field, b.column, b.type⟩ = .ok w := by
    obtain ⟨v, hv, hw⟩ := hw
    simp only [Selection.read, hv, Value.coerce_eq_ok_iff.2 hw]
  simp only [assign, hread]
  by_cases hskip : w = .null ∧ b.type.isNullable = false
  · have hcondition : (w.isNull && !b.type.isNullable) = true := by
      rw [hskip.1, hskip.2]
      rfl
    rw [if_pos hcondition, if_pos hskip]
    exact ⟨i, rfl, rfl, fun _ _ => rfl⟩
  · have hcondition : ¬(w.isNull && !b.type.isNullable) = true := by
      rw [Bool.and_eq_true, Value.isNull_eq_true_iff, Bool.not_eq_true']
      exact hskip
    obtain ⟨i', hset, hget, hothers⟩ := Instance.set_eq_ok hcell (hw.read_eq hsetter hskip)
    rw [if_neg hcondition, if_neg hskip, hset]
    exact ⟨i', rfl, hget, hothers⟩

/-- Each field of an instance that a row has a value for gets this value, unless it is null
    and the field does not admit null; the other fields are left as they are, and the reading
    goes on. -/
theorem Selection.assign_append (entity : String) {row : Row} {columns : List ColumnBinding}
    {i : Instance} (hfields : (columns.map (·.field)).Nodup)
    (hrow : ∀ b ∈ columns, ∃ w, row.Holds b w)
    (hcells : ∀ b ∈ columns, ∃ cell, i.find? (·.field = b.field) = some cell ∧
      cell.setter.fieldType = b.type) (rest : List Selection) :
    ∃ i', assign entity row
          (columns.map (fun b => ⟨b.field, b.field, b.column, b.type⟩) ++ rest) i =
        assign entity row rest i' ∧
      (∀ b ∈ columns, ∀ w, row.Holds b w → i'.get? b.field =
        if w = .null ∧ b.type.isNullable = false then i.get? b.field else some w) ∧
      ∀ f, f ∉ columns.map (·.field) → i'.find? (·.field = f) = i.find? (·.field = f) := by
  induction columns generalizing i with
  | nil => exact ⟨i, rfl, nofun, fun _ _ => rfl⟩
  | cons b columns ih =>
    rw [List.map_cons, List.nodup_cons] at hfields
    obtain ⟨w, hw⟩ := hrow b List.mem_cons_self
    obtain ⟨cell, hcell, hsetter⟩ := hcells b List.mem_cons_self
    obtain ⟨i₁, hstep, hget₁, hothers₁⟩ := assign_cons entity hw hcell hsetter
      (columns.map (fun b => ⟨b.field, b.field, b.column, b.type⟩) ++ rest)
    have hne {c : ColumnBinding} (hc : c ∈ columns) : c.field ≠ b.field :=
      fun heq => hfields.1 (heq ▸ List.mem_map_of_mem hc)
    -- The other fields have other names: the first step leaves their cells as they are.
    obtain ⟨i', hassign, hget, hothers⟩ := ih (i := i₁) hfields.2
      (fun c hc => hrow c (List.mem_cons_of_mem _ hc)) fun c hc => by
        rw [hothers₁ _ (hne hc)]
        exact hcells c (List.mem_cons_of_mem _ hc)
    simp only [List.forall_mem_cons, List.map_cons]
    simp only [List.mem_cons, not_or]
    refine ⟨i', hstep.trans hassign, ⟨fun w' hw' => ?_, fun c hc w' hw' => ?_⟩, fun f hf => ?_⟩
    · rw [Instance.get?, hothers _ hfields.1, ← Instance.get?, hget₁, hw'.unique hw]
    · rw [hget c hc w' hw', Instance.get?, hothers₁ _ (hne hc)]
      rfl
    · rw [hothers f hf.2, hothers₁ f hf.1]

/-- Where a row has a value for each field, all of them are read. -/
theorem Selection.assign_columns (entity : String) {row : Row} {columns : List ColumnBinding}
    {i : Instance} (hfields : (columns.map (·.field)).Nodup)
    (hrow : ∀ b ∈ columns, ∃ w, row.Holds b w)
    (hcells : ∀ b ∈ columns, ∃ cell, i.find? (·.field = b.field) = some cell ∧
      cell.setter.fieldType = b.type) :
    ∃ i', assign entity row (columns.map fun b => ⟨b.field, b.field, b.column, b.type⟩) i = .ok i' ∧
      (∀ b ∈ columns, ∀ w, row.Holds b w → i'.get? b.field =
        if w = .null ∧ b.type.isNullable = false then i.get? b.field else some w) ∧
      ∀ f, f ∉ columns.map (·.field) → i'.get? f = i.get? f := by
  obtain ⟨i', hassign, hget, hothers⟩ := assign_append entity hfields hrow hcells []
  rw [List.append_nil] at hassign
  refine ⟨i', hassign, hget, fun f hf => ?_⟩
  rw [Instance.get?, hothers f hf, ← Instance.get?]

end EntityQuery
