import EntityQuery.Proofs.Restoring

/-!
# What is selected and what is read

The statement of a plan names what it selects, and a row of the answer is looked up by
names again. The two choose the names apart from each other: a statement names the columns
where the plan has metadata and the fields where it has none, while the reading always
looks for the columns. So the names agree for every answer exactly if the plan has metadata,
or has fields and columns of the same names (`Plan.reads_back_iff`); of the plans put
together by hand some select what is then not found (`Demo.Unbound.not_readsBack`).
-/

namespace EntityQuery

namespace Plan

variable {p : Plan} {row : Row}

/-- A row answers the statement of a plan: it has a value under every selected name, and
    under equal names equal values. -/
structure AnsweredBy (p : Plan) (row : Row) : Prop where
  columns : row.columns = p.columnNames
  width : row.values.length = row.columns.length
  agrees : ∀ i j : Nat, row.columns[i]? = row.columns[j]? → row.values[i]? = row.values[j]?

/-- What a plan selects is read back from a row: in the place where it was selected, and
    without a column being missed. -/
structure ReadsBack (p : Plan) (row : Row) : Prop where
  value : ∀ (i : Nat) (s : Selection), p.selection[i]? = some s →
    ∃ v, row.values[i]? = some v ∧ row.get? s.column = some v
  entity : ∀ (d : EntityDeclaration) (column : String), p.readEntity d row ≠
    .error (.materialization p.entity.name (.missingColumn column))
  record : ∀ (output : Output) (column : String), p.readRecord output row ≠
    .error (.materialization p.entity.name (.missingColumn column))

/-- The names that a statement selects are those that are looked up. -/
def NamesColumns (p : Plan) : Prop :=
  p.metadata.isSome = true ∨ ∀ s ∈ p.selection, s.column = s.field

end Plan

/-! ## Reading -/

namespace Selection

variable {row : Row} (entity column : String)

/-- A column that a row has is not missed. -/
theorem read_ne_missing {s : Selection} (h : row.get? s.column ≠ none) :
    s.read entity row ≠ .error (.materialization entity (.missingColumn column)) := by
  rw [read]
  split
  · next hnone => exact absurd hnone h
  · split <;> simp

/-- Columns that a row has are not missed when they are read one after the other. -/
theorem readAll_ne_missing {ss : List Selection} (h : ∀ s ∈ ss, row.get? s.column ≠ none) :
    readAll entity row ss ≠ .error (.materialization entity (.missingColumn column)) := by
  induction ss with
  | nil => simp [readAll]
  | cons s ss ih =>
    have hread := read_ne_missing entity column (h s List.mem_cons_self)
    have hrest := ih fun s' hs' => h s' (List.mem_cons_of_mem _ hs')
    rw [readAll]
    split
    · next e he => exact fun heq => hread (he.trans (congrArg _ (Except.error.inj heq)))
    · split
      · next e he => exact fun heq => hrest (he.trans (congrArg _ (Except.error.inj heq)))
      · simp

/-- Columns that a row has are not missed when they are read into an instance. -/
theorem assign_ne_missing {ss : List Selection} {i : Instance}
    (h : ∀ s ∈ ss, row.get? s.column ≠ none) :
    assign entity row ss i ≠ .error (.materialization entity (.missingColumn column)) := by
  induction ss generalizing i with
  | nil => simp [assign]
  | cons s ss ih =>
    have hread := read_ne_missing entity column (h s List.mem_cons_self)
    have hrest (i : Instance) := ih (i := i) fun s' hs' => h s' (List.mem_cons_of_mem _ hs')
    rw [assign]
    split
    · next e he => exact fun heq => hread (he.trans (congrArg _ (Except.error.inj heq)))
    · split
      · exact hrest i
      · split
        · simp
        · simp
        · exact hrest _

end Selection

namespace Plan

variable {p : Plan} {row : Row}

/-- Where every selected value is found in its place, no column is missed. -/
theorem readsBack_of_value (h : ∀ (i : Nat) (s : Selection), p.selection[i]? = some s →
    ∃ v, row.values[i]? = some v ∧ row.get? s.column = some v) : p.ReadsBack row := by
  have hfound : ∀ s ∈ p.selection, row.get? s.column ≠ none := by
    intro s hs
    obtain ⟨i, hi⟩ := List.mem_iff_getElem?.1 hs
    obtain ⟨v, -, hv⟩ := h i s hi
    rw [hv]
    exact Option.some_ne_none v
  refine ⟨h, fun d column => ?_, fun output column => ?_⟩
  · rw [readEntity]
    split
    · exact Selection.assign_ne_missing _ _ hfound
    · simp
  · rw [readRecord]
    split
    · simp
    · split
      · simp
      · split
        · next e he =>
          exact fun heq => Selection.readAll_ne_missing _ _ hfound
            (he.trans (congrArg _ (Except.error.inj heq)))
        · split <;> simp

/-! ## Agreement -/

/-- The names of a statement are those of the columns, if they are meant to be. -/
theorem NamesColumns.columnNames_eq (h : p.NamesColumns) :
    p.columnNames = p.selection.map (·.column) := by
  refine List.map_congr_left fun s hs => ?_
  rcases h with h | h
  · rw [if_pos h]
  · rw [h s hs, ite_self]

/-- A value that is found by its name is the one in the place of the name. -/
theorem AnsweredBy.get?_eq (h : p.AnsweredBy row) {i : Nat} {column : String}
    (hi : row.columns[i]? = some column) :
    ∃ v, row.values[i]? = some v ∧ row.get? column = some v := by
  have hlength : i < row.values.length := by
    rw [h.width]
    exact (List.getElem?_eq_some_iff.1 hi).1
  refine ⟨row.values[i], List.getElem?_eq_getElem hlength, ?_⟩
  obtain ⟨j, hj⟩ := Option.ne_none_iff_exists'.1
    (mt List.idxOf?_eq_none_iff.1 (not_not.2 (List.mem_of_getElem? hi)))
  -- The place of the name need not be this one, but it holds an equal value.
  have hplace := Row.idxOf?_eq_some_iff.1 hj
  rw [Row.get?_eq_some_iff]
  refine ⟨j, hplace, ?_⟩
  rw [h.agrees j i (hplace.1.trans hi.symm), List.getElem?_eq_getElem hlength]

/-- A row that answers a statement, and tells the values of one name from all others. -/
def told (p : Plan) (name : String) : Row :=
  ⟨p.columnNames, p.columnNames.map fun column => .bool (column == name)⟩

theorem answeredBy_told (p : Plan) (name : String) : p.AnsweredBy (p.told name) where
  columns := rfl
  width := List.length_map _
  agrees i j h := by
    simp only [told, List.getElem?_map] at h ⊢
    rw [h]

/-- A value that is told under a name is that of the name. -/
theorem eq_true_of_told {name : String} {v : Value} (h : (p.told name).get? name = some v) :
    v = .bool true := by
  have hmap := Row.get?_map id (fun column => Value.bool (column == name)) p.columnNames name
  rw [List.map_id] at hmap
  obtain ⟨column, hcolumn, rfl⟩ := Option.map_eq_some_iff.1 (hmap.symm.trans h)
  have hname : (column == name) = true :=
    List.find?_some (p := fun column => id column == name) hcolumn
  rw [hname]

/-- What a plan selects is read back from every row that answers its statement, exactly if
    the statement names the columns that are looked up. -/
theorem reads_back_iff : (∀ row, p.AnsweredBy row → p.ReadsBack row) ↔ p.NamesColumns := by
  constructor
  · intro h
    by_contra hnot
    rw [NamesColumns] at hnot
    push Not at hnot
    obtain ⟨hmetadata, s, hs, hne⟩ := hnot
    obtain ⟨i, hi⟩ := List.mem_iff_getElem?.1 hs
    -- The value in the place of the selection is that of its field, not that of its column.
    obtain ⟨v, hv, hget⟩ := (h _ (p.answeredBy_told s.column)).value i s hi
    rw [told, List.getElem?_map, columnNames, List.getElem?_map, hi, Option.map_some,
      if_neg hmetadata, Option.map_some, Option.some.injEq, eq_true_of_told hget,
      Value.bool.injEq, beq_iff_eq] at hv
    exact hne hv.symm
  · intro h row hrow
    refine readsBack_of_value fun i s hi => hrow.get?_eq ?_
    rw [hrow.columns, h.columnNames_eq, List.getElem?_map, hi]
    rfl

end Plan

namespace Demo.Unbound

/-- A plan for a number, put together by hand, whose field and column have different names. -/
def plan : Plan :=
  ⟨⟨"Marker"⟩, none, [⟨"answer", "answer", "answer_col", .scalar .int64⟩], .value (.scalar .int64),
    none, none⟩

/-- The answer to the statement of the plan. -/
def row : Row := ⟨["answer"], [.int64 42]⟩

/-- The statement selects the field, but the column is looked up and missed in the answer. -/
theorem not_readsBack :
    plan.render.sql = "SELECT answer FROM (SELECT 1)" ∧ plan.AnsweredBy row ∧
      plan.readRecord ⟨"i64", [.scalar .int64]⟩ row =
        .error (.materialization "Marker" (.missingColumn "answer_col")) ∧
      ¬plan.ReadsBack row := by
  have hmissed : plan.readRecord ⟨"i64", [.scalar .int64]⟩ row =
      .error (.materialization "Marker" (.missingColumn "answer_col")) := by decide
  refine ⟨by decide, ⟨rfl, rfl, fun i j h => ?_⟩, hmissed,
    fun h => h.record ⟨"i64", [.scalar .int64]⟩ "answer_col" hmissed⟩
  match i, j, h with
  | 0, 0, _ => rfl
  | _ + 1, _ + 1, _ => rfl

end Demo.Unbound

end EntityQuery
