import EntityQuery.Entity.Mapping
import EntityQuery.Error

/-!
# Metadata

The `Metadata` of an entity type are what queries use of its mapping: the table,
and a column for each stored field in the order of their declaration.
`Metadata.ofMapping` makes them from a mapping that names a table, declares no
field twice and stores at least one; a mapping with several faults is refused
for the table first, then for the first repeated field.

* `firstRepeated?_eq_none_iff`: no field is repeated exactly if all differ.
-/

namespace EntityQuery

/-- A stored field and the column that holds it. -/
structure ColumnBinding where
  field : String
  column : String
  type : FieldType
  deriving DecidableEq, Repr

/-- The table of an entity type and the columns of its stored fields. -/
structure Metadata where
  entity : EntityType
  table : String
  columns : List ColumnBinding
  deriving DecidableEq, Repr

/-- The column of a field, if it has one. -/
def FieldMapping.binding? (f : FieldMapping) : Option ColumnBinding :=
  f.column.map fun column => ⟨f.field, column, f.type⟩

/-- The first text of a list that occurs before it, or among `seen`. -/
def firstRepeatedFrom (seen : List String) : List String → Option String
  | [] => none
  | s :: rest => if s ∈ seen then some s else firstRepeatedFrom (s :: seen) rest

/-- The first text of a list that repeats an earlier one. -/
def firstRepeated? (names : List String) : Option String := firstRepeatedFrom [] names

namespace Metadata

/-- The column bound to a field. -/
def column? (m : Metadata) (field : String) : Option ColumnBinding :=
  m.columns.find? (·.field == field)

/-- The table that a mapping names, if it names one in earnest. -/
def tableOf (mapping : Mapping) : Except MappingFault String :=
  match mapping.table with
  | none => .error .noTable
  | some table => if (Text.trim table).isEmpty then .error .emptyTable else .ok table

/-- The metadata of an entity type with the given mapping, or its first fault. -/
def ofMapping (entity : EntityType) (mapping : Mapping) : Except MappingFault Metadata :=
  match tableOf mapping with
  | .error fault => .error fault
  | .ok table =>
    match firstRepeated? (mapping.fields.map (·.field)) with
    | some field => .error (.repeatedField field)
    | none =>
      match mapping.fields.filterMap (·.binding?) with
      | [] => .error .noColumns
      | columns => .ok ⟨entity, table, columns⟩

end Metadata

theorem firstRepeatedFrom_eq_none_iff {seen names : List String} :
    firstRepeatedFrom seen names = none ↔ (∀ s ∈ names, s ∉ seen) ∧ names.Nodup := by
  induction names generalizing seen with
  | nil => simp [firstRepeatedFrom]
  | cons s rest ih =>
    by_cases h : s ∈ seen
    · simp [firstRepeatedFrom, h]
    · simp only [firstRepeatedFrom, h, if_false, ih, List.mem_cons, not_or, List.nodup_cons,
        forall_eq_or_imp, not_false_eq_true, true_and]
      constructor
      · rintro ⟨h₁, h₂⟩
        exact ⟨fun a ha => (h₁ a ha).2, fun hs => (h₁ s hs).1 rfl, h₂⟩
      · rintro ⟨h₁, h₂, h₃⟩
        exact ⟨fun a ha => ⟨fun he => h₂ (he ▸ ha), h₁ a ha⟩, h₃⟩

/-- No text of a list repeats an earlier one exactly if all of them differ. -/
theorem firstRepeated?_eq_none_iff {names : List String} :
    firstRepeated? names = none ↔ names.Nodup := by
  simp [firstRepeated?, firstRepeatedFrom_eq_none_iff]

end EntityQuery
