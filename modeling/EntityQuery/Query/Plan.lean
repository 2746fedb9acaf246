import EntityQuery.Query.Chain
import EntityQuery.Query.Predicate

/-!
# Plans

A `Plan` is what a chain amounts to for a table: the columns to select, the shape
of what is made of a row, the condition on the rows, and how many of them at most.
`Plan.ofChain` makes it from the metadata of the chain's entity type: the
conditions are conjoined, the one closest to the source first, and without a
projection every column is selected, for whole entities.

A projection is a field, which gives single values, or a record of fields; it may
select a column more than once. A plan can also be put together by hand, and then
the metadata may be absent.
-/

namespace EntityQuery

/-- A column that is selected: the field it is read for, the name that the value
    gets, and the declared type. -/
structure Selection where
  field : String
  target : String
  column : String
  type : FieldType
  deriving DecidableEq, Repr

/-- What is made of a row: an entity, a record with named members, or a value. -/
inductive Shape where
  | entity
  | record (names : List String)
  | value (type : FieldType)
  deriving DecidableEq, Repr

/-- What a query amounts to for a table. -/
structure Plan where
  entity : EntityType
  metadata : Option Metadata
  selection : List Selection
  shape : Shape
  predicate : Option Predicate
  limit : Option UInt32
  deriving DecidableEq

namespace Plan

/-- Every column of an entity type, in the order of the fields. -/
def everyColumn (m : Metadata) : List Selection :=
  m.columns.map fun binding => ⟨binding.field, binding.field, binding.column, binding.type⟩

/-- The selection of a field under a name. -/
def select (m : Metadata) (field target : String) : Except Error Selection :=
  match m.column? field with
  | some binding => .ok ⟨field, target, binding.column, binding.type⟩
  | none => .error (.unmappedField m.entity.name field)

/-- The selection of the members of a record, up to the first that is refused. -/
def selectMembers (m : Metadata) : List (String × Expr) → Except Error (List Selection)
  | [] => .ok []
  | (target, .field name) :: rest =>
    match select m name target with
    | .error e => .error e
    | .ok first =>
      match selectMembers m rest with
      | .error e => .error e
      | .ok others => .ok (first :: others)
  | (target, e) :: _ => .error (.unsupportedProjection m.entity.name (.member target e.kind))

/-- The selection that a selector stands for, and the shape of the result. -/
def project (m : Metadata) : Expr → Except Error (List Selection × Shape)
  | .field name =>
    match select m name name with
    | .error e => .error e
    | .ok s => .ok ([s], .value s.type)
  | .record [] => .error (.unsupportedProjection m.entity.name .emptyRecord)
  | .record (member :: members) =>
    match selectMembers m (member :: members) with
    | .error e => .error e
    | .ok ss => .ok (ss, .record (ss.map (·.target)))
  | e => .error (.unsupportedProjection m.entity.name (.selector e.kind))

/-- What a row of a query is read from and into: every column into an entity, or
    what the projection selects. -/
def output (m : Metadata) : Option Expr → Except Error (List Selection × Shape)
  | none => .ok (everyColumn m, .entity)
  | some selector => project m selector

/-- The plan of a chain over the metadata of its entity type. Of several faults,
    that of a condition comes before that of the projection. -/
def ofChain (m : Metadata) (c : Chain) : Except Error Plan :=
  match Predicate.conjoin m c.filters with
  | .error e => .error e
  | .ok predicate =>
    match output m c.projection? with
    | .error e => .error e
    | .ok (selection, shape) => .ok ⟨c.root, some m, selection, shape, predicate, c.limit?⟩

end Plan

end EntityQuery
