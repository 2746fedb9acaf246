import EntityQuery.Entity.Instance
import EntityQuery.Query.Plan
import EntityQuery.Query.Row

/-!
# Materialization

A row is read by the plan of the query that it answers. For each selected column
the value is looked up by name and coerced to the declared scalar type. A plan
for entities sets the fields of a new instance one after the other; a null leaves
a field that does not admit it as it was. A plan for a projection reads all
values first and then hands them to the *output*, member by member, each of which
reads its value into its own type.
-/

namespace EntityQuery

/-- What a projection makes of the selected values: a member for each, under a
    name for messages. -/
structure Output where
  name : String
  members : List MemberType
  deriving DecidableEq, Repr

namespace Output

/-- Reads a value for each member, up to the first that does not fit. A member
    without a value reads null. -/
def read : List MemberType → List Value → Except CoercionError (List Value)
  | [], _ => .ok []
  | t :: ts, vs =>
    match t.read (vs.headD .null) with
    | .error e => .error e
    | .ok w =>
      match read ts vs.tail with
      | .error e => .error e
      | .ok ws => .ok (w :: ws)

end Output

namespace Selection

/-- The value of a row for a selected column, coerced to the declared type. -/
def read (entity : String) (row : Row) (s : Selection) : Except Error Value :=
  match row.get? s.column with
  | none => .error (.materialization entity (.missingColumn s.column))
  | some raw =>
    match raw.coerce s.type.scalarType with
    | .error e => .error (.materialization entity (.field s.field e))
    | .ok v => .ok v

/-- The values of a row for the selected columns, up to the first fault. -/
def readAll (entity : String) (row : Row) : List Selection → Except Error (List Value)
  | [] => .ok []
  | s :: ss =>
    match s.read entity row with
    | .error e => .error e
    | .ok v =>
      match readAll entity row ss with
      | .error e => .error e
      | .ok vs => .ok (v :: vs)

/-- The instance after the selected columns of a row were read into its fields. -/
def assign (entity : String) (row : Row) : List Selection → Instance → Except Error Instance
  | [], i => .ok i
  | s :: ss, i =>
    match s.read entity row with
    | .error e => .error e
    | .ok v =>
      if v.isNull && !s.type.isNullable then assign entity row ss i
      else
        match i.set s.field v with
        | .error e => .error (.materialization entity (.field s.field e))
        | .ok none => .error (.materialization entity (.noSetter s.field))
        | .ok (some i) => assign entity row ss i

end Selection

namespace Plan

/-- The entity that a row is read into. -/
def readEntity (p : Plan) (d : EntityDeclaration) (row : Row) : Except Error Instance :=
  if p.shape = .entity then Selection.assign p.entity.name row p.selection d.new
  else .error (.materialization p.entity.name .noEntities)

/-- The members of the output that a row is read into. -/
def readRecord (p : Plan) (output : Output) (row : Row) : Except Error (List Value) :=
  if p.shape = .entity then .error (.materialization p.entity.name .noProjections)
  else if output.members.length ≠ p.selection.length then
    .error (.materialization p.entity.name (.noConstructor output.name p.selection.length))
  else
    match Selection.readAll p.entity.name row p.selection with
    | .error e => .error e
    | .ok vs =>
      match Output.read output.members vs with
      | .error e => .error (.materialization p.entity.name (.member e))
      | .ok ws => .ok ws

end Plan

end EntityQuery
