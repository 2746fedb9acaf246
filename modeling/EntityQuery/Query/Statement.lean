import EntityQuery.Query.Plan

/-!
# Statements

A `Statement` is what is sent to a store: a text, and the parameters that its
placeholders refer to. `Plan.render` writes the statement of a plan. It only puts
texts together, so that a plan always has the same statement. A plan without
metadata names the fields instead of the columns and selects from no table.
-/

namespace EntityQuery

/-- A text for a store, with its parameters. -/
structure Statement where
  sql : String
  parameters : List Parameter
  deriving DecidableEq

/-- A statement in messages: the text, then the parameters, if there are any. -/
def Statement.text (s : Statement) : String :=
  if s.parameters.isEmpty then s.sql
  else
    s.sql ++ " [" ++ ", ".intercalate (s.parameters.map fun p => p.name ++ "=" ++ p.value.text) ++
      "]"

namespace Plan

/-- The names of what is selected. -/
def columnNames (p : Plan) : List String :=
  p.selection.map fun s => if p.metadata.isSome then s.column else s.field

/-- The source of the rows; of no rows in particular, if there is no table. -/
def sourceText (p : Plan) : String :=
  match p.metadata with
  | some m => m.table
  | none => "(SELECT 1)"

/-- The condition of a statement, if there is one. -/
def conditionText (p : Plan) : String :=
  match p.predicate with
  | some predicate => " WHERE " ++ predicate.sql
  | none => ""

/-- The limit of a statement, if there is one. -/
def limitText (p : Plan) : String :=
  match p.limit with
  | some n => " LIMIT " ++ toString n.toNat
  | none => ""

/-- The statement of a plan. -/
def render (p : Plan) : Statement where
  sql := "SELECT " ++ ", ".intercalate p.columnNames ++ " FROM " ++ p.sourceText ++
    p.conditionText ++ p.limitText
  parameters :=
    match p.predicate with
    | some predicate => predicate.parameters
    | none => []

end Plan

end EntityQuery
