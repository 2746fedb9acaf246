import EntityQuery.Entity.Mapping
import EntityQuery.Expr

/-!
# Chains

A query is written down as a `Chain`: the entity type that it starts from and
the operators that were applied since, the latest first. A chain is never
changed; applying an operator makes a longer one. Operators have no effect by
themselves, and what they amount to is read off the chain when it is translated:

* `filters`: the conditions, the one closest to the source first;
* `projection?` and `limit?`: of several, the latest counts;
* `root`: the entity type at the start; a source in between is only recorded.
-/

namespace EntityQuery

/-- An operator that was applied to a query. -/
inductive Operator where
  | source (entity : EntityType)
  | filter (condition : Expr)
  | project (selector : Expr)
  | limit (count : UInt32)

/-- An operator in diagnostics. -/
def Operator.detail : Operator → String
  | source entity => "Source(" ++ entity.detail ++ ")"
  | filter condition => "Filter(" ++ condition.detail ++ ")"
  | project selector => "Project(" ++ selector.detail ++ ")"
  | limit count => "Limit(" ++ toString count.toNat ++ ")"

/-- The entity type that a query starts from, and the operators applied to it,
    latest first. -/
structure Chain where
  root : EntityType
  applied : List Operator

namespace Chain

/-- The chain that starts from an entity type. -/
def ofSource (entity : EntityType) : Chain := ⟨entity, []⟩

/-- The chain with one more operator. -/
def push (op : Operator) (c : Chain) : Chain := { c with applied := op :: c.applied }

/-- Every operator from the latest back to the source. -/
def walk (c : Chain) : List Operator := c.applied ++ [.source c.root]

/-- The conditions, the one closest to the source first. -/
def filters (c : Chain) : List Expr :=
  c.applied.reverse.filterMap fun
    | .filter condition => some condition
    | _ => none

/-- The selector of the latest projection. -/
def projection? (c : Chain) : Option Expr :=
  c.applied.findSome? fun
    | .project selector => some selector
    | _ => none

/-- The latest limit. -/
def limit? (c : Chain) : Option UInt32 :=
  c.applied.findSome? fun
    | .limit count => some count
    | _ => none

/-- A query in diagnostics, by the type that it is a query of. -/
def detail (entity : EntityType) (c : Chain) : String :=
  "Query \x7b entity: " ++ entity.detail ++ ", operators: [" ++
    ", ".intercalate (c.walk.map (·.detail)) ++ "] \x7d"

@[simp] theorem filters_push_limit (n : UInt32) (c : Chain) :
    (c.push (.limit n)).filters = c.filters := by
  simp [filters, push]

@[simp] theorem limit?_push_limit (n : UInt32) (c : Chain) :
    (c.push (.limit n)).limit? = some n := by
  simp [limit?, push]

@[simp] theorem projection?_push_limit (n : UInt32) (c : Chain) :
    (c.push (.limit n)).projection? = c.projection? := by
  simp [projection?, push]

end Chain

end EntityQuery
