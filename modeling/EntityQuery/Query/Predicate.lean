import EntityQuery.Entity.Metadata
import EntityQuery.Sql.Term

/-!
# Predicates

A condition on an entity becomes a condition on the rows of its table: fields
become columns, and every value leaves the text and becomes a *parameter*, for
which the text has a placeholder. The placeholders of a statement are numbered in
the order in which they are allocated: the number of the next one is the number
of parameters so far.

`term` takes the expressions apart, `fragment` gives the text of the result, and
`conjoin` puts the conditions of a query together, left to right, as one
predicate. What cannot be expressed is refused, and then the parameters that were
allocated before the fault remain.

The methods `starts_with` and `contains` compare with a pattern: the text of
their argument, which has to be a value, with a mark for any text after it or on
both sides.
-/

namespace EntityQuery

/-- A value that a statement refers to by a name. -/
structure Parameter where
  name : String
  value : Value
  deriving DecidableEq

/-- A condition on rows: its text, and the parameters that it refers to. -/
structure Predicate where
  sql : String
  parameters : List Parameter
  deriving DecidableEq

namespace Predicate

open Sql (Term)

/-- The name of the placeholder with a number. -/
def placeholder (n : Nat) : String := "@p" ++ toString n

/-- The placeholder of a value, after the parameters so far. -/
def place (v : Value) (ps : List Parameter) : Term × List Parameter :=
  let name := placeholder ps.length
  (.parameter name, ps ++ [⟨name, v⟩])

/-- The text of the argument of a method. -/
def argumentText (method : String) : Expr → Except ExpressionFault String
  | .literal v | .captured _ v =>
    match v.coerce .string with
    | .ok (.string s) => .ok s
    | _ => .error (.argumentText method)
  | e => .error (.argument e.kind method)

/-- The pattern that a method compares its receiver with. -/
def pattern (method : String) (args : List Expr) : Except ExpressionFault String :=
  match method, args with
  | "starts_with", [arg] => (argumentText method arg).map (· ++ "%")
  | "contains", [arg] => (argumentText method arg).map ("%" ++ · ++ "%")
  | _, _ => .error (.method method args.length)

/-- The condition on rows that an expression stands for, and the parameters after
    it was taken apart, the given ones first. -/
def term (m : Metadata) : Expr → List Parameter → Except Error Term × List Parameter
  | .field name, ps =>
    match m.column? name with
    | some binding => (.ok (.column binding.column), ps)
    | none => (.error (.unmappedField m.entity.name name), ps)
  | .captured _ v, ps => ((.ok (place v ps).1), (place v ps).2)
  | .literal v, ps => ((.ok (place v ps).1), (place v ps).2)
  | .binary op left right, ps =>
    match term m left ps with
    | (.error e, ps) => (.error e, ps)
    | (.ok l, ps) =>
      match term m right ps with
      | (.error e, ps) => (.error e, ps)
      | (.ok r, ps) => (.ok (.binary op l r), ps)
  | .call method receiver args, ps =>
    match pattern method args with
    | .error fault => (.error (.unsupportedExpression m.entity.name fault), ps)
    | .ok text =>
      match term m receiver ps with
      | (.error e, ps) => (.error e, ps)
      | (.ok t, ps) => (.ok (.like t (place (.string text) ps).1), (place (.string text) ps).2)
  | .record _, ps => (.error (.unsupportedExpression m.entity.name .record), ps)

/-- The text of the condition that an expression stands for, and the parameters
    after it was taken apart. -/
def fragment (m : Metadata) (e : Expr) (ps : List Parameter) :
    Except Error String × List Parameter :=
  match term m e ps with
  | (.error err, ps) => (.error err, ps)
  | (.ok t, ps) => (.ok t.sql, ps)

/-- The fragments of several expressions, taken apart one after the other. -/
def fragments (m : Metadata) : List Expr → List Parameter →
    List (Except Error String) × List Parameter
  | [], ps => ([], ps)
  | e :: es, ps =>
    let (first, ps) := fragment m e ps
    let (rest, ps) := fragments m es ps
    (first :: rest, ps)

/-- The predicate that an expression stands for. -/
def compile (m : Metadata) (e : Expr) : Except Error Predicate :=
  match fragment m e [] with
  | (.error err, _) => .error err
  | (.ok sql, ps) => .ok ⟨sql, ps⟩

/-- The conjunction of a predicate with further conditions, one after the other. -/
def conjoinWith (m : Metadata) (p : Predicate) : List Expr → Except Error Predicate
  | [] => .ok p
  | e :: es =>
    match fragment m e p.parameters with
    | (.error err, _) => .error err
    | (.ok sql, ps) => conjoinWith m ⟨"(" ++ p.sql ++ " AND " ++ sql ++ ")", ps⟩ es

/-- The conjunction of conditions, if there are any. -/
def conjoin (m : Metadata) : List Expr → Except Error (Option Predicate)
  | [] => .ok none
  | e :: es =>
    match compile m e with
    | .error err => .error err
    | .ok p => (conjoinWith m p es).map some

end Predicate

end EntityQuery
