import EntityQuery.Value.Text

/-!
# Expressions

An `Expr` is a condition or a selector as it is written down: a tree of fields
of the entity, values, comparisons and connectives, calls of methods, and
records. Which trees have a meaning for a store is not decided here (see
`EntityQuery.Predicate`).

* `Expr.kind` names the node at the root, for messages;
* `Expr.detail` is the whole tree, for diagnostics;
* `Expr.equals` compares two trees, their values as `Value.equals` does.
-/

namespace EntityQuery

/-- The comparisons and connectives. -/
inductive BinaryOp where
  | eq
  | ne
  | lt
  | le
  | gt
  | ge
  | and
  | or
  deriving DecidableEq, Repr

namespace BinaryOp

/-- The operator in a statement. -/
def symbol : BinaryOp → String
  | eq => "="
  | ne => "<>"
  | lt => "<"
  | le => "<="
  | gt => ">"
  | ge => ">="
  | and => "AND"
  | or => "OR"

/-- The name of the operator in diagnostics. -/
def name : BinaryOp → String
  | eq => "Eq"
  | ne => "Ne"
  | lt => "Lt"
  | le => "Le"
  | gt => "Gt"
  | ge => "Ge"
  | and => "And"
  | or => "Or"

/-- Whether the operator compares, rather than connects truth values. -/
def compares : BinaryOp → Bool
  | and | or => false
  | _ => true

end BinaryOp

/-- A condition or a selector. -/
inductive Expr where
  /-- The value of a field of the entity. -/
  | field (name : String)
  /-- A value that stands under a name where the expression is written. -/
  | captured (name : String) (value : Value)
  | literal (value : Value)
  | binary (op : BinaryOp) (left right : Expr)
  /-- The call of a method on a receiver. -/
  | call (method : String) (receiver : Expr) (args : List Expr)
  /-- A record of named members, as a selector. -/
  | record (members : List (String × Expr))

namespace Expr

/-- The kind of the node at the root. -/
def kind : Expr → String
  | field _ => "field access"
  | captured .. => "captured value"
  | literal _ => "literal"
  | binary .. => "binary operation"
  | call .. => "method call"
  | record _ => "record construction"

mutual

/-- The expression in diagnostics. -/
def detail : Expr → String
  | field name => "Field(" ++ Text.quoted name ++ ")"
  | captured name value =>
    "Captured \x7b name: " ++ Text.quoted name ++ ", value: " ++ value.detail ++ " \x7d"
  | literal value => "Literal(" ++ value.detail ++ ")"
  | binary op left right =>
    "Binary \x7b left: " ++ left.detail ++ ", op: " ++ op.name ++ ", right: " ++ right.detail ++
      " \x7d"
  | call method receiver args =>
    "Call \x7b method: " ++ Text.quoted method ++ ", receiver: " ++ receiver.detail ++
      ", args: [" ++ ", ".intercalate (argDetails args) ++ "] \x7d"
  | record members => "Record([" ++ ", ".intercalate (memberDetails members) ++ "])"

/-- The arguments of a call in diagnostics. -/
def argDetails : List Expr → List String
  | [] => []
  | e :: es => e.detail :: argDetails es

/-- The members of a record in diagnostics. -/
def memberDetails : List (String × Expr) → List String
  | [] => []
  | (name, e) :: ms => ("(" ++ Text.quoted name ++ ", " ++ e.detail ++ ")") :: memberDetails ms

end

mutual

/-- Whether two trees are the same, with equal values. -/
def equals : Expr → Expr → Bool
  | field a, field b => a == b
  | captured a v, captured b w => a == b && v.equals w
  | literal v, literal w => v.equals w
  | binary o a b, binary p c d => o == p && a.equals c && b.equals d
  | call m r as, call n s bs => m == n && r.equals s && argsEqual as bs
  | record ms, record ns => membersEqual ms ns
  | _, _ => false

/-- Whether two lists of arguments are the same. -/
def argsEqual : List Expr → List Expr → Bool
  | [], [] => true
  | a :: as, b :: bs => a.equals b && argsEqual as bs
  | _, _ => false

/-- Whether two lists of members are the same, names included. -/
def membersEqual : List (String × Expr) → List (String × Expr) → Bool
  | [], [] => true
  | (m, a) :: as, (n, b) :: bs => m == n && a.equals b && membersEqual as bs
  | _, _ => false

end

end Expr

end EntityQuery
