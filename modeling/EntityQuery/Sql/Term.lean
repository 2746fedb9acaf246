import EntityQuery.Expr

/-!
# Terms of statements

A `Term` is a condition or a selected item of a statement, as the store reads
it: columns, parameters, literals, comparisons and connectives, the comparison
with a pattern, and the bytes of a value taken as text. `Term.sql` is its text,
with parentheses around every operation.

A name in double quotes stands for a text where no column has the name. Several
terms in parentheses with commas between them are a row of values, which is no
value.
-/

namespace EntityQuery.Sql

/-- A condition or an item of a statement. -/
inductive Term where
  | column (name : String)
  /-- A column, or a text if there is no such column. -/
  | columnOrText (name : String)
  /-- A column with the names of what it belongs to, the nearest last. -/
  | member (owners : List String) (name : String)
  /-- A parameter, with the character that marks it as one. -/
  | parameter (name : String)
  | integer (n : Nat)
  /-- A number that is not whole, as it is written. -/
  | decimal (s : String)
  | text (s : String)
  | null
  | binary (op : BinaryOp) (left right : Term)
  /-- The comparison of a text with a pattern. -/
  | like (text pattern : Term)
  /-- A value taken as text. -/
  | castText (term : Term)
  /-- A row of values: the first, and the last or the rest. -/
  | row (first rest : Term)
  deriving DecidableEq, Repr

namespace Term

/-- A text between marks, which are written twice in it. -/
def marked (mark : Char) (s : String) : String :=
  String.ofList (mark :: s.toList.flatMap (fun c => if c == mark then [c, c] else [c]) ++ [mark])

/-- The text of a term. -/
def sql : Term → String
  | column name => name
  | columnOrText name => marked '"' name
  | member owners name => ".".intercalate (owners ++ [name])
  | parameter name => name
  | integer n => toString n
  | decimal s => s
  | text s => marked '\'' s
  | null => "NULL"
  | binary op left right => "(" ++ left.sql ++ " " ++ op.symbol ++ " " ++ right.sql ++ ")"
  | like t p => "(" ++ t.sql ++ " LIKE " ++ p.sql ++ ")"
  | castText term => "CAST(" ++ term.sql ++ " AS TEXT)"
  | row first rest => "(" ++ first.sql ++ ", " ++ rest.sql ++ ")"

/-- The parameters that a term refers to, from left to right. -/
def parameters : Term → List String
  | parameter name => [name]
  | binary _ l r => l.parameters ++ r.parameters
  | like t p => t.parameters ++ p.parameters
  | castText t => t.parameters
  | row t u => t.parameters ++ u.parameters
  | column _ | columnOrText _ | member .. | integer _ | decimal _ | text _ | null => []

/-- Whether a term has a row of values in it. -/
def hasRow : Term → Bool
  | row .. => true
  | binary _ l r => l.hasRow || r.hasRow
  | like t p => t.hasRow || p.hasRow
  | castText t => t.hasRow
  | _ => false

end Term

end EntityQuery.Sql
