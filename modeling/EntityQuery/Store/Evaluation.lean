import EntityQuery.Sql.Term
import EntityQuery.Sql.Word
import EntityQuery.Store.Pattern

/-!
# Evaluation of terms

The datum of a term in a row, given the row's columns and the parameters. Truth
has three values: a comparison with null is unknown, and so is a connective whose
known side does not decide it. A datum counts as true if it is a number other than
zero, or a text or blob that starts with one.
-/

namespace EntityQuery.Store

/-- The connective `AND` of three-valued logic. -/
def kleeneAnd : Option Bool → Option Bool → Option Bool
  | some false, _ => some false
  | _, some false => some false
  | some true, some true => some true
  | _, _ => none

/-- The connective `OR` of three-valued logic. -/
def kleeneOr : Option Bool → Option Bool → Option Bool
  | some true, _ => some true
  | _, some true => some true
  | some false, some false => some false
  | _, _ => none

namespace Datum

/-- Whether a datum counts as true; unknown for null. -/
def truth : Datum → Option Bool
  | null => none
  | integer n => some (n != 0)
  | real x => some (!x.isZero)
  | text bytes | blob bytes =>
    match numeralOf bytes with
    | some (n, _) => some (!(realOfNumeral n).isZero)
    | none => some false

/-- Whether a comparison that came out as `o` meets the operator. -/
def meets : BinaryOp → Ordering → Bool
  | .eq, o => o == .eq
  | .ne, o => o != .eq
  | .lt, o => o == .lt
  | .le, o => o != .gt
  | .gt, o => o == .gt
  | .ge, o => o != .lt
  | .and, _ => false
  | .or, _ => false

/-- The result of an operator on two sides, of which those that are columns have a
    type. -/
def operate (op : BinaryOp) (types : Option ColumnType × Option ColumnType) (a b : Datum) :
    Option Bool :=
  match op with
  | .and => kleeneAnd a.truth b.truth
  | .or => kleeneOr a.truth b.truth
  | op =>
    if a.isNull || b.isNull then none
    else
      let (a, b) := ColumnType.alike (ColumnType.deciding? types.1 types.2) a b
      some (meets op (a.compare b))

/-- A datum as text, with the bytes of a blob. -/
def cast : Datum → Datum
  | blob bytes => text bytes
  | d => d.toText

end Datum

/-- What terms are evaluated by. -/
structure Operators where
  /-- The result of an operator on two sides, of which those that are columns have a type. -/
  operate : BinaryOp → Option ColumnType × Option ColumnType → Datum → Datum → Option Bool
  /-- Whether a datum has the form of a pattern, the second one. -/
  like : Datum → Datum → Option Bool
  /-- Whether a datum counts as true. -/
  truth : Datum → Option Bool
  /-- A datum taken as text. -/
  cast : Datum → Datum

/-- The operators of this store. -/
def Operators.standard : Operators := ⟨Datum.operate, Datum.like, Datum.truth, Datum.cast⟩

/-- The truth value that a word stands for where no column has it for a name. -/
def truthOfWord? (name : String) : Option Bool :=
  if Sql.folded name == "true" then some true
  else if Sql.folded name == "false" then some false
  else none

/-- What terms refer to: the columns of a row with their types, and parameters; and what
    they are evaluated by. -/
structure Environment where
  column : String → Option (ColumnType × Datum)
  parameter : String → Datum
  operators : Operators

namespace Environment

/-- The type that a term brings to a comparison: that of a column. -/
def type? (env : Environment) : Sql.Term → Option ColumnType
  | .column name | .columnOrText name | .member _ name => (env.column name).map (·.1)
  | .castText _ => some .text
  | .parameter _ | .integer _ | .decimal _ | .text _ | .null => none
  | .binary .. | .like .. | .row .. => none

/-- The datum of a term. A row of values has none. -/
def eval (env : Environment) : Sql.Term → Datum
  | .column name => ((env.column name).map (·.2)).getD (.ofTruth (truthOfWord? name))
  | .member _ name => ((env.column name).map (·.2)).getD .null
  | .columnOrText name => ((env.column name).map (·.2)).getD (.text name.toUTF8)
  | .parameter name => env.parameter name
  | .integer n => Datum.ofNumeral ⟨false, n, 0, true⟩
  | .decimal s => ((Text.Numeral.scan s.toList).map fun n => Datum.ofNumeral n.1).getD .null
  | .text s => .text s.toUTF8
  | .null | .row .. => .null
  | .binary op l r =>
    .ofTruth (env.operators.operate op (env.type? l, env.type? r) (env.eval l) (env.eval r))
  | .like t p => .ofTruth (env.operators.like (env.eval t) (env.eval p))
  | .castText t => env.operators.cast (env.eval t)

/-- Whether a condition holds: it has to be known to be true. -/
def holds (env : Environment) (condition : Sql.Term) : Bool :=
  env.operators.truth (env.eval condition) == some true

end Environment

end EntityQuery.Store
