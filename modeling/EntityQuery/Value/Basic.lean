import EntityQuery.Binary64.Basic

/-!
# Values

A `Value` is what a query compares with, what a row of a result holds and what a
field of an entity takes: null, or a value of one of the six *scalar types*.

* `Value.scalarType?` is the scalar type of a value, none for null;
* `Value.equals` compares values as the stored numbers compare: values of two
  scalar types are never equal, and a NaN does not equal itself.
-/

namespace EntityQuery

/-- The scalar types of fields and columns. -/
inductive ScalarType where
  | bool
  | int32
  | int64
  | float64
  | string
  | bytes
  deriving DecidableEq, Repr

namespace ScalarType

/-- The name that messages use for a scalar type. -/
def name : ScalarType → String
  | bool => "Bool"
  | int32 => "Int32"
  | int64 => "Int64"
  | float64 => "Float64"
  | string => "String"
  | bytes => "Bytes"

/-- Every scalar type once. -/
def all : List ScalarType := [bool, int32, int64, float64, string, bytes]

end ScalarType

/-- Byte sequences are compared as a whole. -/
instance decidableEqByteArray : DecidableEq ByteArray := ByteArray.instDecidableEq

/-- Null, or a value of a scalar type. -/
inductive Value where
  | null
  | bool (b : Bool)
  | int32 (n : Int32)
  | int64 (n : Int64)
  | float64 (x : Binary64)
  | string (s : String)
  | bytes (b : ByteArray)
  deriving DecidableEq

namespace Value

instance : Inhabited Value := ⟨null⟩

/-- The scalar type of a value; null has none. -/
def scalarType? : Value → Option ScalarType
  | null => none
  | bool _ => some .bool
  | int32 _ => some .int32
  | int64 _ => some .int64
  | float64 _ => some .float64
  | string _ => some .string
  | bytes _ => some .bytes

/-- Whether the value is null. -/
def isNull : Value → Bool
  | null => true
  | _ => false

/-- The text of a string value. -/
def string? : Value → Option String
  | string s => some s
  | _ => none

/-- The integer of a value of either integer type. -/
def int? : Value → Option Int
  | int32 n => some n.toInt
  | int64 n => some n.toInt
  | _ => none

/-- Whether two values are of one scalar type and equal in it, or both null. -/
def equals : Value → Value → Bool
  | null, null => true
  | bool a, bool b => a == b
  | int32 a, int32 b => a == b
  | int64 a, int64 b => a == b
  | float64 a, float64 b => a.equals b
  | string a, string b => a == b
  | bytes a, bytes b => a == b
  | _, _ => false

@[simp] theorem isNull_eq_true_iff {v : Value} : v.isNull = true ↔ v = null := by
  cases v <;> simp [isNull]

theorem scalarType?_eq_none_iff {v : Value} : v.scalarType? = none ↔ v = null := by
  cases v <;> simp [scalarType?]

/-- Equal values have the same scalar type. -/
theorem scalarType?_eq_of_equals {v w : Value} (h : v.equals w = true) :
    v.scalarType? = w.scalarType? := by
  cases v <;> cases w <;> first | rfl | simp [equals] at h

end Value

end EntityQuery
