import EntityQuery.Value.Coercion

/-!
# Types of fields and members

A mapped field declares a `FieldType`: a scalar type, or one that also admits
null. What holds the value in the end — a field of an instance, or a member of a
projection — has a `MemberType`, which may admit null more than once and reads a
value into itself: `MemberType.read` coerces to the scalar type, and takes null
only where the type admits it.

* `MemberType.fieldType` is the declaration that suits a member type;
* `read_null`, `read_of_ne_null`: null is read by the outermost layer of a type, and
  anything else by the innermost one;
* `read_eq_ok_null_iff`: null is read from null alone, by the types that admit it.
-/

namespace EntityQuery

/-- The declared type of a mapped field. -/
inductive FieldType where
  | scalar (type : ScalarType)
  | optional (type : ScalarType)
  deriving DecidableEq, Repr

namespace FieldType

/-- The scalar type of the values of a field. -/
def scalarType : FieldType → ScalarType
  | scalar t => t
  | optional t => t

/-- Whether null is a value of the field. -/
def isNullable : FieldType → Bool
  | scalar _ => false
  | optional _ => true

end FieldType

/-- The type of a field of an instance, or of a member of a projection. -/
inductive MemberType where
  | scalar (type : ScalarType)
  | optional (inner : MemberType)
  deriving DecidableEq, Repr

/-- The value that a field of a scalar type has from the start. -/
def ScalarType.initial : ScalarType → Value
  | bool => .bool false
  | int32 => .int32 0
  | int64 => .int64 0
  | float64 => .float64 .zero
  | string => .string ""
  | bytes => .bytes .empty

namespace MemberType

/-- The scalar type that values are coerced to. -/
def scalarType : MemberType → ScalarType
  | scalar t => t
  | optional inner => inner.scalarType

/-- Whether null is a value of the type. -/
def isNullable : MemberType → Bool
  | scalar _ => false
  | optional _ => true

/-- The declaration of a field of the type. -/
def fieldType (t : MemberType) : FieldType :=
  if t.isNullable then .optional t.scalarType else .scalar t.scalarType

/-- The value that a field of the type has from the start. -/
def initial : MemberType → Value
  | scalar t => t.initial
  | optional _ => .null

/-- Reads a value into the type: null is absent unless the type admits it. -/
def read : MemberType → Value → Except CoercionError Value
  | scalar t, v =>
    match v.coerce t with
    | .error e => .error e
    | .ok .null => .error ⟨Value.null.text, t, .absent⟩
    | .ok w => .ok w
  | optional _, .null => .ok .null
  | optional inner, v => inner.read v

theorem fieldType_scalarType (t : MemberType) : t.fieldType.scalarType = t.scalarType := by
  simp only [fieldType]
  split <;> rfl

theorem fieldType_isNullable (t : MemberType) : t.fieldType.isNullable = t.isNullable := by
  cases t <;> rfl

/-- Null is read by the outermost layer of a type. -/
theorem read_null (t : MemberType) : t.read .null =
    if t.isNullable then .ok .null else .error ⟨Value.null.text, t.scalarType, .absent⟩ := by
  cases t <;> rfl

/-- Anything but null is read by the innermost layer. -/
theorem read_of_ne_null {t : MemberType} {v : Value} (hv : v ≠ .null) :
    t.read v = v.coerce t.scalarType := by
  induction t with
  | scalar t =>
    rw [read, scalarType]
    split
    · next he => exact he.symm
    · next hnull => exact absurd (Value.convert_eq_null_iff.1 (Value.coerce_eq_ok_iff.1 hnull)) hv
    · next hw => exact hw.symm
  | optional inner ih =>
    rw [read]
    · exact ih
    · exact hv

/-- Null is read from null alone, by a type that admits it. -/
theorem read_eq_ok_null_iff {t : MemberType} {v : Value} :
    t.read v = .ok .null ↔ t.isNullable = true ∧ v = .null := by
  by_cases hv : v = .null
  · rw [hv, read_null]
    cases t.isNullable <;> simp
  · rw [read_of_ne_null hv, Value.coerce_eq_ok_iff, Value.convert_eq_null_iff]
    simp [hv]

end MemberType

end EntityQuery
