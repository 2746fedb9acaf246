import EntityQuery.Proofs.Engines
import EntityQuery.Value.Coercion

/-!
# Values through a column

What a column makes of a value and gives back. The column for a scalar type stores truth
values and both widths of integers as integers, and it may lose the sign of a zero, but in
every lawful engine what is read back stands for the value that was stored: coerced to the
scalar type it equals that value (`View.exists_restores`). Null comes back as null from
every column.
-/

namespace EntityQuery

/-- Whether a value is a value of a scalar type, and no NaN. -/
structure Value.Proper (v : Value) (t : ScalarType) : Prop where
  type : v.scalarType? = some t
  number : ∀ x, v = .float64 x → x.isNaN = false

theorem Value.proper_int32 (n : Int32) : (Value.int32 n).Proper .int32 := ⟨rfl, nofun⟩

theorem Value.proper_string (s : String) : (Value.string s).Proper .string := ⟨rfl, nofun⟩

/-- The bytes of a text are read as the text. -/
theorem Text.fromUTF8?_toUTF8 (s : String) : String.fromUTF8? s.toUTF8 = some s := by
  rw [String.toUTF8_eq_toByteArray, String.fromUTF8?, dif_pos s.isValidUTF8]
  rfl

namespace Store

/-- A datum is read back as something that, coerced to a scalar type, is `w`. -/
def Datum.Restores (d : Datum) (t : ScalarType) (w : Value) : Prop :=
  ∃ v, d.read = .ok v ∧ v.convert t = .ok w

namespace Datum

theorem restores_null (t : ScalarType) : null.Restores t .null := ⟨.null, rfl, rfl⟩

theorem restores_bool (b : Bool) : (integer (if b then 1 else 0)).Restores .bool (.bool b) := by
  refine ⟨_, rfl, ?_⟩
  cases b <;> rfl

theorem restores_int64 (n : Int64) : (integer n).Restores .int64 (.int64 n) := ⟨_, rfl, rfl⟩

/-- An integer that has its place among those of 32 bits is restored as one of them. -/
theorem restores_int32 {n : Int64} {k : Int32} (h : n.toInt = k.toInt) :
    (integer n).Restores .int32 (.int32 k) := by
  refine ⟨_, rfl, ?_⟩
  have hrange : Value.int32? n.toInt = some (.int32 k) := by
    rw [Value.int32?, h, if_pos ⟨k.minValue_le_toInt, k.toInt_le⟩, Int32.ofInt_toInt]
  show Value.toInt32 (.int64 n) = .ok (.int32 k)
  rw [Value.toInt32, Value.denoted?, Option.bind_some, hrange]
  rfl

theorem restores_string (s : String) : (text s.toUTF8).Restores .string (.string s) := by
  refine ⟨.string s, ?_, rfl⟩
  rw [read, Text.fromUTF8?_toUTF8]

theorem restores_real (x : Binary64) : (real x).Restores .float64 (.float64 x) := ⟨_, rfl, rfl⟩

end Datum

/-- A value that is stored in the column for its scalar type is restored as one that
    equals it. -/
theorem View.exists_restores {E : Engine} {V : View E} (hV : V.Lawful) {v : Value}
    {t : ScalarType} (h : v.Proper t) :
    ∃ w, (V.store (.ofScalar t) (.ofValue v)).Restores t w ∧ w.equals v = true := by
  obtain ⟨ht, hnumber⟩ := h
  cases v with
  | null => cases ht
  | bool b =>
    cases ht
    refine ⟨.bool b, ?_, beq_self_eq_true b⟩
    rw [Datum.ofValue, ColumnType.ofScalar, hV.store_integer]
    exact Datum.restores_bool b
  | int32 n =>
    cases ht
    refine ⟨.int32 n, ?_, beq_self_eq_true n⟩
    rw [Datum.ofValue, ColumnType.ofScalar, hV.store_integer]
    exact Datum.restores_int32 n.toInt_toInt64
  | int64 n =>
    cases ht
    refine ⟨.int64 n, ?_, beq_self_eq_true n⟩
    rw [Datum.ofValue, ColumnType.ofScalar, hV.store_integer]
    exact Datum.restores_int64 n
  | float64 x =>
    -- The number that is restored may differ in the sign of a zero.
    cases ht
    have hx := hnumber x rfl
    obtain ⟨y, hy, heq⟩ := hV.store_real x hx
    refine ⟨.float64 y, ?_, heq⟩
    rw [Datum.ofValue, if_neg (by simp [hx]), ColumnType.ofScalar, hy]
    exact Datum.restores_real y
  | string s =>
    cases ht
    refine ⟨.string s, ?_, beq_self_eq_true s⟩
    rw [Datum.ofValue, ColumnType.ofScalar, hV.store_text]
    exact Datum.restores_string s
  | bytes b =>
    cases ht
    refine ⟨.bytes b, ?_, beq_self_eq_true b.data⟩
    rw [Datum.ofValue, ColumnType.ofScalar, hV.store_blob]
    exact ⟨_, rfl, rfl⟩

end Store

end EntityQuery
