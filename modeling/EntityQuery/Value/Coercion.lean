import EntityQuery.Binary64.Reading
import EntityQuery.Text.Blank
import EntityQuery.Value.Text

/-!
# Coercion

A field has a scalar type, and what a row holds for it may be of another. To
*coerce* a value is to give the value of the wanted type that stands for the same
thing: truth values and the numbers 0 and 1, integers of either width, numbers
and their texts, texts and their bytes. What has no such counterpart is refused
with the reason. Null stands for nothing in any type and stays null.

* `convert_of_scalarType?`: a value of the wanted type is left alone;
* `scalarType?_of_convert`: what comes out is null or of the wanted type;
* `convert_eq_null_iff`: only null comes out as null;
* `eq_null_or_of_convert`: both of these, of whatever comes out.
-/

namespace EntityQuery

/-- Why a value was refused. -/
inductive CoercionReason where
  | noConversion
  | noTruthValue
  | outOfRange
  | notIntegral
  | noBooleanLiteral
  | noInteger
  | noNumber
  | invalidUtf8
  | absent
  /-- A reason that an entity type's own setter gives. -/
  | stated (text : String)
  deriving DecidableEq, Repr

/-- The wording of a reason. -/
def CoercionReason.text : CoercionReason → String
  | noConversion => "no conversion defined"
  | noTruthValue => "only 0 and 1 map to booleans"
  | outOfRange => "out of range"
  | notIntegral => "not an integral value in range"
  | noBooleanLiteral => "not a boolean literal"
  | noInteger => "not an integer"
  | noNumber => "not a number"
  | invalidUtf8 => "invalid UTF-8"
  | absent => "value is absent"
  | stated text => text

/-- A value that could not be converted, by its text. -/
structure CoercionError where
  value : String
  target : ScalarType
  reason : CoercionReason
  deriving DecidableEq, Repr

/-- The wording of a failed conversion. -/
def CoercionError.message (e : CoercionError) : String :=
  "cannot convert " ++ e.value ++ " to " ++ e.target.name ++ ": " ++ e.reason.text

namespace Value

/-- The integer as a value of 32 bits, if it has so many. -/
def int32? (n : Int) : Option Value :=
  if Int32.minValue.toInt ≤ n ∧ n ≤ Int32.maxValue.toInt then some (.int32 (.ofInt n)) else none

/-- The integer as a value of 64 bits, if it has so many. -/
def int64? (n : Int) : Option Value :=
  if Int64.minValue.toInt ≤ n ∧ n ≤ Int64.maxValue.toInt then some (.int64 (.ofInt n)) else none

/-- The truth value of an integer: only 0 and 1 have one. -/
def ofTruth (n : Int) : Except CoercionReason Value :=
  if n = 0 then .ok (.bool false) else if n = 1 then .ok (.bool true) else .error .noTruthValue

/-- The truth value that a text names, in any case and with blanks around it. -/
def readBool (s : String) : Except CoercionReason Value :=
  match Text.lower (Text.trim s) with
  | "true" | "1" => .ok (.bool true)
  | "false" | "0" => .ok (.bool false)
  | _ => .error .noBooleanLiteral

/-- The integer that a text spells, with blanks around it. -/
def readInt? (s : String) : Option Int := Text.readInteger? (Text.trim s).toList

/-- A value, or the reason why there is none. -/
def orReason (reason : CoercionReason) (v : Option Value) : Except CoercionReason Value :=
  match v with
  | some v => .ok v
  | none => .error reason

/-- The integer that a value stands for: a truth value 0 or 1, an integer itself,
    a number the integer it equals, a text the one it spells. -/
def denoted? : Value → Option Int
  | bool b => some (if b then 1 else 0)
  | int32 n => some n.toInt
  | int64 n => some n.toInt
  | float64 x => x.toInt?
  | string s => readInt? s
  | null | bytes _ => none

/-- Why a value is refused as an integer. -/
def integerReason : Value → CoercionReason
  | null | bool _ | int32 _ | int64 _ => .outOfRange
  | float64 _ => .notIntegral
  | string _ => .noInteger
  | bytes _ => .noConversion

/-- The truth value that a value stands for. -/
def toBool : Value → Except CoercionReason Value
  | bool b => .ok (bool b)
  | int32 n => ofTruth n.toInt
  | int64 n => ofTruth n.toInt
  | string s => readBool s
  | null | float64 _ | bytes _ => .error .noConversion

/-- The value of 32 bits that a value stands for. -/
def toInt32 (v : Value) : Except CoercionReason Value :=
  orReason v.integerReason (v.denoted?.bind int32?)

/-- The value of 64 bits that a value stands for. -/
def toInt64 (v : Value) : Except CoercionReason Value :=
  orReason v.integerReason (v.denoted?.bind int64?)

/-- The floating-point number that a value stands for, the nearest one. -/
def toFloat64 : Value → Except CoercionReason Value
  | bool b => .ok (float64 (if b then .one else .zero))
  | int32 n => .ok (float64 (.ofInt n.toInt))
  | int64 n => .ok (float64 (.ofInt n.toInt))
  | float64 x => .ok (float64 x)
  | string s => orReason .noNumber ((Binary64.read? (Text.trim s).toList).map float64)
  | null | bytes _ => .error .noConversion

/-- The text of a value: that of a number is its plain one. -/
def toText : Value → Except CoercionReason Value
  | bool b => .ok (string (boolText b))
  | int32 n => .ok (string (toString n.toInt))
  | int64 n => .ok (string (toString n.toInt))
  | float64 x => .ok (string (x.text .plain))
  | string s => .ok (string s)
  | bytes b => orReason .invalidUtf8 ((String.fromUTF8? b).map string)
  | null => .error .noConversion

/-- The bytes of a text. -/
def toBytes : Value → Except CoercionReason Value
  | string s => .ok (bytes s.toUTF8)
  | bytes b => .ok (bytes b)
  | null | bool _ | int32 _ | int64 _ | float64 _ => .error .noConversion

/-- The value of a scalar type that a value stands for. -/
def convert (v : Value) (target : ScalarType) : Except CoercionReason Value :=
  if v.isNull || v.scalarType? == some target then .ok v
  else
    match target with
    | .bool => v.toBool
    | .int32 => v.toInt32
    | .int64 => v.toInt64
    | .float64 => v.toFloat64
    | .string => v.toText
    | .bytes => v.toBytes

/-- A value coerced to a scalar type, or the failure. -/
def coerce (v : Value) (target : ScalarType) : Except CoercionError Value :=
  match v.convert target with
  | .ok w => .ok w
  | .error reason => .error ⟨v.text, target, reason⟩

theorem coerce_eq_ok_iff {v w : Value} {t : ScalarType} :
    v.coerce t = .ok w ↔ v.convert t = .ok w := by
  simp only [coerce]
  split <;> simp_all

@[simp] theorem convert_null (t : ScalarType) : convert null t = .ok null := rfl

/-- A value of the wanted type is left alone. -/
theorem convert_of_scalarType? {v : Value} {t : ScalarType} (h : v.scalarType? = some t) :
    v.convert t = .ok v := by
  simp [convert, h]

theorem orReason_eq_ok_iff {reason : CoercionReason} {v : Option Value} {w : Value} :
    orReason reason v = .ok w ↔ v = some w := by
  cases v <;> simp [orReason]

theorem scalarType?_int32? {n : Int} {w : Value} (h : int32? n = some w) :
    w.scalarType? = some .int32 := by
  simp only [int32?, Option.ite_none_right_eq_some, Option.some.injEq] at h
  rw [← h.2]
  rfl

theorem scalarType?_int64? {n : Int} {w : Value} (h : int64? n = some w) :
    w.scalarType? = some .int64 := by
  simp only [int64?, Option.ite_none_right_eq_some, Option.some.injEq] at h
  rw [← h.2]
  rfl

theorem scalarType?_ofTruth {n : Int} {w : Value} (h : ofTruth n = .ok w) :
    w.scalarType? = some .bool := by
  simp only [ofTruth] at h
  split at h
  · cases h; rfl
  · split at h <;> cases h
    rfl

theorem scalarType?_readBool {s : String} {w : Value} (h : readBool s = .ok w) :
    w.scalarType? = some .bool := by
  simp only [readBool] at h
  split at h <;> cases h <;> rfl

theorem scalarType?_toBool {v w : Value} (h : v.toBool = .ok w) :
    w.scalarType? = some .bool := by
  cases v with
  | bool b => cases h; rfl
  | int32 n | int64 n =>
    rw [toBool] at h
    exact scalarType?_ofTruth h
  | string s =>
    rw [toBool] at h
    exact scalarType?_readBool h
  | null | float64 | bytes => cases h

theorem scalarType?_toInt32 {v w : Value} (h : v.toInt32 = .ok w) :
    w.scalarType? = some .int32 := by
  obtain ⟨n, _, h⟩ := Option.bind_eq_some_iff.1 (orReason_eq_ok_iff.1 h)
  exact scalarType?_int32? h

theorem scalarType?_toInt64 {v w : Value} (h : v.toInt64 = .ok w) :
    w.scalarType? = some .int64 := by
  obtain ⟨n, _, h⟩ := Option.bind_eq_some_iff.1 (orReason_eq_ok_iff.1 h)
  exact scalarType?_int64? h

theorem scalarType?_toFloat64 {v w : Value} (h : v.toFloat64 = .ok w) :
    w.scalarType? = some .float64 := by
  cases v with
  | bool b => cases h; rfl
  | int32 n => cases h; rfl
  | int64 n => cases h; rfl
  | float64 x => cases h; rfl
  | string s =>
    rw [toFloat64] at h
    obtain ⟨x, _, rfl⟩ := Option.map_eq_some_iff.1 (orReason_eq_ok_iff.1 h)
    rfl
  | null | bytes => cases h

theorem scalarType?_toText {v w : Value} (h : v.toText = .ok w) :
    w.scalarType? = some .string := by
  cases v with
  | bool b => cases h; rfl
  | int32 n => cases h; rfl
  | int64 n => cases h; rfl
  | float64 x => cases h; rfl
  | string s => cases h; rfl
  | bytes b =>
    rw [toText] at h
    obtain ⟨s, _, rfl⟩ := Option.map_eq_some_iff.1 (orReason_eq_ok_iff.1 h)
    rfl
  | null => cases h

theorem scalarType?_toBytes {v w : Value} (h : v.toBytes = .ok w) :
    w.scalarType? = some .bytes := by
  cases v with
  | string s => cases h; rfl
  | bytes b => cases h; rfl
  | null | bool | int32 | int64 | float64 => cases h

/-- What comes out of a conversion of anything but null has the wanted type. -/
theorem scalarType?_of_convert {v w : Value} {t : ScalarType} (hv : v ≠ null)
    (h : v.convert t = .ok w) : w.scalarType? = some t := by
  have hn : v.isNull = false := by
    rw [Bool.eq_false_iff, ne_eq, isNull_eq_true_iff]
    exact hv
  simp only [convert, hn, Bool.false_or, beq_iff_eq] at h
  split at h
  · next hs => rw [← Except.ok.inj h, hs]
  · cases t with
    | bool => exact scalarType?_toBool h
    | int32 => exact scalarType?_toInt32 h
    | int64 => exact scalarType?_toInt64 h
    | float64 => exact scalarType?_toFloat64 h
    | string => exact scalarType?_toText h
    | bytes => exact scalarType?_toBytes h

/-- Only null comes out as null. -/
theorem convert_eq_null_iff {v : Value} {t : ScalarType} :
    v.convert t = .ok null ↔ v = null := by
  constructor
  · intro h
    refine Decidable.byContradiction fun hv => ?_
    have := scalarType?_of_convert hv h
    simp [scalarType?] at this
  · rintro rfl
    rfl

/-- What comes out of a conversion is null or has the wanted type. -/
theorem eq_null_or_of_convert {v w : Value} {t : ScalarType} (h : v.convert t = .ok w) :
    w = null ∨ w.scalarType? = some t := by
  by_cases hv : v = null
  · rw [hv, convert_null] at h
    exact .inl (Except.ok.inj h).symm
  · exact .inr (scalarType?_of_convert hv h)

end Value

end EntityQuery
