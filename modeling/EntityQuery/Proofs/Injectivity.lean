import EntityQuery.Proofs.Denotation

/-!
# What coercion keeps apart

Coercion to a type keeps the values of another apart if no two of them become the same
(`ScalarType.Keeps`). Truth values, integers and bytes are kept apart by every coercion but
one (`ScalarType.keeps_iff`): what is made of an integer denotes it, and bytes that are a
text are those of the text.

The exception are the integers of 64 bits as numbers. None is refused, and each becomes the
nearest number, which has its value only if the integer has at most fifty-three bits before
its trailing zeros.
-/

namespace EntityQuery

/-- Two values are the same, bit for bit or as numbers compare. -/
def Value.Same (v w : Value) : Prop := v = w ∨ v.equals w = true

instance (v w : Value) : Decidable (v.Same w) := inferInstanceAs (Decidable (_ ∨ _))

/-- Coercion to a type makes no two values of another the same. -/
def ScalarType.Keeps (s t : ScalarType) : Prop :=
  ∀ a b w z : Value, a.scalarType? = some s → b.scalarType? = some s →
    a.coerce t = .ok w → b.coerce t = .ok z → w.Same z → a = b

namespace Value

variable {a b v w : Value} {n m : ℤ} {t : ScalarType}

/-! ## Values that are the same -/

/-- Values that are equal are the same bit for bit, unless they are numbers. -/
theorem eq_of_equals (h : v.equals w = true) (hv : v.scalarType? ≠ some .float64) : v = w := by
  unfold equals at h
  split at h
  · rfl
  · rw [beq_iff_eq.1 h]
  · rw [beq_iff_eq.1 h]
  · rw [beq_iff_eq.1 h]
  · exact absurd rfl hv
  · rw [beq_iff_eq.1 h]
  · rw [ByteArray.ext (eq_of_beq h)]
  · cases h

theorem Same.eq (h : v.Same w) (hv : v.scalarType? ≠ some .float64) : v = w :=
  h.elim id fun h => eq_of_equals h hv

/-- Equal values denote the same integer. -/
theorem denoted?_eq_of_equals (h : v.equals w = true) : v.denoted? = w.denoted? := by
  by_cases hv : v.scalarType? = some .float64
  · have hw := (scalarType?_eq_of_equals h).symm.trans hv
    rcases v with _ | _ | _ | _ | x | _ | _ <;> cases hv
    rcases w with _ | _ | _ | _ | y | _ | _ <;> cases hw
    exact Binary64.toInt?_eq_of_equals h
  · rw [eq_of_equals h hv]

theorem Same.denotes_unique (h : v.Same w) (hv : v.Denotes n) (hw : w.Denotes m) : n = m := by
  have hsame : v.denoted? = w.denoted? := h.elim (congrArg denoted?) denoted?_eq_of_equals
  rw [denoted?_eq_some_iff.2 hv, denoted?_eq_some_iff.2 hw] at hsame
  exact Option.some.inj hsame

/-! ## Integers -/

theorem int?_eq_some_iff : v.int? = some n ↔
    (∃ k : Int32, v = int32 k ∧ k.toInt = n) ∨ ∃ k : Int64, v = int64 k ∧ k.toInt = n := by
  rcases v with _ | _ | k | k | _ | _ | _ <;> simp [int?]

theorem denotes_of_int? (h : v.int? = some n) : v.Denotes n := by
  obtain ⟨k, rfl, rfl⟩ | ⟨k, rfl, rfl⟩ := int?_eq_some_iff.1 h
  · exact .int32 k
  · exact .int64 k

/-- An integer is determined by its type and its value. -/
theorem eq_of_int? (ha : a.int? = some n) (hb : b.int? = some n)
    (h : a.scalarType? = b.scalarType?) : a = b := by
  obtain ⟨k, rfl, hk⟩ | ⟨k, rfl, hk⟩ := int?_eq_some_iff.1 ha <;>
    obtain ⟨l, rfl, hl⟩ | ⟨l, rfl, hl⟩ := int?_eq_some_iff.1 hb <;> cases h
  · rw [Int32.toInt_inj.1 (hk.trans hl.symm)]
  · rw [Int64.toInt_inj.1 (hk.trans hl.symm)]

/-- The integers of either width are far below the largest number. -/
theorem log2_of_int? (h : v.int? = some n) : n.natAbs.log2 < 1023 := by
  have hn : n.natAbs < 2 ^ 64 := by
    obtain ⟨k, -, rfl⟩ | ⟨k, -, rfl⟩ := int?_eq_some_iff.1 h
    · have hlow := k.le_toInt
      have hhigh := k.toInt_lt
      omega
    · have hlow := k.le_toInt
      have hhigh := k.toInt_lt
      omega
  by_cases hzero : n.natAbs = 0
  · rw [hzero]
    decide
  · exact lt_trans ((Nat.log2_lt hzero).2 hn) (by decide)

/-- The number that is made of an integer denotes it exactly if the integer is short. -/
theorem denotes_ofInt_iff (h : v.int? = some n) :
    (float64 (.ofInt n)).Denotes n ↔ Binary64.IsShort n := by
  rw [← denoted?_eq_some_iff, denoted?, Binary64.toInt?_ofInt_iff (log2_of_int? h)]

theorem denotes_of_ofTruth (h : ofTruth n = .ok w) : w.Denotes n := by
  rw [ofTruth] at h
  split at h
  · next hn =>
    cases h
    exact hn ▸ .no
  · split at h
    · next hn =>
      cases h
      exact hn ▸ .yes
    · cases h

theorem denotes_of_toInt32 (hv : v.Denotes n) (h : v.toInt32 = .ok w) : w.Denotes n := by
  obtain ⟨m, hm, hlow, hhigh, rfl⟩ := toInt32_eq_ok_iff.1 h
  have hw := Denotes.int32 (.ofInt m)
  rw [Int32.toInt_ofInt_of_le hlow hhigh] at hw
  exact hm.unique hv ▸ hw

theorem denotes_of_toInt64 (hv : v.Denotes n) (h : v.toInt64 = .ok w) : w.Denotes n := by
  obtain ⟨m, hm, hlow, hhigh, rfl⟩ := toInt64_eq_ok_iff.1 h
  have hw := Denotes.int64 (.ofInt m)
  rw [Int64.toInt_ofInt_of_le hlow hhigh] at hw
  exact hm.unique hv ▸ hw

/-- What is made of an integer denotes it, but for a number in place of a long one. -/
theorem denotes_of_coerce (hv : v.int? = some n) (hshort : t = .float64 → Binary64.IsShort n)
    (h : v.coerce t = .ok w) : w.Denotes n := by
  have hdenotes := denotes_of_int? hv
  have hconverts : v.toBool = ofTruth n ∧ v.toFloat64 = .ok (float64 (.ofInt n)) ∧
      v.toText = .ok (string (toString n)) ∧ v.toBytes = .error .noConversion := by
    obtain ⟨k, rfl, rfl⟩ | ⟨k, rfl, rfl⟩ := int?_eq_some_iff.1 hv <;> exact ⟨rfl, rfl, rfl, rfl⟩
  obtain ⟨hbool, hfloat, htext, hbytes⟩ := hconverts
  rw [coerce_eq_ok_iff, convert_of_ne_null hdenotes.ne_null] at h
  rcases t
  · exact denotes_of_ofTruth (hbool.symm.trans h)
  · exact denotes_of_toInt32 hdenotes h
  · exact denotes_of_toInt64 hdenotes h
  · cases hfloat.symm.trans h
    exact (denotes_ofInt_iff hv).2 (hshort rfl)
  · cases htext.symm.trans h
    exact denotes_toString n
  · cases hbytes.symm.trans h

/-! ## Bytes -/

theorem toByteArray_of_fromUTF8? {x : ByteArray} {s : String} (h : String.fromUTF8? x = some s) :
    s.toByteArray = x := by
  rw [String.fromUTF8?] at h
  split at h
  · cases h
    rfl
  · cases h

/-- Bytes stay what they are, or are those of the text that is made of them. -/
theorem eq_of_coerce_bytes {x : ByteArray} (h : (bytes x).coerce t = .ok w) :
    w = bytes x ∨ ∃ s : String, w = string s ∧ s.toByteArray = x := by
  have hne : bytes x ≠ null := nofun
  rw [coerce_eq_ok_iff, convert_of_ne_null hne] at h
  rcases t <;> try cases h
  · rw [toText, orReason_eq_ok_iff, Option.map_eq_some_iff] at h
    obtain ⟨s, hs, rfl⟩ := h
    exact .inr ⟨s, rfl, toByteArray_of_fromUTF8? hs⟩
  · exact .inl rfl

end Value

namespace ScalarType

open Value

variable {s t : ScalarType}

/-! ## The types, one by one -/

/-- Integers are kept apart where what is made of them denotes them. -/
theorem keeps_of_denotes (hs : ∀ v : Value, v.scalarType? = some s → ∃ n, v.int? = some n ∧
      ∀ w, v.coerce t = .ok w → w.Denotes n) : s.Keeps t := by
  intro a b w z ha hb hw hz hsame
  obtain ⟨n, hn, hwn⟩ := hs a ha
  obtain ⟨m, hm, hzm⟩ := hs b hb
  have hnm := hsame.denotes_unique (hwn w hw) (hzm z hz)
  exact eq_of_int? hn (hnm ▸ hm) (ha.trans hb.symm)

theorem keeps_int32 (t : ScalarType) : ScalarType.int32.Keeps t := by
  refine keeps_of_denotes fun v hv => ?_
  rcases v with _ | _ | k | _ | _ | _ | _ <;> cases hv
  have hshort : Binary64.IsShort k.toInt := Binary64.isShort_of_natAbs_lt (by
    have hlow := k.le_toInt
    have hhigh := k.toInt_lt
    omega)
  exact ⟨_, rfl, fun w => denotes_of_coerce rfl fun _ => hshort⟩

theorem keeps_int64 (ht : t ≠ .float64) : ScalarType.int64.Keeps t := by
  refine keeps_of_denotes fun v hv => ?_
  rcases v with _ | _ | _ | k | _ | _ | _ <;> cases hv
  exact ⟨_, rfl, fun w => denotes_of_coerce rfl fun h => absurd h ht⟩

/-- The two truth values are different in every type. -/
theorem keeps_bool (t : ScalarType) : ScalarType.bool.Keeps t := by
  have hdifferent (p q : Bool) (hpq : p ≠ q) (w z : Value) (hw : (Value.bool p).coerce t = .ok w)
      (hz : (Value.bool q).coerce t = .ok z) : ¬w.Same z := by
    rcases t <;> rcases p <;> rcases q <;> cases hw <;> cases hz <;>
      first | exact absurd rfl hpq | decide
  intro a b w z ha hb hw hz hsame
  rcases a with _ | p | _ | _ | _ | _ | _ <;> cases ha
  rcases b with _ | q | _ | _ | _ | _ | _ <;> cases hb
  by_contra hne
  exact hdifferent p q (fun h => hne (h ▸ rfl)) w z hw hz hsame

theorem keeps_bytes (t : ScalarType) : ScalarType.bytes.Keeps t := by
  intro a b w z ha hb hw hz hsame
  rcases a with _ | _ | _ | _ | _ | _ | x <;> cases ha
  rcases b with _ | _ | _ | _ | _ | _ | y <;> cases hb
  obtain rfl | ⟨s, rfl, rfl⟩ := eq_of_coerce_bytes hw
  · cases hsame.eq nofun
    obtain h | ⟨s, h, -⟩ := eq_of_coerce_bytes hz
    · exact h
    · cases h
  · cases hsame.eq nofun
    obtain h | ⟨s, h, rfl⟩ := eq_of_coerce_bytes hz
    · cases h
    · cases h
      rfl

/-- The integers `2 ^ 53` and `2 ^ 53 + 1` become the same number. -/
theorem coerce_eq_coerce_succ :
    (Value.int64 9007199254740992).coerce .float64 = .ok (.float64 ⟨0x4340000000000000⟩) ∧
      (Value.int64 9007199254740993).coerce .float64 = .ok (.float64 ⟨0x4340000000000000⟩) := by
  decide +kernel

theorem not_keeps_int64 : ¬ScalarType.int64.Keeps .float64 := by
  intro h
  obtain ⟨hw, hz⟩ := coerce_eq_coerce_succ
  cases h _ _ _ _ rfl rfl hw hz (.inl rfl)

/-- Truth values, integers and bytes are kept apart by every coercion but that of integers
    of 64 bits to numbers. That one refuses none of them, and gives a number of the same
    value exactly for those with at most fifty-three bits before the trailing zeros. -/
theorem keeps_iff (hs : s ∈ [.bool, .int32, .int64, .bytes]) (t : ScalarType) (k : Int64) :
    (s.Keeps t ↔ ¬(s = .int64 ∧ t = .float64)) ∧
    ∃ x, (Value.int64 k).coerce .float64 = .ok (.float64 x) ∧
      (x.isFinite = true ∧ x.value = k.toInt ↔ Binary64.IsShort k.toInt) := by
  refine ⟨⟨?_, fun ht => ?_⟩, .ofInt k.toInt, rfl, ?_⟩
  · rintro h ⟨rfl, rfl⟩
    exact not_keeps_int64 h
  · simp only [List.mem_cons, List.not_mem_nil, or_false] at hs
    rcases hs with rfl | rfl | rfl | rfl
    · exact keeps_bool t
    · exact keeps_int32 t
    · exact keeps_int64 fun h => ht ⟨rfl, h⟩
    · exact keeps_bytes t
  · rw [← Binary64.toInt?_eq_some_iff]
    exact Binary64.toInt?_ofInt_iff (Value.log2_of_int? (v := .int64 k) rfl)

end ScalarType

namespace Demo.Ledger

/-- The numbers of two entries, one after the other. -/
def first : Int64 := 9007199254740992

def second : Int64 := 9007199254740993

theorem not_isShort_second : ¬Binary64.IsShort second.toInt := by
  rintro ⟨s, e, hs, h⟩
  have hsecond : second.toInt.natAbs = 2 ^ 53 + 1 := by decide
  rw [hsecond] at h
  rcases e with _ | e
  · omega
  · -- The integer is odd.
    rw [pow_succ 2 e, ← mul_assoc] at h
    omega

/-- The numbers of entries stay apart as texts, but not as floating-point numbers: that of
    the second entry is changed. -/
theorem keeps_iff_entries :
    ScalarType.int64.Keeps .string ∧ ¬ScalarType.int64.Keeps .float64 ∧
      ∃ x, (Value.int64 second).coerce .float64 = .ok (.float64 x) ∧
        ¬(x.isFinite = true ∧ x.value = second.toInt) := by
  obtain ⟨htexts, -⟩ := ScalarType.keeps_iff (s := .int64) (by decide) .string second
  obtain ⟨hnumbers, x, hx, hshort⟩ := ScalarType.keeps_iff (s := .int64) (by decide) .float64 second
  exact ⟨htexts.2 (by decide), fun h => hnumbers.1 h ⟨rfl, rfl⟩, x, hx,
    mt hshort.1 not_isShort_second⟩

/-- Two entries with different numbers get the same one. -/
theorem not_kept : first ≠ second ∧
    (∃ w, (Value.int64 first).coerce .float64 = .ok w ∧
      (Value.int64 second).coerce .float64 = .ok w) ∧
    ¬∀ s t : ScalarType, s ∈ [.bool, .int32, .int64, .bytes] → s.Keeps t :=
  ⟨by decide, ⟨_, ScalarType.coerce_eq_coerce_succ⟩,
    fun h => ScalarType.not_keeps_int64 (h .int64 .float64 (by decide))⟩

end Demo.Ledger

end EntityQuery
