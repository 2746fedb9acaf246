import EntityQuery.Proofs.Exactness
import Mathlib.Algebra.Order.Field.Power
import Mathlib.Algebra.Order.Ring.Rat
import Mathlib.Tactic.FieldSimp
import Mathlib.Tactic.Ring

/-!
# The value of a floating-point number

A finite number has a rational value, which its bits give by the format (`value`). That
the library computes with significands and powers of two instead makes no difference:
an integer is read off a number exactly if it is its value (`toInt?_eq_some_iff`).

An integer is the value of a number if it has at most fifty-three bits before its trailing
zeros (`IsShort`). These are the integers that rounding keeps (`toInt?_ofInt_iff`).
-/

namespace EntityQuery.Binary64

/-- The value of a finite number: the fraction counts in units of `2 ^ -52`, after a one
    unless the number is subnormal. -/
def value (x : Binary64) : ℚ :=
  (if x.negative then -1 else 1) *
    (if x.biased = 0 then (2 : ℚ) ^ (-1022 : ℤ) * (x.fraction / 2 ^ 52)
    else (2 : ℚ) ^ ((x.biased : ℤ) - 1023) * (1 + x.fraction / 2 ^ 52))

variable {x y : Binary64} {n m q : ℤ}

/-- The value is the significand at the place that the exponent gives. -/
theorem value_eq (x : Binary64) : x.value = x.parts.1 * 2 ^ x.parts.2 := by
  have hparts : (x.parts.1 : ℚ) = (if x.negative then -1 else 1) * (x.significand : ℚ) := by
    simp only [parts]
    split <;> simp
  have hshift (e : ℤ) : (2 : ℚ) ^ (e + 52) = 2 ^ e * 2 ^ 52 := by
    rw [zpow_add₀ two_ne_zero]
    norm_cast
  rw [hparts, mul_assoc, value]
  congr 1
  by_cases hb : x.biased = 0
  · have hexponent : x.parts.2 = -1074 := by simp [parts, exponent, hb]
    rw [if_pos hb, hexponent, significand, if_pos hb, show (-1022 : ℤ) = -1074 + 52 by rfl, hshift]
    field_simp
  · have hexponent : x.parts.2 = (x.biased : ℤ) - 1075 := by
      simp only [parts, exponent]
      omega
    rw [if_neg hb, hexponent, significand, if_neg hb,
      show (x.biased : ℤ) - 1023 = x.biased - 1075 + 52 by ring, hshift, twoTo_eq]
    push_cast
    field_simp
    norm_num

/-! ## Integers -/

theorem integral?_eq_some_iff : integral? m q = some n ↔ (n : ℚ) = m * 2 ^ q := by
  have hcast (k : ℕ) : ((twoTo k : ℤ) : ℚ) = 2 ^ k := by
    rw [twoTo_eq]
    norm_cast
  rw [integral?]
  by_cases hq : 0 ≤ q
  · obtain ⟨k, rfl⟩ := Int.eq_ofNat_of_zero_le hq
    rw [if_pos hq, Option.some.injEq, Int.toNat_natCast, zpow_natCast, ← hcast, eq_comm]
    norm_cast
  · obtain ⟨k, hk⟩ := Int.eq_ofNat_of_zero_le (a := -q) (by omega)
    have hpos : (2 : ℚ) ^ k ≠ 0 := pow_ne_zero k two_ne_zero
    have hvalue : (n : ℚ) = m * 2 ^ q ↔ m = n * twoTo k := by
      rw [show q = -(k : ℤ) by omega, zpow_neg, zpow_natCast, ← div_eq_mul_inv, eq_div_iff hpos,
        ← hcast, eq_comm]
      norm_cast
    have htwo : (twoTo k : ℤ) ≠ 0 := by exact_mod_cast (Nat.two_pow_pos k).ne'
    rw [if_neg hq, hk, Int.toNat_natCast, hvalue]
    split
    · next hdvd =>
      rw [Option.some.injEq]
      exact ⟨fun h => by rw [← h, Int.ediv_mul_cancel (Int.dvd_of_emod_eq_zero hdvd)],
        fun h => by rw [h, Int.mul_ediv_cancel _ htwo]⟩
    · next hdvd =>
      rw [iff_false_left (Option.some_ne_none n).symm]
      exact fun h => hdvd (by rw [h, Int.mul_emod_left])

/-- The integer that is read off a number is its value. -/
theorem toInt?_eq_some_iff : x.toInt? = some n ↔ x.isFinite = true ∧ x.value = n := by
  rw [toInt?, Option.ite_none_right_eq_some, integral?_eq_some_iff, value_eq,
    eq_comm (a := (n : ℚ))]

theorem toInt?_of_isZero (h : x.isZero = true) : x.toInt? = some 0 := by
  simp only [isZero, Bool.and_eq_true, beq_iff_eq] at h
  simp [toInt?_eq_some_iff, isFinite, value, h.1, h.2]

/-- Numbers that compare as equal equal the same integer. -/
theorem toInt?_eq_of_equals (h : x.equals y = true) : x.toInt? = y.toInt? := by
  simp only [equals, Bool.and_eq_true, Bool.or_eq_true, beq_iff_eq] at h
  obtain ⟨-, rfl | ⟨hx, hy⟩⟩ := h
  · rfl
  · rw [toInt?_of_isZero hx, toInt?_of_isZero hy]

/-! ## Integers that are the value of a number -/

/-- An integer has at most fifty-three bits before its trailing zeros. -/
def IsShort (n : ℤ) : Prop := ∃ s e : ℕ, s < 2 ^ 53 ∧ n.natAbs = s * 2 ^ e

theorem isShort_of_natAbs_lt (h : n.natAbs < 2 ^ 53) : IsShort n := ⟨n.natAbs, 0, h, by simp⟩

theorem significand_lt (x : Binary64) : x.significand < 2 ^ 53 := by
  have hfraction := x.fraction_lt
  rw [significand, twoTo_eq]
  split <;> omega

theorem isShort_of_toInt? (h : x.toInt? = some n) : IsShort n := by
  have hmul := natAbs_mul_twoTo h
  simp only [twoTo_eq] at hmul
  by_cases he : 0 ≤ x.exponent
  · have hexponent : (-x.exponent).toNat = 0 := by omega
    rw [hexponent, pow_zero, mul_one] at hmul
    exact ⟨_, _, x.significand_lt, hmul⟩
  · have hexponent : x.exponent.toNat = 0 := by omega
    rw [hexponent, pow_zero, mul_one] at hmul
    refine isShort_of_natAbs_lt (lt_of_le_of_lt ?_ x.significand_lt)
    calc n.natAbs ≤ n.natAbs * 2 ^ (-x.exponent).toNat :=
          Nat.le_mul_of_pos_right _ (Nat.two_pow_pos _)
      _ = x.significand := hmul

/-- The fields of a number that is made of its sign and its other bits. -/
theorem fields_ofMagnitude (negative : Bool) {b f : ℕ} (hb : b < 2 ^ 11) (hf : f < 2 ^ 52) :
    (ofMagnitude negative (b * 2 ^ 52 + f)).negative = negative ∧
      (ofMagnitude negative (b * 2 ^ 52 + f)).biased = b ∧
        (ofMagnitude negative (b * 2 ^ 52 + f)).fraction = f := by
  have hbits : (ofMagnitude negative (b * 2 ^ 52 + f)).toNat =
      (if negative then 2 ^ 63 else 0) + (b * 2 ^ 52 + f) := by
    rw [toNat, ofMagnitude, UInt64.toNat_ofNat', twoTo_eq]
    split <;> omega
  simp only [Binary64.negative, biased, fraction, hbits, twoTo_eq]
  rcases negative with - | -
  · simp only [Bool.false_eq_true, if_false, decide_eq_false_iff_not]
    omega
  · simp only [if_true, decide_eq_true_eq]
    omega

/-- The number with the significand and the exponent, of a normal one. -/
theorem toInt?_ofMagnitude {negative : Bool} {b s : ℕ} (hlow : 2 ^ 52 ≤ s) (hhigh : s < 2 ^ 53)
    (hb : 1 ≤ b) (hb' : b < 2047) :
    (ofMagnitude negative (b * 2 ^ 52 + (s - 2 ^ 52))).toInt? =
      integral? (if negative then -s else s) ((b : ℤ) - 1075) := by
  obtain ⟨hnegative, hbiased, hfraction⟩ :=
    fields_ofMagnitude negative (b := b) (f := s - 2 ^ 52) (by omega) (by omega)
  have hs : 2 ^ 52 + (s - 2 ^ 52) = s := by omega
  have hmax : max b 1 = b := by omega
  have hne : b ≠ 0 := by omega
  simp only [toInt?, isFinite, parts, significand, exponent, hnegative, hbiased, hfraction, hmax,
    if_neg hne, decide_eq_true hb', if_true, twoTo_eq, hs]

/-- A significand is moved up to the first of the fifty-three bits. -/
theorem exists_shift {s : ℕ} (hs : s < 2 ^ 53) (hne : s ≠ 0) :
    ∃ k, s.log2 + k = 52 ∧ 2 ^ 52 ≤ s * 2 ^ k ∧ s * 2 ^ k < 2 ^ 53 := by
  obtain ⟨hfirst, hlast⟩ := (Nat.log2_eq_iff hne).1 rfl
  have hlog : s.log2 < 53 := (Nat.log2_lt hne).2 hs
  obtain ⟨k, hk⟩ : ∃ k, s.log2 + k = 52 := ⟨52 - s.log2, by omega⟩
  refine ⟨k, hk, ?_, ?_⟩
  · rw [← hk, pow_add]
    exact Nat.mul_le_mul_right _ hfirst
  · rw [show 53 = s.log2 + 1 + k by omega, pow_add]
    exact Nat.mul_lt_mul_of_pos_right hlast (Nat.two_pow_pos k)

/-- A short integer that is not too large is the value of a number. -/
theorem exists_toInt?_of_isShort (h : IsShort n) (hn : n.natAbs.log2 < 1023) :
    ∃ x : Binary64, x.toInt? = some n := by
  obtain ⟨s, e, hs, hmul⟩ := h
  by_cases hzero : s = 0
  · rw [hzero, Nat.zero_mul, Int.natAbs_eq_zero] at hmul
    exact ⟨zero, hmul ▸ toInt?_of_isZero (by decide)⟩
  obtain ⟨k, hk, hlow, hhigh⟩ := exists_shift hs hzero
  have hplace : s.log2 + e ≤ n.natAbs.log2 := by
    have hne : n.natAbs ≠ 0 := hmul ▸ Nat.mul_ne_zero hzero (Nat.two_pow_pos e).ne'
    rw [Nat.le_log2 hne, hmul, pow_add]
    exact Nat.mul_le_mul_right _ ((Nat.log2_eq_iff hzero).1 rfl).1
  refine ⟨ofMagnitude (decide (n < 0)) ((e + 1075 - k) * 2 ^ 52 + (s * 2 ^ k - 2 ^ 52)), ?_⟩
  rw [toInt?_ofMagnitude hlow hhigh (by omega) (by omega), integral?_eq_some_iff]
  have hpower : ((e + 1075 - k : ℕ) : ℤ) - 1075 = (e : ℤ) - k := by omega
  have hvalue : ((s * 2 ^ k : ℕ) : ℚ) * 2 ^ ((e : ℤ) - k) = n.natAbs := by
    rw [zpow_sub₀ two_ne_zero, zpow_natCast, zpow_natCast, hmul]
    push_cast
    field_simp
  rw [hpower]
  by_cases hneg : n < 0
  · rw [decide_eq_true hneg, if_pos rfl, Int.cast_neg, neg_mul, Int.cast_natCast, hvalue,
      ← Int.cast_natCast, Int.ofNat_natAbs_of_nonpos hneg.le]
    simp
  · rw [decide_eq_false hneg, if_neg Bool.false_ne_true, Int.cast_natCast, hvalue,
      ← Int.cast_natCast, Int.natAbs_of_nonneg (not_lt.1 hneg)]

/-- The integers that rounding keeps. -/
theorem toInt?_ofInt_iff (hn : n.natAbs.log2 < 1023) : (ofInt n).toInt? = some n ↔ IsShort n := by
  refine ⟨isShort_of_toInt?, fun h => ?_⟩
  by_cases hzero : n = 0
  · rw [hzero, toInt?_of_isZero (by decide)]
  · obtain ⟨x, hx⟩ := exists_toInt?_of_isShort h hn
    rw [ofInt_eq hx hzero, hx]

end EntityQuery.Binary64
