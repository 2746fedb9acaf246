import EntityQuery.Binary64.Rounding
import Mathlib.Algebra.Group.Nat.Defs

/-!
# Integers that are floating-point numbers

Rounding leaves alone what is a floating-point number already: if a number equals an
integer, then it equals the number nearest to that integer (`equals_ofInt`). Only the
sign of a zero may differ.

An integer other than zero is at least one, and so is a number that equals it. Its
significand then has all of its fifty-three bits, and the last of them is in the place
that the rounding chooses (`lastPlace_eq`).
-/

namespace EntityQuery.Binary64

variable {x : Binary64} {n : Int}

theorem twoTo_eq (n : Nat) : twoTo n = 2 ^ n := rfl

/-! ## The bits of a number -/

/-- The bits of a number are those of its sign, its exponent and its fraction. -/
theorem toNat_eq (x : Binary64) :
    x.toNat = (if x.negative then twoTo 63 else 0) + (x.biased * twoTo 52 + x.fraction) := by
  have hlt : x.toNat < 2 ^ 64 := x.bits.toNat_lt
  simp only [negative, biased, fraction, twoTo_eq]
  by_cases h : 2 ^ 63 ≤ x.toNat
  · simp only [h, decide_true, if_true]
    omega
  · simp only [h, decide_false, Bool.false_eq_true, if_false]
    omega

/-- A number is made of its sign and its other bits. -/
theorem ofMagnitude_eq (x : Binary64) :
    ofMagnitude x.negative (x.biased * twoTo 52 + x.fraction) = x := by
  have hbits : (if x.negative then twoTo 63 + (x.biased * twoTo 52 + x.fraction)
      else x.biased * twoTo 52 + x.fraction) = x.bits.toNat := by
    rw [← toNat, toNat_eq x]
    split
    · rfl
    · rw [Nat.zero_add]
  rw [ofMagnitude, hbits]
  exact congrArg Binary64.mk UInt64.ofNat_toNat

theorem fraction_lt (x : Binary64) : x.fraction < 2 ^ 52 := Nat.mod_lt _ (by decide)

/-! ## Integers -/

/-- A finite number is the integer that its significand and its power of two make. -/
theorem integral?_of_toInt? (h : x.toInt? = some n) :
    x.biased < 2047 ∧ integral? x.parts.1 x.parts.2 = some n := by
  rw [toInt?] at h
  split at h
  · next hfinite => exact ⟨of_decide_eq_true hfinite, h⟩
  · cases h

/-- The integer `m · 2 ^ q`, whatever the sign of the power. -/
theorem mul_twoTo_of_integral? {m q : Int} (h : integral? m q = some n) :
    n * twoTo (-q).toNat = m * twoTo q.toNat := by
  rw [integral?] at h
  split at h
  · next hq =>
    have hq' : (-q).toNat = 0 := by omega
    rw [hq', ← Option.some.inj h, twoTo_zero, Int.natCast_one, Int.mul_one]
  · next hq =>
    split at h
    · next hm =>
      have hq' : q.toNat = 0 := by omega
      rw [hq', ← Option.some.inj h, Int.ediv_mul_cancel (Int.dvd_of_emod_eq_zero hm), twoTo_zero,
        Int.natCast_one, Int.mul_one]
    · cases h

/-- The size of the integer that a number equals. -/
theorem natAbs_mul_twoTo (h : x.toInt? = some n) :
    n.natAbs * twoTo (-x.exponent).toNat = x.significand * twoTo x.exponent.toNat := by
  have hmul := congrArg Int.natAbs (mul_twoTo_of_integral? (integral?_of_toInt? h).2)
  have hparts : x.parts.1.natAbs = x.significand := by
    simp only [parts]
    split <;> simp
  rwa [Int.natAbs_mul, Int.natAbs_mul, hparts, Int.natAbs_natCast, Int.natAbs_natCast] at hmul

/-! ## Rounding of integers -/

/-- The last place of an integer with fifty-three bits before a power of two. -/
theorem lastPlace_eq {num s : Nat} {e : Int} (hlow : 2 ^ 52 ≤ s) (hhigh : s < 2 ^ 53)
    (hnum : num ≠ 0) (hmul : num * twoTo (-e).toNat = s * twoTo e.toNat) :
    lastPlace num 1 = e := by
  simp only [twoTo_eq] at hmul
  have hpos : 0 < 2 ^ e.toNat := Nat.two_pow_pos _
  -- The power of the last place is at least `-52`, or else the integer would be below one.
  have hle : (-e).toNat ≤ 52 + e.toNat := by
    refine Nat.lt_succ_iff.1 ((Nat.pow_lt_pow_iff_right (a := 2) (by decide)).1 ?_)
    calc 2 ^ (-e).toNat ≤ num * 2 ^ (-e).toNat := Nat.le_mul_of_pos_left _ (by omega)
      _ = s * 2 ^ e.toNat := hmul
      _ < 2 ^ 53 * 2 ^ e.toNat := Nat.mul_lt_mul_of_pos_right hhigh hpos
      _ = 2 ^ (52 + e.toNat + 1) := by rw [← Nat.pow_add]; congr 1; omega
  obtain ⟨k, hk⟩ := Nat.exists_eq_add_of_le hle
  have hfirst : 2 ^ k ≤ num := by
    refine Nat.le_of_mul_le_mul_right ?_ (Nat.two_pow_pos (-e).toNat)
    calc 2 ^ k * 2 ^ (-e).toNat = 2 ^ 52 * 2 ^ e.toNat := by
          rw [← Nat.pow_add, ← Nat.pow_add, hk, Nat.add_comm]
      _ ≤ s * 2 ^ e.toNat := Nat.mul_le_mul_right _ hlow
      _ = num * 2 ^ (-e).toNat := hmul.symm
  have hsecond : num < 2 ^ (k + 1) := by
    refine Nat.lt_of_mul_lt_mul_right (a := 2 ^ (-e).toNat) ?_
    calc num * 2 ^ (-e).toNat = s * 2 ^ e.toNat := hmul
      _ < 2 ^ 53 * 2 ^ e.toNat := Nat.mul_lt_mul_of_pos_right hhigh hpos
      _ = 2 ^ (k + 1) * 2 ^ (-e).toNat := by
          rw [← Nat.pow_add, ← Nat.pow_add]; congr 1; omega
  have hlog : num.log2 = k := (Nat.log2_eq_iff hnum).2 ⟨hfirst, hsecond⟩
  have hone : Nat.log2 1 = 0 := by decide
  have hneg : (-((k : Int) - (0 : Nat))).toNat = 0 := by omega
  have hnat : ((k : Int) - (0 : Nat)).toNat = k := by omega
  simp only [lastPlace, hlog, hone, scale, hneg, hnat, twoTo_eq, Nat.pow_zero, Nat.mul_one,
    Nat.one_mul, if_neg (Nat.not_lt.2 hfirst)]
  omega

/-- The number nearest to an integer with fifty-three bits before a power of two has those
    bits. -/
theorem nearestMagnitude_eq {num s b : Nat} {e : Int} (hlow : 2 ^ 52 ≤ s) (hhigh : s < 2 ^ 53)
    (hb : 1 ≤ b) (hb' : b < 2047) (he : e = (b : Int) - 1075) (hnum : num ≠ 0)
    (hmul : num * twoTo (-e).toNat = s * twoTo e.toNat) :
    nearestMagnitude num 1 = (b - 1) * twoTo 52 + s := by
  have hround : roundDiv (num * twoTo (-e).toNat) (1 * twoTo e.toNat) = s := by
    rw [hmul, Nat.one_mul]
    exact roundDiv_mul _ _ (Nat.two_pow_pos _)
  have hplace : (e + 1074).toNat = b - 1 := by omega
  simp only [nearestMagnitude, if_neg hnum, lastPlace_eq hlow hhigh hnum hmul, scale, hround,
    hplace]
  simp only [infinityBits, twoTo_eq]
  omega

/-- A number that equals an integer other than zero has its sign. -/
theorem negative_eq (h : x.toInt? = some n) (hn : n ≠ 0) : x.negative = decide (n < 0) := by
  have hmul := mul_twoTo_of_integral? (integral?_of_toInt? h).2
  have hpos (k : Nat) : 0 < (twoTo k : Int) := Int.natCast_pos.2 (Nat.two_pow_pos k)
  simp only [parts] at hmul
  cases hx : x.negative with
  | true =>
    have hle : n * twoTo (-x.exponent).toNat ≤ 0 := by
      rw [hmul, if_pos hx]
      exact Int.mul_nonpos_of_nonpos_of_nonneg (by omega) (Int.le_of_lt (hpos _))
    have hn' : ¬0 < n := fun h' => by
      have := Int.mul_pos h' (hpos (-x.exponent).toNat)
      omega
    exact (decide_eq_true (by omega)).symm
  | false =>
    have hle : 0 ≤ n * twoTo (-x.exponent).toNat := by
      rw [hmul, if_neg (Bool.eq_false_iff.1 hx)]
      exact Int.mul_nonneg (by omega) (Int.le_of_lt (hpos _))
    have hn' : ¬n < 0 := fun h' => by
      have := Int.mul_neg_of_neg_of_pos h' (hpos (-x.exponent).toNat)
      omega
    exact (decide_eq_false hn').symm

/-- A number that equals an integer other than zero is no subnormal one. -/
theorem biased_ne_zero (h : x.toInt? = some n) (hn : n ≠ 0) : x.biased ≠ 0 := by
  intro hb
  have hmul := natAbs_mul_twoTo h
  have hexponent : x.exponent.toNat = 0 ∧ 52 ≤ (-x.exponent).toNat := by
    rw [exponent, hb]
    decide
  rw [significand, if_pos hb, hexponent.1] at hmul
  have hle : 2 ^ 52 ≤ n.natAbs * twoTo (-x.exponent).toNat :=
    calc 2 ^ 52 ≤ 2 ^ (-x.exponent).toNat := Nat.pow_le_pow_right (by decide) hexponent.2
      _ ≤ n.natAbs * twoTo (-x.exponent).toNat := Nat.le_mul_of_pos_left _ (Int.natAbs_pos.2 hn)
  rw [hmul, twoTo_zero, Nat.mul_one] at hle
  exact Nat.not_lt.2 hle x.fraction_lt

/-- A number that equals an integer other than zero is the one nearest to it. -/
theorem ofInt_eq (h : x.toInt? = some n) (hn : n ≠ 0) : ofInt n = x := by
  have hb := biased_ne_zero h hn
  have hfraction := x.fraction_lt
  have hmagnitude : nearestMagnitude n.natAbs 1 = x.biased * twoTo 52 + x.fraction := by
    have hmul := natAbs_mul_twoTo h
    rw [significand, if_neg hb] at hmul
    rw [nearestMagnitude_eq (by rw [twoTo_eq]; omega) (by rw [twoTo_eq]; omega) (by omega)
      (integral?_of_toInt? h).1 (by rw [exponent]; omega) (Int.natAbs_ne_zero.2 hn) hmul, twoTo_eq]
    omega
  rw [ofInt, nearest, hmagnitude, ← negative_eq h hn, ofMagnitude_eq]

/-- A number that equals an integer equals the number nearest to it. -/
theorem equals_ofInt (h : x.toInt? = some n) : (ofInt n).equals x = true := by
  have hfinite := (integral?_of_toInt? h).1
  have hnan : x.isNaN = false := by
    rw [isNaN, beq_eq_false_iff_ne.2 (Nat.ne_of_lt hfinite), Bool.false_and]
  by_cases hn : n = 0
  · -- The number is a zero, perhaps the negative one.
    subst hn
    have hmul := natAbs_mul_twoTo h
    rw [Int.natAbs_zero, Nat.zero_mul] at hmul
    have hzero : x.significand = 0 :=
      (Nat.mul_eq_zero.1 hmul.symm).resolve_right (Nat.ne_of_gt (Nat.two_pow_pos _))
    have hx : x.isZero = true := by
      rw [significand, twoTo_eq] at hzero
      simp only [isZero, Bool.and_eq_true, beq_iff_eq]
      split at hzero <;> omega
    have hofInt : (ofInt 0).isNaN = false ∧ (ofInt 0).isZero = true := by decide
    rw [equals, hnan, hx, hofInt.1, hofInt.2, Bool.and_true, Bool.or_true]
    rfl
  · rw [ofInt_eq h hn, equals_self, hnan]
    rfl

end EntityQuery.Binary64
