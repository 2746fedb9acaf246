import EntityQuery.Binary64.Basic

/-!
# Rounding to a floating-point number

`nearest` is the number closest to a quotient of naturals, and of two equally
close ones the one with the even significand. A quotient from half a unit beyond
the largest finite number on becomes an infinity.

The bits of a number, its sign apart, count the numbers below it: the exponent
field follows the fraction. So once the power of two of the last place is
chosen, the rounded significand is added to the bits of that power, and a carry
into the next power, from a subnormal number into a normal one or from the last
finite number into the infinity, comes out by itself.
-/

namespace EntityQuery.Binary64

/-- The natural number nearest to `num / den`; a half goes to the even one. -/
def roundDiv (num den : Nat) : Nat :=
  let q := num / den
  match compare (2 * (num % den)) den with
  | .lt => q
  | .eq => q + q % 2
  | .gt => q + 1

/-- The quotient `num / (den · 2 ^ e)` as a numerator and a denominator. -/
def scale (num den : Nat) (e : Int) : Nat × Nat :=
  (num * twoTo (-e).toNat, den * twoTo e.toNat)

/-- The power of two of the last place of a number near `num / den`: the one
    that leaves fifty-three bits, but not below that of the subnormal numbers. -/
def lastPlace (num den : Nat) : Int :=
  let t : Int := (num.log2 : Int) - den.log2
  -- `2 ^ (t - 1) < num / den < 2 ^ (t + 1)`
  let (n, d) := scale num den t
  max (if n < d then t - 53 else t - 52) (-1074)

/-- The bits, but for the sign, of the number nearest to `num / den`. -/
def nearestMagnitude (num den : Nat) : Nat :=
  if num = 0 then 0
  else
    let e := lastPlace num den
    let (n, d) := scale num den e
    min ((e + 1074).toNat * twoTo 52 + roundDiv n d) infinityBits

/-- The number nearest to `num / den`, with the given sign. -/
def nearest (negative : Bool) (num den : Nat) : Binary64 :=
  ofMagnitude negative (nearestMagnitude num den)

/-- The number nearest to an integer. -/
def ofInt (n : Int) : Binary64 := nearest (decide (n < 0)) n.natAbs 1

/-- A quotient without remainder is not changed by rounding. -/
theorem roundDiv_mul (q den : Nat) (h : 0 < den) : roundDiv (q * den) den = q := by
  have : compare (2 * (q * den % den)) den = .lt := by
    rw [Nat.mul_mod_left, Nat.mul_zero]
    exact Nat.compare_eq_lt.2 h
  simp only [roundDiv, this, Nat.mul_div_cancel _ h]

end EntityQuery.Binary64
