import EntityQuery.Powers

/-!
# Floating-point numbers

A `Binary64` is a double-precision number of IEEE 754, held by its bits. It is
either finite — a *significand* times a power of two, with a sign — or an
infinity, or not a number. Everything the library does with one is exact
arithmetic on the significand and the exponent, so that it can be reasoned about
without an axiom on floating-point operations:

* `toInt?` gives the integer that the number equals, if it equals one;
* `compareParts` orders two finite numbers by value;
* `equals` is the comparison of IEEE 754, where a NaN differs from itself and
  the two zeros agree.
-/

namespace EntityQuery

/-- A double-precision number, by its bits: the sign, eleven bits of exponent
    and fifty-two of fraction. -/
structure Binary64 where
  bits : UInt64
  deriving DecidableEq, Repr

namespace Binary64

/-- The bits of a number, as a natural number. -/
def toNat (x : Binary64) : Nat := x.bits.toNat

/-- Whether the sign bit is set. -/
def negative (x : Binary64) : Bool := twoTo 63 ≤ x.toNat

/-- The exponent field, from 0 to 2047. -/
def biased (x : Binary64) : Nat := x.toNat / twoTo 52 % twoTo 11

/-- The fraction field. -/
def fraction (x : Binary64) : Nat := x.toNat % twoTo 52

/-- Whether the number is finite: the last exponent is kept for the others. -/
def isFinite (x : Binary64) : Bool := x.biased < 2047

/-- Whether this is no number. -/
def isNaN (x : Binary64) : Bool := x.biased == 2047 && x.fraction != 0

/-- Whether this is an infinity. -/
def isInfinite (x : Binary64) : Bool := x.biased == 2047 && x.fraction == 0

/-- Whether this is a zero, of either sign. -/
def isZero (x : Binary64) : Bool := x.biased == 0 && x.fraction == 0

/-- The significand of a finite number, a natural number below `2 ^ 53`. -/
def significand (x : Binary64) : Nat :=
  if x.biased = 0 then x.fraction else twoTo 52 + x.fraction

/-- The power of two that a finite number's significand is multiplied by. -/
def exponent (x : Binary64) : Int := (max x.biased 1 : Nat) - 1075

/-- A finite number as a signed significand and a power of two. -/
def parts (x : Binary64) : Int × Int :=
  (if x.negative then -x.significand else x.significand, x.exponent)

/-- The number with the given sign whose other bits are `magnitude`. -/
def ofMagnitude (negative : Bool) (magnitude : Nat) : Binary64 :=
  ⟨.ofNat (if negative then twoTo 63 + magnitude else magnitude)⟩

/-- The bits of the positive infinity. -/
def infinityBits : Nat := 2047 * twoTo 52

/-- The infinity of the given sign. -/
def infinity (negative : Bool) : Binary64 := ofMagnitude negative infinityBits

/-- A value that is no number. -/
def nan : Binary64 := ⟨0x7ff8000000000000⟩

/-- The positive zero. -/
def zero : Binary64 := ⟨0⟩

/-- The number one. -/
def one : Binary64 := ⟨0x3ff0000000000000⟩

/-- The integer `m · 2 ^ q`, if it is one. -/
def integral? (m q : Int) : Option Int :=
  if 0 ≤ q then some (m * twoTo q.toNat)
  else if m % twoTo (-q).toNat = 0 then some (m / twoTo (-q).toNat)
  else none

/-- The integer that a finite number equals, if it equals one. -/
def toInt? (x : Binary64) : Option Int :=
  if x.isFinite then integral? x.parts.1 x.parts.2 else none

/-- The order of `m · 2 ^ q` and `n · 2 ^ r`, both brought to the lower power. -/
def compareParts (a b : Int × Int) : Ordering :=
  let low := min a.2 b.2
  compare (a.1 * twoTo (a.2 - low).toNat) (b.1 * twoTo (b.2 - low).toNat)

/-- Equality of numbers: a NaN differs from everything, and the zeros agree. -/
def equals (x y : Binary64) : Bool :=
  !x.isNaN && !y.isNaN && (x == y || (x.isZero && y.isZero))

/-- A number equals itself unless it is a NaN. -/
theorem equals_self (x : Binary64) : x.equals x = !x.isNaN := by
  simp [equals]

end Binary64

end EntityQuery
