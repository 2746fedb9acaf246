import EntityQuery.Binary64.Reading

/-!
# Numerals of the store

The store does not read a numeral as the number nearest to it. It takes the first
digits, nineteen or twenty of them, as an integer and a power of ten, and multiplies
the integer by powers of ten in the format of 64 significant bits (`Extended`), of
which each product is rounded. What comes out is rounded once more.
-/

namespace EntityQuery.Store

/-- A number of at most 64 significant bits, times a power of two. -/
structure Extended where
  significand : Nat
  exponent : Int

namespace Extended

/-- The number of 64 bits nearest to a product with a power of two. -/
def round (m : Nat) (q : Int) : Extended :=
  let surplus := m.log2 - 63
  ⟨Binary64.roundDiv m (twoTo surplus), q + surplus⟩

/-- The product, rounded. -/
def times (y x : Extended) : Extended :=
  round (x.significand * y.significand) (x.exponent + y.exponent)

/-- The power of ten, rounded. -/
def hundredPlaces : Extended := round (tenTo 100) 0

def tenPlaces : Extended := ⟨tenTo 10, 0⟩

def onePlace : Extended := ⟨10, 0⟩

/-- The inverse of a power of ten, rounded, if the quotient of the power of two by it has
    64 bits. -/
def inverse (places bits : Nat) : Extended :=
  ⟨Binary64.roundDiv (twoTo bits) (tenTo places), -bits⟩

/-- A number times powers of ten: the greatest first, each so many times. -/
def shift (e : Int) (x : Extended) : Extended :=
  let n := e.natAbs
  let (hundred, ten, one) :=
    if 0 ≤ e then (hundredPlaces, tenPlaces, onePlace)
    else (inverse 100 396, inverse 10 97, inverse 1 67)
  Nat.repeat (times one) (n % 10)
    (Nat.repeat (times ten) (n % 100 / 10) (Nat.repeat (times hundred) (n / 100) x))

/-- The floating-point number nearest to a number; beyond the largest there is only the
    infinity. -/
def toBinary64 (negative : Bool) (x : Extended) : Binary64 :=
  let num := x.significand * twoTo x.exponent.toNat
  let den := twoTo (-x.exponent).toNat
  if (twoTo 53 - 1) * twoTo 971 * den < num then .infinity negative else .nearest negative num den

end Extended

/-- From here on an integer of 64 bits has no room for another digit. -/
def digitBound : Nat := (twoTo 64 - 10) / 10

/-- The digits that are read of a coefficient, with the power of ten that makes up for
    the others. -/
def leadingDigits : (fuel : Nat) → Nat × Int → Nat × Int
  | 0, x => x
  | n + 1, (s, e) => if digitBound ≤ s / 10 then leadingDigits n (s / 10, e + 1) else (s, e)

/-- As much of a power of ten as the coefficient has room for. -/
def widened : (fuel : Nat) → Nat × Int → Nat × Int
  | 0, x => x
  | n + 1, (s, e) =>
    if 0 < e && s < (twoTo 64 - 1) / 10 then widened n (s * 10, e - 1) else (s, e)

/-- As little of a negative power of ten as the last digits of the coefficient allow. -/
def shortened : (fuel : Nat) → Nat × Int → Nat × Int
  | 0, x => x
  | n + 1, (s, e) => if e < 0 && s % 10 == 0 then shortened n (s / 10, e + 1) else (s, e)

/-- A numeral as the store reads it. Far outside the range of the finite numbers it is
    decided by the place of its first digit. -/
def realOfNumeral (n : Text.Numeral) : Binary64 :=
  let length := (Nat.toDigits 10 n.coefficient).length
  let places : Int := length + n.power
  if n.coefficient = 0 ∨ places < -330 then .ofMagnitude n.negative 0
  else if 320 < places then .infinity n.negative
  else
    let (s, e) := shortened 20 (widened 20 (leadingDigits length (n.coefficient, n.power)))
    (Extended.shift e ⟨s, 0⟩).toBinary64 n.negative

end EntityQuery.Store
