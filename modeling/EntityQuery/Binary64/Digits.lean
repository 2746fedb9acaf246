import EntityQuery.Binary64.Basic

/-!
# Decimal digits of a floating-point number

`shortest` gives the decimal with the fewest digits that reads back as the
number. The decimals that read back are those in the *interval* around the
number, half a unit of its last place to either side (a quarter below, where the
unit of the number below is half as large), with the ends if the significand is
even. The grids of decimals `c · 10 ^ k` are searched from coarse to fine; if a
point of a grid lies in the interval so does one of the number's two neighbours
on it, and the nearer of those is taken.

`rounded` gives a fixed number of significant digits instead.

All of it is arithmetic of naturals on the finite number's significand and
exponent; the sign is left to the text (`EntityQuery.Binary64.Layout`).
-/

namespace EntityQuery.Binary64

/-- The decimal `coefficient · 10 ^ power`. -/
structure Decimal where
  coefficient : Nat
  power : Int
  deriving DecidableEq, Repr

/-- Where a number lies exactly between two decimals of a grid: the upper one,
    or the one with the even coefficient. -/
inductive Tie where
  | upper
  | even
  deriving DecidableEq, Repr

/-- The decimal without the zeros at the end of its coefficient, of which at
    most `fuel` are taken off. -/
def Decimal.strip : (fuel : Nat) → Decimal → Decimal
  | 0, d => d
  | n + 1, d =>
    if d.coefficient ≠ 0 ∧ d.coefficient % 10 = 0 then
      strip n ⟨d.coefficient / 10, d.power + 1⟩
    else d

/-- The number of decimal digits of a natural number, one for zero. -/
def digitCount (n : Nat) : Nat := (Nat.toDigits 10 n).length

/-- A power of ten not below the number's first digit, and at most two above it:
    `30103 / 100000` is just above the decimal logarithm of two. -/
def topPower (x : Binary64) : Int :=
  ((x.significand.log2 : Int) + x.exponent + 1) * 30103 / 100000 + 1

/-- The factor that carries a quarter of the number's last place to units of
    `10 ^ k`, as a numerator and a denominator. -/
def gridScale (x : Binary64) (k : Int) : Nat × Nat :=
  let q := x.exponent - 2
  (twoTo q.toNat * tenTo (-k).toNat, twoTo (-q).toNat * tenTo k.toNat)

/-- The ends of the interval that reads back as the number, in quarters of its
    last place. -/
def interval (x : Binary64) : Nat × Nat :=
  let v := 4 * x.significand
  (if x.fraction = 0 ∧ 1 < x.biased then v - 1 else v - 2, v + 2)

/-- The decimal of the grid of `10 ^ k` nearest to the number among those in the
    interval, if there is one. -/
def gridPoint? (tie : Tie) (x : Binary64) (k : Int) : Option Decimal :=
  let (a, b) := x.gridScale k
  let (low, high) := x.interval
  let v := 4 * x.significand * a
  let below := v / b
  let above := below + 1
  let inside (c : Nat) : Bool :=
    if x.significand % 2 = 0 then low * a ≤ c * b && c * b ≤ high * a
    else low * a < c * b && c * b < high * a
  match below ≠ 0 && inside below, inside above with
  | false, false => none
  | true, false => some ⟨below, k⟩
  | false, true => some ⟨above, k⟩
  | true, true =>
    match compare (v - below * b) (above * b - v), tie with
    | .lt, _ => some ⟨below, k⟩
    | .gt, _ => some ⟨above, k⟩
    | .eq, .upper => some ⟨above, k⟩
    | .eq, .even => some ⟨below + below % 2, k⟩

/-- The decimal with the fewest digits that reads back as a finite number other
    than zero: a grid of seventeen digits always has one. -/
def shortest (tie : Tie) (x : Binary64) : Decimal :=
  let points := (List.range 22).findSome? fun (i : Nat) => x.gridPoint? tie (x.topPower - i)
  (points.getD ⟨0, 0⟩).strip 20

/-- A finite number other than zero rounded to `digits` significant digits, a
    half away from zero. -/
def rounded (digits : Nat) (x : Binary64) : Decimal :=
  let quotient (k : Int) : Nat × Nat :=
    let (a, b) := x.gridScale k
    (4 * x.significand * a, b)
  let powers := (List.range (digits + 5)).map fun (i : Nat) => x.topPower - i
  let fits (k : Int) : Bool :=
    let (n, d) := quotient k
    digitCount (n / d) == digits
  let k := (powers.find? fits).getD 0
  let (n, d) := quotient k
  Decimal.strip (digits + 1) ⟨(2 * n + d) / (2 * d), k⟩

end EntityQuery.Binary64
