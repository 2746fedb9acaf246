import EntityQuery.Powers

/-!
# Estimates

How many records a way of looking for them visits, and what that takes, is
estimated by logarithms: an `Estimate` is ten times the binary logarithm of a
number. So estimates are added where numbers are multiplied, and `Estimate.join`
is the estimate of a sum.
-/

namespace EntityQuery.Store

/-- Ten times the binary logarithm of a number. -/
abbrev Estimate := Int

namespace Estimate

/-- What the sum of two numbers adds to the estimate of the greater, by how far their
    estimates are apart. -/
def excesses : List Int := [
  10, 10, 9, 9, 8, 8, 7, 7, 7, 6, 6, 6, 5, 5, 5, 4, 4, 4, 4, 3, 3, 3, 3, 3, 3, 2, 2, 2, 2, 2, 2, 2]

/-- The estimate of the sum of two numbers, by their estimates. -/
def join (a b : Estimate) : Estimate :=
  let greater := max a b
  let apart := greater - min a b
  if 49 < apart then greater else greater + excesses.getD apart.toNat 1

/-- What the three bits after the first add to the estimate of a number. -/
def fractions : List Int := [0, 2, 3, 5, 6, 7, 8, 9]

/-- The estimate of a number. -/
def ofNat (n : Nat) : Estimate :=
  if n < 2 then 0
  else
    let bits := n.log2
    let leading := if bits < 3 then n * twoTo (3 - bits) else n / twoTo (bits - 3)
    10 * (bits : Int) + fractions.getD (leading % 8) 0

/-- How many records a table is taken to have. -/
def records : Estimate := 200

/-- What it takes to find a place in an index. -/
def search : Estimate := 43

/-- What it takes to read a record, over what it takes to find it. -/
def record : Estimate := 16

end Estimate

end EntityQuery.Store
