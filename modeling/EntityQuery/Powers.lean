/-!
# Powers

The powers that the written and the stored form of a number are made of: those of
ten and those of two.
-/

namespace EntityQuery

/-- A power of two. -/
def twoTo (n : Nat) : Nat := Nat.pow 2 n

/-- A power of ten. -/
def tenTo (n : Nat) : Nat := Nat.pow 10 n

theorem twoTo_zero : twoTo 0 = 1 := rfl

end EntityQuery
