import EntityQuery.Binary64.Rounding
import EntityQuery.Text.Numeral

/-!
# Reading floating-point numbers

A numeral as the number nearest to it, and a text as the number it spells: a
numeral and nothing else, or a name of an infinity or of a NaN, in any case and
with an optional sign.

A numeral far outside the range of the finite numbers is an infinity or a zero
whatever its digits, and is decided by the place of its first digit: the power
of ten that a text can spell has no bound.
-/

namespace EntityQuery.Binary64

/-- The number nearest to a numeral. -/
def ofNumeral (n : Text.Numeral) : Binary64 :=
  let places : Int := (Nat.toDigits 10 n.coefficient).length + n.power
  if n.coefficient = 0 ∨ places < -330 then ofMagnitude n.negative 0
  else if 320 < places then infinity n.negative
  else nearest n.negative (n.coefficient * tenTo n.power.toNat) (tenTo (-n.power).toNat)

/-- The infinity or NaN that a text names, its sign apart. -/
def ofName? (negative : Bool) (name : List Char) : Option Binary64 :=
  match String.ofList (name.map Char.toLower) with
  | "inf" | "infinity" => some (infinity negative)
  | "nan" => some nan
  | _ => none

/-- A text as the number it spells. -/
def read? (cs : List Char) : Option Binary64 :=
  match Text.Numeral.scan cs with
  | some (n, []) => some (ofNumeral n)
  | some (_, _ :: _) => none
  | none =>
    let (negative, name) := Text.takeSign cs
    ofName? negative name

end EntityQuery.Binary64
