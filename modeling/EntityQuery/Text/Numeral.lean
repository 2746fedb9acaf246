import EntityQuery.Powers

/-!
# Numerals

The written form of a number: an optional sign, decimal digits, possibly a point
among them, and possibly a power of ten. `scan` reads the longest numeral at the
start of a text and gives the rest; `readInteger?` reads a whole text that is a
sign and digits.

`readInteger?_eq_some_iff`: a text is read as an integer exactly if it is one of
the two signs or none, and then digits.
-/

namespace EntityQuery.Text

/-- The digit that a decimal character stands for; meaningless for others. -/
def digitValue (c : Char) : Nat := c.toNat - '0'.toNat

/-- The number that decimal digits spell. -/
def digitsValue (cs : List Char) : Nat := cs.foldl (fun n c => 10 * n + digitValue c) 0

/-- The sign at the start of a text, true for minus, and the rest. -/
def takeSign : List Char → Bool × List Char
  | '-' :: cs => (true, cs)
  | '+' :: cs => (false, cs)
  | cs => (false, cs)

/-- A nonempty text of digits as the number it spells. -/
def readDigits? (cs : List Char) : Option Nat :=
  if cs ≠ [] ∧ cs.all Char.isDigit then some (digitsValue cs) else none

/-- A text as the integer it spells: at most one sign, then digits only. -/
def readInteger? (cs : List Char) : Option Int :=
  let (negative, digits) := takeSign cs
  (readDigits? digits).map fun (n : Nat) => if negative then -(n : Int) else n

/-- A numeral: `coefficient · 10 ^ power`, with a sign that a zero keeps. -/
structure Numeral where
  negative : Bool
  coefficient : Nat
  power : Int
  /-- Whether it has neither a point nor a power of ten. -/
  integral : Bool
  deriving DecidableEq, Repr

namespace Numeral

/-- A power of ten at the start of a text, and the rest: the letter, an optional
    sign, and at least one digit. Where there is none, nothing is read. -/
def scanPower (cs : List Char) : Option Int × List Char :=
  match cs with
  | e :: rest =>
    let (negative, rest) := takeSign rest
    let digits := rest.takeWhile Char.isDigit
    if (e == 'e' || e == 'E') && !digits.isEmpty then
      let n : Int := digitsValue digits
      (some (if negative then -n else n), rest.dropWhile Char.isDigit)
    else (none, cs)
  | [] => (none, [])

/-- The longest numeral at the start of a text, and the rest: it has a digit
    before or after the point. -/
def scan (cs : List Char) : Option (Numeral × List Char) :=
  let (negative, cs) := takeSign cs
  let whole := cs.takeWhile Char.isDigit
  let (point, places, rest) :=
    match cs.dropWhile Char.isDigit with
    | '.' :: after => (true, after.takeWhile Char.isDigit, after.dropWhile Char.isDigit)
    | after => (false, [], after)
  if whole.isEmpty && places.isEmpty then none
  else
    let (power, rest) := scanPower rest
    some (⟨negative, digitsValue (whole ++ places), power.getD 0 - places.length,
      !point && power.isNone⟩, rest)

end Numeral

theorem readDigits?_eq_some_iff {cs : List Char} {n : Nat} :
    readDigits? cs = some n ↔ cs ≠ [] ∧ (∀ c ∈ cs, c.isDigit) ∧ digitsValue cs = n := by
  simp [readDigits?, and_assoc]

/-- The texts that spell an integer. -/
theorem readInteger?_eq_some_iff {cs : List Char} {i : Int} :
    readInteger? cs = some i ↔
      ∃ n, readDigits? (takeSign cs).2 = some n ∧
        (if (takeSign cs).1 then -(n : Int) else n) = i := by
  simp [readInteger?]

end EntityQuery.Text
