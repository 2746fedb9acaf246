/-!
# Faults of UTF-8

Bytes that are no UTF-8 text have a first place where they stop being one. The
*fault* there is either bytes that can start no character, counted from the lead
byte to the last byte that still fitted, or the end of the bytes within a
character. `firstFault` finds it, reading one character at a time by the ranges
that the lead byte leaves for the second byte.
-/

namespace EntityQuery.Text

/-- What is wrong with bytes that are no UTF-8 text. -/
inductive Utf8Fault where
  /-- `length` bytes from `index` on start no character. -/
  | invalid (length index : Nat)
  /-- The bytes end within the character that starts at `index`. -/
  | incomplete (index : Nat)
  deriving DecidableEq, Repr

/-- The wording of a fault. -/
def Utf8Fault.message : Utf8Fault → String
  | .invalid length index =>
    "invalid utf-8 sequence of " ++ toString length ++ " bytes from index " ++ toString index
  | .incomplete index => "incomplete utf-8 byte sequence from index " ++ toString index

namespace Utf8

/-- Whether the byte continues a character. -/
def isContinuation (b : UInt8) : Bool := 0x80 ≤ b && b ≤ 0xBF

/-- The number of bytes of the character that the byte leads. -/
def width (lead : UInt8) : Option Nat :=
  if lead ≤ 0x7F then some 1
  else if 0xC2 ≤ lead && lead ≤ 0xDF then some 2
  else if 0xE0 ≤ lead && lead ≤ 0xEF then some 3
  else if 0xF0 ≤ lead && lead ≤ 0xF4 then some 4
  else none

/-- Whether the byte may follow the lead byte: the ranges leave out overlong
    forms, surrogates and what lies beyond the last code point. -/
def fitsSecond (lead b : UInt8) : Bool :=
  if lead == 0xE0 then 0xA0 ≤ b && b ≤ 0xBF
  else if lead == 0xED then 0x80 ≤ b && b ≤ 0x9F
  else if lead == 0xF0 then 0x90 ≤ b && b ≤ 0xBF
  else if lead == 0xF4 then 0x80 ≤ b && b ≤ 0x8F
  else isContinuation b

/-- The fault within the character at `index` that needs `missing` more bytes
    after `seen` of them, if any. -/
def faultWithin (index : Nat) : (missing seen : Nat) → List UInt8 → Option Utf8Fault
  | 0, _, _ => none
  | _ + 1, _, [] => some (.incomplete index)
  | n + 1, seen, b :: bs =>
    if isContinuation b then faultWithin index n (seen + 1) bs else some (.invalid seen index)

/-- The fault of the character that starts at `index`, if any. -/
def faultAt (index : Nat) (lead : UInt8) (rest : List UInt8) : Option Utf8Fault :=
  match width lead, rest with
  | none, _ => some (.invalid 1 index)
  | some 1, _ => none
  | some _, [] => some (.incomplete index)
  | some n, b :: bs =>
    if fitsSecond lead b then faultWithin index (n - 2) 2 bs else some (.invalid 1 index)

/-- The first fault of the bytes, of which `index` were read before. -/
def firstFaultFrom (index : Nat) : List UInt8 → Option Utf8Fault
  | [] => none
  | lead :: rest =>
    match faultAt index lead rest with
    | some fault => some fault
    | none =>
      let n := (width lead).getD 1
      firstFaultFrom (index + n) (rest.drop (n - 1))
  termination_by bytes => bytes.length
  decreasing_by simp only [List.length_drop, List.length_cons]; omega

/-- The first fault of the bytes; none if they are UTF-8. -/
def firstFault (bytes : ByteArray) : Option Utf8Fault := firstFaultFrom 0 bytes.toList

end Utf8

end EntityQuery.Text
