import EntityQuery.Store.Affinity

/-!
# Patterns

A pattern is a text in which `%` stands for any text, the empty one included, and
`_` for any one character; every other character stands for itself, an ASCII
letter for both of its cases. There is no way to write the two marks themselves.
Both the pattern and the text end at a NUL, if they have one.

Nothing makes sure that bytes are a text. They are read by the numbers of their
characters (`codesFrom`): a lead byte takes all bytes along that continue it, however
many there are, and a byte that continues nothing is a character by itself. What
comes out as no character is the replacement character, and so are the two last
numbers of the first plane.
-/

namespace EntityQuery.Store

/-- The number of the character that a pattern has in place of one that it does not
    know. -/
def replacementCode : Nat := 0xFFFD

/-- What the lead byte of a character says of its number. -/
def leadBits (n : Nat) : Nat :=
  if n < 0xE0 then n - 0xC0
  else if n < 0xF0 then n - 0xE0
  else if n < 0xF8 then n - 0xF0
  else if n < 0xFC then n - 0xF8
  else if n = 0xFD then 1
  else 0

/-- The number of a character of several bytes. One byte would have done for the
    numbers below `0x80`, and the surrogates are no characters. -/
def settledCode (n : Nat) : Nat :=
  if n < 0x80 ∨ n / 0x800 = 0xD800 / 0x800 ∨ n / 2 = 0xFFFE / 2 then replacementCode else n

/-- The numbers of the characters of bytes, after a part of one was read that more
    bytes may continue. -/
def codesFrom (started : Option Nat) : List UInt8 → List Nat
  | [] => (started.map settledCode).toList
  | b :: bs =>
    if started.isSome && Text.Utf8.isContinuation b then
      codesFrom (started.map fun n => (64 * n + b.toNat % 64) % 0x100000000) bs
    else
      (started.map settledCode).toList ++
        if b < 0xC0 then b.toNat :: codesFrom none bs else codesFrom (some (leadBits b.toNat)) bs

/-- The number of an ASCII letter in lower case, any other as it is. -/
def lowerCode (n : Nat) : Nat := if 'A'.toNat ≤ n ∧ n ≤ 'Z'.toNat then n + 32 else n

/-- Whether a text, the second one, has the form of a pattern, both by the numbers of
    their characters. -/
def matchesPattern : List Nat → List Nat → Bool
  | [], s => s.isEmpty
  | a :: p, [] => a == '%'.toNat && matchesPattern p []
  | a :: p, c :: s =>
    if a == '%'.toNat then matchesPattern p (c :: s) || matchesPattern (a :: p) s
    else (a == '_'.toNat || lowerCode a == lowerCode c) && matchesPattern p s
  termination_by p s => p.length + s.length

namespace Datum

/-- The text that a datum is compared with patterns by, up to a NUL. -/
def patternText : Datum → List Nat
  | null => []
  | integer n => (toString n.toInt).toList.map Char.toNat
  | real x => x.storedText.toList.map Char.toNat
  | text bytes | blob bytes => (codesFrom none bytes.toList).takeWhile (· != 0)

/-- Whether a datum has the form of a pattern; unknown if one of them is null. -/
def like (d pattern : Datum) : Option Bool :=
  if d.isNull || pattern.isNull then none
  else some (matchesPattern pattern.patternText d.patternText)

end Datum

end EntityQuery.Store
