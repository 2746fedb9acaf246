import EntityQuery.Text.Property

/-!
# Quoted text

A text as messages and diagnostics show it: between double quotes, with the
quote, the backslash, NUL, tab, line feed and carriage return written by a
backslash and a letter, and every character that would not be seen for itself
(`isExtender`, `isUnprintable`) by its code point.
-/

namespace EntityQuery.Text

/-- A code point in lower-case hexadecimal digits, without padding. -/
def hexDigits (n : Nat) : List Char := Nat.toDigits 16 n

/-- One character as it stands between the quotes. -/
def escaped (c : Char) : List Char :=
  match c with
  | '\x00' => ['\\', '0']
  | '\t' => ['\\', 't']
  | '\r' => ['\\', 'r']
  | '\n' => ['\\', 'n']
  | '"' => ['\\', '"']
  | '\\' => ['\\', '\\']
  | c =>
    if isExtender c || isUnprintable c then
      ['\\', 'u', '\x7b'] ++ hexDigits c.toNat ++ ['\x7d']
    else [c]

/-- A text between double quotes. -/
def quoted (s : String) : String :=
  String.ofList ('"' :: (s.toList.flatMap escaped ++ ['"']))

end EntityQuery.Text
