/-!
# Blanks

A *blank* is a character of Unicode's `White_Space` property: the ASCII blanks,
the no-break space and the spaces and separators of the general punctuation
block. `trim` takes the blanks off both ends of a text; connection strings,
table names and the literals in stored texts are read after it.
-/

namespace EntityQuery.Text

/-- Whether the character is a blank. -/
def isBlank (c : Char) : Bool :=
  let n := c.toNat
  (0x09 ≤ n && n ≤ 0x0D) || n == 0x20 || n == 0x85 || n == 0xA0 || n == 0x1680 ||
    (0x2000 ≤ n && n ≤ 0x200A) || n == 0x2028 || n == 0x2029 || n == 0x202F || n == 0x205F ||
    n == 0x3000

/-- The characters from the first that is no blank. -/
def trimStart (cs : List Char) : List Char := cs.dropWhile isBlank

/-- The characters between the blanks at either end. -/
def trimChars (cs : List Char) : List Char := (trimStart (trimStart cs).reverse).reverse

/-- A text without the blanks at either end. -/
def trim (s : String) : String := String.ofList (trimChars s.toList)

/-- The ASCII letters of a text in lower case, every other character as it is. -/
def lower (s : String) : String := String.ofList (s.toList.map Char.toLower)

theorem trimStart_of_head {c : Char} {cs : List Char} (h : isBlank c = false) :
    trimStart (c :: cs) = c :: cs := by
  simp [trimStart, h]

end EntityQuery.Text
