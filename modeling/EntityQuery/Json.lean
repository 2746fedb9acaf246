import EntityQuery.Binary64.Layout

/-!
# Documents

A `Json` document and its two texts: `compact` on one line without blanks, and
`pretty` with one element on a line, indented by two blanks for each level.
Strings escape the quote, the backslash and the controls and leave every other
character as it is; a number that is not finite has no text and is written
`null`. The members of an object keep the order they are given in.
-/

namespace EntityQuery

/-- A document. -/
inductive Json where
  | null
  | bool (b : Bool)
  | integer (n : Int)
  | float (x : Binary64)
  | string (s : String)
  | array (elements : List Json)
  | object (members : List (String × Json))

namespace Json

/-- Two hexadecimal digits. -/
def hexByte (n : Nat) : List Char := [Nat.digitChar (n / 16), Nat.digitChar (n % 16)]

/-- One character as it stands within a string. -/
def escaped (c : Char) : List Char :=
  match c with
  | '"' => ['\\', '"']
  | '\\' => ['\\', '\\']
  | '\x08' => ['\\', 'b']
  | '\x0c' => ['\\', 'f']
  | '\n' => ['\\', 'n']
  | '\r' => ['\\', 'r']
  | '\t' => ['\\', 't']
  | c => if c.toNat < 0x20 then ['\\', 'u', '0', '0'] ++ hexByte c.toNat else [c]

/-- A string between quotes. -/
def stringText (s : String) : String :=
  String.ofList ('"' :: (s.toList.flatMap escaped ++ ['"']))

mutual

/-- The text without blanks. -/
def compact : Json → String
  | null => "null"
  | bool b => if b then "true" else "false"
  | integer n => toString n
  | float x => x.jsonText
  | string s => stringText s
  | array es => "[" ++ ",".intercalate (compactElements es) ++ "]"
  | object ms => "\x7b" ++ ",".intercalate (compactMembers ms) ++ "\x7d"

/-- The texts of the elements of an array. -/
def compactElements : List Json → List String
  | [] => []
  | e :: es => e.compact :: compactElements es

/-- The texts of the members of an object. -/
def compactMembers : List (String × Json) → List String
  | [] => []
  | (name, e) :: ms => (stringText name ++ ":" ++ e.compact) :: compactMembers ms

end

/-- The start of a line at a level. -/
def indentation (level : Nat) : String := String.ofList ('\n' :: List.replicate (2 * level) ' ')

/-- Items between two brackets, each on a line of its own one level further in
    than the brackets; no line at all if there are none. -/
def enclosed (level : Nat) (opening closing : String) (items : List String) : String :=
  if items.isEmpty then opening ++ closing
  else
    opening ++ indentation (level + 1) ++ ("," ++ indentation (level + 1)).intercalate items ++
      indentation level ++ closing

mutual

/-- The text over several lines, at a level of indentation. -/
def prettyAt (level : Nat) : Json → String
  | array es => enclosed level "[" "]" (prettyElements (level + 1) es)
  | object ms => enclosed level "\x7b" "\x7d" (prettyMembers (level + 1) ms)
  | null => "null"
  | bool b => if b then "true" else "false"
  | integer n => toString n
  | float x => x.jsonText
  | string s => stringText s

/-- The texts of the elements of an array, at their level. -/
def prettyElements (level : Nat) : List Json → List String
  | [] => []
  | e :: es => e.prettyAt level :: prettyElements level es

/-- The texts of the members of an object, at their level. -/
def prettyMembers (level : Nat) : List (String × Json) → List String
  | [] => []
  | (name, e) :: ms => (stringText name ++ ": " ++ e.prettyAt level) :: prettyMembers level ms

end

/-- The text over several lines. -/
def pretty (document : Json) : String := document.prettyAt 0

end Json

end EntityQuery
