import EntityQuery.Json
import EntityQuery.Text.Quoted
import EntityQuery.Value.Basic

/-!
# Texts of values

A value has three texts: `Value.text` for messages, where a string is quoted and
bytes only counted, `Value.detail` for diagnostics, which also names the scalar
type, and `Value.json`, its place in a document.
-/

namespace EntityQuery.Value

/-- The word for a truth value. -/
def boolText (b : Bool) : String := if b then "true" else "false"

/-- How many bytes there are, in place of the bytes. -/
def bytesText (b : ByteArray) : String := "<" ++ toString b.size ++ " bytes>"

/-- The text of a value in a message. -/
def text : Value → String
  | null => "NULL"
  | bool b => boolText b
  | int32 n => toString n.toInt
  | int64 n => toString n.toInt
  | float64 x => x.text .plain
  | string s => Text.quoted s
  | bytes b => bytesText b

/-- The text of a value in diagnostics. -/
def detail : Value → String
  | null => "Null"
  | bool b => "Bool(" ++ boolText b ++ ")"
  | int32 n => "Int32(" ++ toString n.toInt ++ ")"
  | int64 n => "Int64(" ++ toString n.toInt ++ ")"
  | float64 x => "Float64(" ++ x.text .detailed ++ ")"
  | string s => "String(" ++ Text.quoted s ++ ")"
  | bytes b => "Bytes([" ++ ", ".intercalate (b.toList.map fun n => toString n.toNat) ++ "])"

/-- A value in a document: bytes are the array of their numbers. -/
def json : Value → Json
  | null => .null
  | bool b => .bool b
  | int32 n => .integer n.toInt
  | int64 n => .integer n.toInt
  | float64 x => .float x
  | string s => .string s
  | bytes b => .array (b.toList.map fun n => .integer n.toNat)

end EntityQuery.Value
