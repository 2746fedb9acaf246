import EntityQuery.Store.Datum
import EntityQuery.Store.Decimal

/-!
# Column types

The declared type of a column has an *affinity*: it converts what is stored in
the column, where that loses nothing, and it takes part in comparisons with the
column. Texts that spell a number become numbers in a column of numbers, whole
numbers become integers in a column of integers and floating-point numbers in the
other, and numbers become texts in a column of texts. A column of blobs converts
nothing.

In a comparison the side of a column decides (`alike`): beside a column of numbers
a text that spells a number is compared as one, and beside a column of texts a
number is compared by its text.
-/

namespace EntityQuery.Store

/-- The declared types of columns. -/
inductive ColumnType where
  | integer
  | real
  | text
  | blob
  /-- No type at all. -/
  | untyped
  deriving DecidableEq, Repr

/-- The word for a column type. -/
def ColumnType.sql : ColumnType → String
  | integer => "INTEGER"
  | real => "REAL"
  | text => "TEXT"
  | blob => "BLOB"
  | untyped => ""

/-- The type of a column for values of a scalar type. -/
def ColumnType.ofScalar : ScalarType → ColumnType
  | .bool | .int32 | .int64 => integer
  | .float64 => real
  | .string => text
  | .bytes => blob

namespace Datum

/-- Whether the character is a blank around a number. -/
def isNumberSpace (c : Char) : Bool :=
  c == ' ' || (0x09 ≤ c.toNat && c.toNat ≤ 0x0D)

/-- The characters of bytes, one for each byte if they are no text. -/
def charsOf (bytes : ByteArray) : List Char :=
  match String.fromUTF8? bytes with
  | some s => s.toList
  | none => bytes.toList.map fun b => Char.ofNat b.toNat

/-- The numeral at the start of bytes, after blanks, and what follows it. -/
def numeralOf (bytes : ByteArray) : Option (Text.Numeral × List Char) :=
  Text.Numeral.scan ((charsOf bytes).dropWhile isNumberSpace)

/-- The number of a numeral: an integer if it has neither point nor power and is
    in range. -/
def ofNumeral (n : Text.Numeral) : Datum :=
  let i : Int := if n.negative then -n.coefficient else n.coefficient
  if n.integral ∧ Int64.minValue.toInt ≤ i ∧ i ≤ Int64.maxValue.toInt then integer (.ofInt i)
  else real (realOfNumeral n)

/-- A text that spells a number, with blanks around it, as the number; any other
    datum as it is. -/
def toNumber : Datum → Datum
  | text bytes =>
    match numeralOf bytes with
    | some (n, rest) => if rest.all isNumberSpace then ofNumeral n else text bytes
    | none => text bytes
  | d => d

/-- A whole number within the range of the integers as an integer; any other datum
    as it is. -/
def toWhole : Datum → Datum
  | real x =>
    match x.toInt? with
    | some n =>
      if Int64.minValue.toInt < n ∧ n < Int64.maxValue.toInt then integer (.ofInt n) else real x
    | none => real x
  | d => d

/-- An integer as a floating-point number; any other datum as it is. -/
def toReal : Datum → Datum
  | integer n => real (.ofInt n.toInt)
  | d => d

/-- A number as its text; any other datum as it is. -/
def toText : Datum → Datum
  | integer n => text (toString n.toInt).toUTF8
  | real x => text x.storedText.toUTF8
  | d => d

/-- Whether the datum is a text. -/
def isText : Datum → Bool
  | text _ => true
  | _ => false

end Datum

namespace ColumnType

/-- Whether the type is one of numbers. -/
def isNumeric : ColumnType → Bool
  | integer | real => true
  | text | blob | untyped => false

/-- A datum as a column of the type stores it. Also a column of floating-point numbers
    keeps whole numbers as integers, which have no negative zero. -/
def store (t : ColumnType) (d : Datum) : Datum :=
  match t with
  | integer => d.toNumber.toWhole
  | real => d.toNumber.toWhole.toReal
  | text => d.toText
  | blob | untyped => d

/-- The type that decides a comparison of two sides, of which those that are
    columns have one. Of two columns that of numbers decides, if there is one. -/
def deciding? : Option ColumnType → Option ColumnType → Option ColumnType
  | some a, some b => if a.isNumeric then some a else if b.isNumeric then some b else none
  | some a, none => some a
  | none, b => b

/-- The two sides of a comparison, made alike by the type that decides it. -/
def alike (decides : Option ColumnType) (a b : Datum) : Datum × Datum :=
  match decides with
  | some .integer | some .real => (a.toNumber, b.toNumber)
  | some .text => if a.isText || b.isText then (a.toText, b.toText) else (a, b)
  | some .blob | some .untyped | none => (a, b)

end ColumnType

end EntityQuery.Store
