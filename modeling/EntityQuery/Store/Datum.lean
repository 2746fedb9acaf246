import EntityQuery.Binary64.Reading
import EntityQuery.Binary64.Layout
import EntityQuery.Text.Utf8
import EntityQuery.Value.Basic

/-!
# Stored data

What a table holds in a place is a `Datum`: null, an integer of 64 bits, a
floating-point number that is a number, a text or a blob. A text is kept by its
bytes, since nothing makes sure that they are UTF-8. A value becomes a datum when
it is stored or bound to a parameter (`Datum.ofValue`): the narrower types and the
truth values become integers, and a NaN becomes null. A datum is read back by
`Datum.read`.

All data are in one order, `Datum.compare`: null, then numbers by value, then
texts, then blobs, both by their bytes.
-/

namespace EntityQuery.Store

/-- What a table holds in a place. -/
inductive Datum where
  | null
  | integer (n : Int64)
  | real (x : Binary64)
  | text (bytes : ByteArray)
  | blob (bytes : ByteArray)
  deriving DecidableEq

namespace Datum

instance : Inhabited Datum := ⟨null⟩

/-- The datum that a value is stored as. -/
def ofValue : Value → Datum
  | .null => null
  | .bool b => integer (if b then 1 else 0)
  | .int32 n => integer n.toInt64
  | .int64 n => integer n
  | .float64 x => if x.isNaN then null else real x
  | .string s => text s.toUTF8
  | .bytes b => blob b

/-- The value that a datum is read back as, unless it is a text that is none. -/
def read : Datum → Except Text.Utf8Fault Value
  | null => .ok .null
  | integer n => .ok (.int64 n)
  | real x => .ok (.float64 x)
  | text bytes =>
    match String.fromUTF8? bytes with
    | some s => .ok (.string s)
    | none => .error ((Text.Utf8.firstFault bytes).getD (.incomplete bytes.size))
  | blob bytes => .ok (.bytes bytes)

/-- Whether the datum is null. -/
def isNull : Datum → Bool
  | null => true
  | _ => false

/-- A truth value as a datum; null stands for neither. -/
def ofTruth : Option Bool → Datum
  | none => null
  | some b => integer (if b then 1 else 0)

/-- The order of bytes. -/
def compareBytes : List UInt8 → List UInt8 → Ordering
  | [], [] => .eq
  | [], _ :: _ => .lt
  | _ :: _, [] => .gt
  | a :: as, b :: bs => (Ord.compare a b).then (compareBytes as bs)

/-- A number as the place among the infinities and its parts. -/
def numberParts? : Datum → Option (Int × (Int × Int))
  | integer n => some (0, (n.toInt, 0))
  | real x =>
    if x.isInfinite then some (if x.negative then -1 else 1, (0, 0)) else some (0, x.parts)
  | _ => none

/-- The place of the kind of a datum in the order. -/
def rank : Datum → Nat
  | null => 0
  | integer _ => 1
  | real _ => 1
  | text _ => 2
  | blob _ => 3

/-- The order of all data. -/
def compare (a b : Datum) : Ordering :=
  match a, b with
  | text x, text y => compareBytes x.toList y.toList
  | blob x, blob y => compareBytes x.toList y.toList
  | a, b =>
    match a.numberParts?, b.numberParts? with
    | some (i, p), some (j, q) => (Ord.compare i j).then (Binary64.compareParts p q)
    | _, _ => Ord.compare a.rank b.rank

end Datum

end EntityQuery.Store
