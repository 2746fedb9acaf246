import EntityQuery.Sql.Token
import EntityQuery.Store.Affinity
import EntityQuery.Store.Fault

/-!
# Tables

A table is made from a `TableDefinition`: its name and its columns, of which at
most one is the key. An integer key orders the records; one that is not given is
chosen, above every key that the table ever held. A key of another type only has
to differ from those that are there, and the records stay in the order in which
they were inserted.

* `TableDefinition.sql` is the definition as a statement;
* `TableDefinition.check` refuses a column name that is used twice, letter case
  apart, and a second key;
* `Table.insert` gives the table with one more record, or refuses it.
-/

namespace EntityQuery.Store

/-- What a column has to do with the keys of a table. -/
inductive KeyRole where
  | plain
  /-- No value occurs twice. -/
  | unique
  /-- The key is the number of the record. -/
  | numbering
  deriving DecidableEq, Repr

/-- A column of a table. -/
structure ColumnDefinition where
  name : String
  type : ColumnType
  key : KeyRole
  deriving DecidableEq, Repr

namespace ColumnDefinition

/-- Whether the column is a key. -/
def isKey (c : ColumnDefinition) : Bool := c.key != .plain

/-- Whether the column is the key that orders the records. -/
def isIntegerKey (c : ColumnDefinition) : Bool := c.key == .numbering

/-- The role of a column that is the key of its table. -/
def roleOfKey (type : ColumnType) : KeyRole :=
  if type = .integer then .numbering else .unique

/-- What a definition says of the key. -/
def keyText (c : ColumnDefinition) : String :=
  match c.key with
  | .plain => ""
  | .unique => " PRIMARY KEY"
  | .numbering => " PRIMARY KEY AUTOINCREMENT"

/-- The column in a definition. -/
def sql (c : ColumnDefinition) : String := c.name ++ " " ++ c.type.sql ++ c.keyText

end ColumnDefinition

/-- The name of a table, and its columns. -/
structure TableDefinition where
  name : String
  columns : List ColumnDefinition
  deriving DecidableEq, Repr

namespace TableDefinition

/-- The statement that makes the table, if there is none of the name. -/
def sql (d : TableDefinition) : String :=
  "CREATE TABLE IF NOT EXISTS " ++ d.name ++ " (" ++ ", ".intercalate (d.columns.map (·.sql)) ++ ")"

/-- Whether one of the columns has the name. -/
def hasColumn (columns : List ColumnDefinition) (name : String) : Bool :=
  columns.any fun c => Sql.sameName c.name name

/-- Checks the columns that follow others: the first that repeats a name or is a
    second key is refused. -/
def checkFrom (table : String) (seen : List ColumnDefinition) :
    List ColumnDefinition → Except Fault Unit
  | [] => .ok ()
  | c :: cs =>
    if hasColumn seen c.name then .error (.repeatedColumn c.name)
    else if c.isKey && seen.any (·.isKey) then .error (.severalKeys table)
    else checkFrom table (c :: seen) cs

/-- Checks that the columns can make a table. -/
def check (d : TableDefinition) : Except Fault Unit := checkFrom d.name [] d.columns

end TableDefinition

/-- A record of a table: a datum for each column, and the number that orders it. -/
structure Record where
  key : Int
  data : List Datum
  deriving DecidableEq

/-- What a name of a column stands for: the number of a record, or a column that is no
    integer key. -/
inductive Place where
  | number
  | column (i : Nat)
  deriving DecidableEq, Repr

/-- Whether a name stands for the numbers of records, unless a column has it. -/
def isNumberName (name : String) : Bool :=
  ["rowid", "oid", "_rowid_"].contains (Sql.folded name)

/-- A table: its records in order, and the greatest key that was ever chosen or
    given, at least 0. -/
structure Table where
  definition : TableDefinition
  records : List Record
  sequence : Int
  deriving DecidableEq

namespace Table

/-- The table without a record. -/
def empty (d : TableDefinition) : Table := ⟨d, [], 0⟩

/-- The columns of a table. -/
def columns (t : Table) : List ColumnDefinition := t.definition.columns

/-- The place of a column among the columns. -/
def columnIndex? (t : Table) (name : String) : Option Nat :=
  t.columns.findIdx? fun c => Sql.sameName c.name name

/-- What a name stands for. -/
def place? (t : Table) (name : String) : Option Place :=
  match t.columnIndex? name with
  | some i => if t.columns[i]?.any (·.isIntegerKey) then some .number else some (.column i)
  | none => if isNumberName name then some .number else none

/-- The place of the integer key among the columns. -/
def keyIndex? (t : Table) : Option Nat := t.columns.findIdx? (·.isIntegerKey)

/-- The name of the numbers of records. -/
def numberName (t : Table) : String :=
  match t.keyIndex?.bind (t.columns[·]?) with
  | some c => c.name
  | none => "rowid"

/-- The data of a new record before its number is known: for each column what is
    given for it first, as the type of the column stores it, and null if nothing is. -/
def dataOf (store : ColumnType → Datum → Datum) (t : Table) (given : List (String × Datum)) :
    List Datum :=
  t.columns.map fun c =>
    match given.find? fun g => Sql.sameName g.1 c.name with
    | some (_, d) => store c.type d
    | none => .null

/-- The number that is given for a new record, or null. -/
def numberOf (store : ColumnType → Datum → Datum) (t : Table) (given : List (String × Datum)) :
    Datum :=
  match given.find? fun g => t.place? g.1 == some .number with
  | some (_, d) => store .integer d
  | none => .null

/-- The greatest key that the table has or had. -/
def lastKey (t : Table) : Int := t.records.foldl (fun k r => max k r.key) t.sequence

/-- The table with one more record, after those with a lower key. -/
def place (r : Record) (t : Table) : Table :=
  { t with
    records := t.records.takeWhile (·.key < r.key) ++ r :: t.records.dropWhile (·.key < r.key)
    sequence := max t.sequence r.key }

/-- The table with a record that has the number. -/
def placeNumbered (n : Int) (data : List Datum) (t : Table) : Table :=
  match t.keyIndex? with
  | some i => t.place ⟨n, data.set i (.integer (.ofInt n))⟩
  | none => t.place ⟨n, data⟩

/-- The table with a record whose number is the given datum, or the next if that is
    null. -/
def insertNumbered (number : Datum) (data : List Datum) (t : Table) : Except Fault Table :=
  match number with
  | .integer n =>
    if t.records.any (·.key == n.toInt) then .error (.repeatedKey t.definition.name t.numberName)
    else .ok (t.placeNumbered n.toInt data)
  | .null =>
    let next := t.lastKey + 1
    if next ≤ Int64.maxValue.toInt then .ok (t.placeNumbered next data) else .error .full
  | _ => .error .keyMismatch

/-- Whether a value of a column is there already; null never is. -/
def holdsValue (t : Table) (i : Nat) (d : Datum) : Bool :=
  !d.isNull && t.records.any fun r => (r.data.getD i .null).compare d == .eq

/-- The first column whose values are all different that has the datum already. -/
def repeated? (t : Table) (data : List Datum) : Option ColumnDefinition :=
  (t.columns.zipIdx.find? fun (c, i) =>
    c.key == .unique && t.holdsValue i (data.getD i .null)).map (·.1)

/-- The table with a record of the data, given column by column, whatever is there already
    beside its number. -/
def extend (store : ColumnType → Datum → Datum) (given : List (String × Datum)) (t : Table) :
    Except Fault Table :=
  t.insertNumbered (t.numberOf store given) (t.dataOf store given)

/-- The table with a record of the data, given column by column. -/
def insert (given : List (String × Datum)) (t : Table) : Except Fault Table :=
  match t.extend ColumnType.store given with
  | .error f => .error f
  | .ok after =>
    match t.repeated? (t.dataOf ColumnType.store given) with
    | some c => .error (.repeatedKey t.definition.name c.name)
    | none => .ok after

/-- What a name stands for in a record, with its type. -/
def column? (t : Table) (r : Record) (name : String) : Option (ColumnType × Datum) :=
  match t.columnIndex? name with
  | some i => t.columns[i]?.map fun c => (c.type, r.data.getD i .null)
  | none => if isNumberName name then some (.integer, .integer (.ofInt r.key)) else none

end Table

end EntityQuery.Store
