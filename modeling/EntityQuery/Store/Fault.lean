import EntityQuery.Error

/-!
# Faults of the store

What the database refuses is a `Fault`; what can go wrong in the layer around it,
from the connection string to the reading of a result, is a `StoreError`. Where a
query meets a store error it becomes an error of the query (`StoreError.toError`):
one that was a query's already is passed on, any other is a failed execution.
-/

namespace EntityQuery.Store

/-- What the database refuses. Some faults have a statement and a place in it, in bytes. -/
inductive Fault where
  /-- A text is no statement from the given token on. -/
  | syntaxError (near sql : String) (offset : Nat)
  /-- A text has something in it that is no token. -/
  | unrecognized (token sql : String) (offset : Nat)
  /-- A text ends within a statement. -/
  | incompleteInput
  /-- A text has no statement in it. -/
  | nothing
  | noSuchTable (name : String)
  /-- A table that is asked for with arguments. -/
  | noFunction (name : String)
  /-- All columns are asked for, but of no table. -/
  | noTables
  | noSuchColumn (name sql : String) (offset : Nat)
  /-- Several values stand where there has to be one. -/
  | rowMisused
  | tooDeep
  | unknownDatabase (name sql : String) (offset : Nat)
  /-- The name of a new table is one that the database keeps for itself. -/
  | reservedName (name : String)
  | tableExists (name sql : String) (offset : Nat)
  | repeatedColumn (name : String)
  | severalKeys (table : String)
  /-- Keys are to be counted in a column that is no integer key. -/
  | countingMisused
  /-- A rule to compare texts that there is not. -/
  | noCollation (name : String)
  /-- A word after the columns of a new table that means nothing there. -/
  | unknownOption (text : String)
  /-- The definition of a new table cannot be read again as the database keeps it. -/
  | malformedSchema (table near : String)
  | keepsTable (table : String)
  | keepsRecords (table : String)
  /-- A column to be stored that the table lacks. -/
  | tableLacksColumn (table column : String)
  /-- Values to be stored, of which there are not as many as columns. -/
  | valueCount (values columns : Nat)
  | tableValueCount (table : String) (columns values : Nat)
  | repeatedKey (table column : String)
  /-- A key that is no integer, in a table with integer keys. -/
  | keyMismatch
  /-- No integer is left for a key. -/
  | full
  /-- A statement that this store does not carry out. -/
  | unsupported (sql : String)
  | cannotOpen (path : String)
  /-- What a database says in words of its own. -/
  | stated (text : String)
  deriving DecidableEq, Repr

/-- The place of a fault within a statement. -/
def placeText (sql : String) (offset : Nat) : String :=
  " in " ++ sql ++ " at offset " ++ toString offset

/-- The wording of what the database refuses. -/
def Fault.message : Fault → String
  | syntaxError near sql offset => "near \"" ++ near ++ "\": syntax error" ++ placeText sql offset
  | unrecognized token sql offset =>
    "unrecognized token: \"" ++ token ++ "\"" ++ placeText sql offset
  | incompleteInput => "incomplete input"
  | nothing => "not an error"
  | noSuchTable name => "no such table: " ++ name
  | noFunction name => "'" ++ name ++ "' is not a function"
  | noTables => "no tables specified"
  | noSuchColumn name sql offset => "no such column: " ++ name ++ placeText sql offset
  | rowMisused => "row value misused"
  | tooDeep => "Expression tree is too large (maximum depth 1000)"
  | unknownDatabase name sql offset => "unknown database " ++ name ++ placeText sql offset
  | reservedName name => "object name reserved for internal use: " ++ name
  | tableExists name sql offset => "table " ++ name ++ " already exists" ++ placeText sql offset
  | repeatedColumn name => "duplicate column name: " ++ name
  | severalKeys table => "table \"" ++ table ++ "\" has more than one primary key"
  | countingMisused => "AUTOINCREMENT is only allowed on an INTEGER PRIMARY KEY"
  | noCollation name => "no such collation sequence: " ++ name
  | unknownOption text => "unknown table option: " ++ text
  | malformedSchema table near =>
    "malformed database schema (" ++ table ++ ") - near \"" ++ near ++ "\": syntax error"
  | keepsTable table => "table " ++ table ++ " may not be dropped"
  | keepsRecords table => "table " ++ table ++ " may not be modified"
  | tableLacksColumn table column => "table " ++ table ++ " has no column named " ++ column
  | valueCount values columns =>
    toString values ++ " values for " ++ toString columns ++ " columns"
  | tableValueCount table columns values =>
    "table " ++ table ++ " has " ++ toString columns ++ " columns but " ++ toString values ++
      " values were supplied"
  | repeatedKey table column => "UNIQUE constraint failed: " ++ table ++ "." ++ column
  | keyMismatch => "datatype mismatch"
  | full => "database or disk is full"
  | unsupported sql => "unsupported statement: " ++ sql
  | cannotOpen path => "unable to open database file: " ++ path
  | stated text => text

/-- Why a connection string is refused. -/
inductive ConnectionFault where
  | empty
  | noSource
  | emptySource
  | stated (text : String)
  deriving DecidableEq, Repr

/-- The wording of a fault of a connection string. -/
def ConnectionFault.text : ConnectionFault → String
  | empty => "empty connection string"
  | noSource => "no data source given"
  | emptySource => "data source is empty"
  | stated text => text

/-- What went wrong between a connection string and a result. -/
inductive StoreError where
  | database (fault : Fault)
  | connection (text : String) (fault : ConnectionFault)
  /-- A parameter that the statement does not refer to. -/
  | unboundParameter (name : String)
  /-- A column of a result that cannot be read. -/
  | column (name reason : String)
  /-- An error of the query layer. -/
  | query (e : Error)
  deriving DecidableEq, Repr

/-- The wording of a store error. -/
def StoreError.message : StoreError → String
  | database fault => "sqlite error: " ++ fault.message
  | connection text fault => "invalid connection string '" ++ text ++ "': " ++ fault.text
  | unboundParameter name => "parameter '" ++ name ++ "' does not appear in the statement"
  | column name reason => "column '" ++ name ++ "': " ++ reason
  | query e => e.message

/-- A store error as an error of a query. -/
def StoreError.toError : StoreError → Error
  | query e => e
  | e => .execution e.message

end EntityQuery.Store
