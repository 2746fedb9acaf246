import EntityQuery.Sql.Recognition
import EntityQuery.Sql.Select
import EntityQuery.Store.Fault
import EntityQuery.Store.Table

/-!
# Databases

A `Database` is a list of tables, found by their names without regard to letter
case. A name may be preceded by that of the database, which is `main`; the database
of a connection's own tables, `temp`, is empty. The names that start with `sqlite_`
are kept for the tables in which the database holds its own records.

Here tables are made, dropped and filled by what a statement stands for; which
statements ask for that is in `EntityQuery.Store.Command`. Where a text is no
statement, `syntaxFault` is its fault.
-/

namespace EntityQuery.Store

/-- The tables that there are. -/
abbrev Database := List Table

/-- Where a statement cannot be read: at the token after so many. -/
def syntaxFault (sql : String) (taken : Nat) : Fault :=
  match (Sql.lexemes sql).drop taken with
  | [] => .incompleteInput
  | l :: _ =>
    match l.token with
    | .illegal s => .unrecognized s sql (l.offset sql)
    | _ => .syntaxError l.text sql (l.offset sql)

/-- Checks that the text starts with a statement. -/
def checkSyntax (sql : String) : Except Fault Unit :=
  match Sql.recognise (Sql.tokens sql) with
  | .error taken => .error (syntaxFault sql taken)
  | .ok _ => .ok ()

namespace Database

/-- A table in which a database keeps what was made. -/
def catalogue (name : String) : Table :=
  .empty ⟨name, [⟨"type", .text, .plain⟩, ⟨"name", .text, .plain⟩, ⟨"tbl_name", .text, .plain⟩,
    ⟨"rootpage", .integer, .plain⟩, ⟨"sql", .text, .plain⟩]⟩

/-- The table in which a database keeps the greatest keys. -/
def sequences (db : Database) : Table :=
  let counting := db.filter fun t => t.keyIndex?.isSome && 0 < t.lastKey
  { Table.empty ⟨"sqlite_sequence", [⟨"name", .untyped, .plain⟩, ⟨"seq", .untyped, .plain⟩]⟩ with
    records := counting.zipIdx.map fun (t, i) =>
      ⟨i + 1, [.text t.definition.name.toUTF8, .integer (.ofInt t.lastKey)]⟩ }

/-- The tables that the database keeps for itself: the catalogues, also of the
    connection's own tables, and the greatest keys. -/
def kept (db : Database) : List Table :=
  [catalogue "sqlite_master", catalogue "sqlite_temp_master"] ++
    (if db.any (·.keyIndex?.isSome) then [db.sequences] else [])

/-- The name by which a table is kept. -/
def keptName (name : String) : String :=
  if Sql.sameName name "sqlite_schema" then "sqlite_master"
  else if Sql.sameName name "sqlite_temp_schema" then "sqlite_temp_master"
  else name

/-- The table of a name among tables. -/
def named? (tables : List Table) (name : String) : Option Table :=
  tables.find? fun t => Sql.sameName t.definition.name name

/-- Whether a name of a database is the one that holds the tables. -/
def isMain (database : Option String) : Bool := database.all (Sql.sameName "main")

/-- The table of a name. -/
def table? (db : Database) (name : Sql.TableName) : Option Table :=
  if isMain name.database then
    match named? db name.name with
    | some t => some t
    | none => named? db.kept (keptName name.name)
  else none

/-- Whether the name of a table is one that the database keeps for itself. -/
def isReserved (name : String) : Bool := "sqlite_".toList.isPrefixOf (Sql.folded name).toList

/-- The database with one more table. -/
def add (d : TableDefinition) (db : Database) : Database := db ++ [.empty d]

/-- Drops a table, if there is one of the name. -/
def drop (name : Sql.TableName) (db : Database) : Except Fault Database :=
  if isMain name.database then
    match named? db.kept (keptName name.name) with
    | some t => .error (.keepsTable t.definition.name)
    | none => .ok (db.filter fun t => !Sql.sameName t.definition.name name.name)
  else .ok db

/-- The table of a name, to be changed. -/
def changed (name : Sql.TableName) (db : Database) : Except Fault Table :=
  match db.table? name with
  | none => .error (.noSuchTable name.text)
  | some t =>
    if (named? db.kept t.definition.name).isSome then .error (.keepsRecords t.definition.name)
    else .ok t

/-- The database with a table in place of the one of its name. -/
def replace (t : Table) (db : Database) : Database :=
  db.map fun u => if Sql.sameName u.definition.name t.definition.name then t else u

/-- Checks that a table has the columns that are named. -/
def checkColumns (name : Sql.TableName) (t : Table) (columns : List String) : Except Fault Unit :=
  match columns.find? fun c => (t.place? c).isNone with
  | some c => .error (.tableLacksColumn name.text c)
  | none => .ok ()

/-- Inserts a record, given column by column. -/
def insert (name : Sql.TableName) (given : List (String × Datum)) (db : Database) :
    Except Fault Database := do
  let t ← db.changed name
  checkColumns name t (given.map (·.1))
  return db.replace (← t.insert given)

end Database

end EntityQuery.Store
