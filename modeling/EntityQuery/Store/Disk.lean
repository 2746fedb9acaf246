import EntityQuery.Query.Row
import EntityQuery.Session.World
import EntityQuery.Store.Connection
import EntityQuery.Store.Engine

/-!
# Databases on disk

A `Disk` is a directory with databases in it, each in a file of its own. A
connection string leads to a file of the directory, or to memory, where the
database is a new one for each connection and is gone afterwards.

Every request opens the database anew. `Disk.query` asks for rows: the statement
is prepared, its parameters are bound by name, and the result is read back.
`Disk.executor` is the executor that puts queries to a disk.
-/

namespace EntityQuery.Store

/-- The path of a directory, and the databases in its files. -/
structure Disk (E : Engine) where
  directory : String
  files : List (String × E.Content)

namespace Disk

variable {E : Engine}

/-- The disk of an empty directory. -/
def empty (directory : String) : Disk E := ⟨directory, []⟩

/-- Where a connection string leads to. -/
def connect (connection : String) (d : Disk E) : Except StoreError Location :=
  match Connection.path connection with
  | .error e => .error e
  | .ok path => if path = ":memory:" then .ok .memory else
    (E.locate d.directory path).mapError .database

/-- The database at a location. -/
def read (d : Disk E) : Location → E.Content
  | .memory => E.fresh
  | .file name => (d.files.lookup name).getD E.fresh

/-- The disk after the database at a location changed. -/
def write (location : Location) (db : E.Content) (d : Disk E) : Disk E :=
  match location with
  | .memory => d
  | .file name => { d with files := (name, db) :: d.files.filter (·.1 != name) }

/-- Carries out a text in the database that a connection string leads to. What was done
    before a statement was refused remains. -/
def batch (connection sql : String) (d : Disk E) : Except StoreError Unit × Disk E :=
  match d.connect connection with
  | .error e => (.error e, d)
  | .ok location =>
    let (answer, db) := E.batch sql (d.read location)
    (answer.mapError .database, d.write location db)

/-- Reads a row of a result, up to the first datum that is no value. -/
def readRow : List (String × Datum) → Except StoreError (List Value)
  | [] => .ok []
  | (column, datum) :: rest =>
    match datum.read with
    | .error fault => .error (.column column fault.message)
    | .ok v =>
      match readRow rest with
      | .error e => .error e
      | .ok vs => .ok (v :: vs)

/-- Reads the rows of a result, up to the first that there is not, or that has a datum
    that is no value. -/
def readRows (columns : List String) :
    List (Except Fault (List Datum)) → Except StoreError (List Row)
  | [] => .ok []
  | .error f :: _ => .error (.database f)
  | .ok data :: rest =>
    match readRow (columns.zip data) with
    | .error e => .error e
    | .ok values =>
      match readRows columns rest with
      | .error e => .error e
      | .ok rows => .ok (⟨columns, values⟩ :: rows)

/-- The rows that answer a statement. -/
def query (connection : String) (s : Statement) (d : Disk E) : Except StoreError (List Row) :=
  match d.connect connection with
  | .error e => .error e
  | .ok location =>
    match E.prepare s.sql (d.read location) with
    | .error f => .error (.database f)
    | .ok q =>
      match s.parameters.find? fun p => !q.parameters.contains p.name with
      | some p => .error (.unboundParameter p.name)
      | none => readRows q.columns (q.rows (s.parameters.map fun p => (p.name, .ofValue p.value)))

/-- The executor that puts queries to a disk. -/
def executor : Executor (Disk E) where
  execute connection s d :=
    match d.query connection s with
    | .error e => (.error e.toError, d)
    | .ok rows => (.ok rows, d)

/-- Asking for rows changes nothing. -/
theorem executor_execute_snd (connection : String) (s : Statement) (d : Disk E) :
    (executor.execute connection s d).2 = d := by
  simp only [executor]
  split <;> rfl

end Disk

end EntityQuery.Store
