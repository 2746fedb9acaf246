import EntityQuery.Store.Datum
import EntityQuery.Store.Fault

/-!
# Engines

The layer around a database knows it by what it answers to texts. An `Engine` is what
carries them out:

* `batch` carries out a text with any number of statements, of which those before the
  first that is refused remain carried out;
* `number` is the number that a statement asks for;
* `prepare` makes a text a `Query`, which knows its parameters and the columns of its
  result, and has rows for it once the parameters have data;
* statements that are executed in a transaction are carried out for others when it is
  committed. If it is rolled back, it never was.

A database is reached by a path, which leads to a file of a directory or to memory.
-/

namespace EntityQuery.Store

/-- Where a connection leads to. -/
inductive Location where
  /-- A new database for each connection, which is gone afterwards. -/
  | memory
  /-- A file of the directory. -/
  | file (name : String)
  deriving DecidableEq, Repr

/-- A statement that was prepared. -/
structure Query where
  /-- The parameters that it refers to. -/
  parameters : List String
  /-- The names of the columns of its result. -/
  columns : List String
  /-- The rows of the result one after the other, where parameters have data by name. -/
  rows : List (String × Datum) → List (Except Fault (List Datum))

/-- What carries out texts. -/
structure Engine where
  /-- What a database holds. -/
  Content : Type
  /-- A transaction that was begun. -/
  Transaction : Type
  /-- What a database holds at first. -/
  fresh : Content
  /-- Where a path leads to from a directory. -/
  locate : (directory path : String) → Except Fault Location
  batch : String → Content → Except Fault Unit × Content
  number : String → Content → Except Fault Int
  prepare : String → Content → Except Fault Query
  begin : Content → Except Fault Transaction
  execute : String → List (String × Datum) → Transaction → Except Fault Unit × Transaction
  commit : Transaction → Except Fault Content
  rollback : Transaction → Content

end EntityQuery.Store
