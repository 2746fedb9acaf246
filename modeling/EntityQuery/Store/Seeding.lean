import EntityQuery.Query.Predicate
import EntityQuery.Store.Schema

/-!
# Seeding

The first records of a table. `ensure` makes the table of an entity type and, if
it has no record, inserts the rows of the seed in a transaction, which is committed
once all of them are inserted and rolled back if one is refused. `reset` drops the table
first. A row of a seed gives values for fields, each of which has to be stored.
-/

namespace EntityQuery.Store.Seeding

/-- A row of a seed: values for fields. -/
abbrev SeedRow := List (String × Value)

/-- The data of a row, column by column. -/
def given (m : Metadata) : SeedRow → Except StoreError (List (String × Datum))
  | [] => .ok []
  | (field, v) :: rest =>
    match m.column? field with
    | none => .error (.query (.unmappedField m.entity.name field))
    | some b =>
      match given m rest with
      | .error e => .error e
      | .ok ds => .ok ((b.column, .ofValue v) :: ds)

/-- The statement that inserts a record into the columns of a table. -/
def insertSql (table : String) (columns : List String) : String :=
  "INSERT INTO " ++ table ++ " (" ++ ", ".intercalate columns ++ ") VALUES (" ++
    ", ".intercalate ((List.range columns.length).map Predicate.placeholder) ++ ")"

/-- The parameters of the statement that inserts a record. -/
def insertParameters (ds : List (String × Datum)) : List (String × Datum) :=
  ds.zipIdx.map fun (d, i) => (Predicate.placeholder i, d.2)

/-- The statement that counts the records of a table. -/
def countSql (table : String) : String := "SELECT COUNT(*) FROM " ++ table

variable {E : Engine}

/-- Inserts a row in a transaction. -/
def insertRow (m : Metadata) (row : SeedRow) (x : E.Transaction) :
    Except StoreError Unit × E.Transaction :=
  match given m row with
  | .error e => (.error e, x)
  | .ok ds =>
    let (answer, x) := E.execute (insertSql m.table (ds.map (·.1))) (insertParameters ds) x
    (answer.mapError .database, x)

/-- Inserts rows in a transaction, up to the first that is refused. -/
def insertAll (m : Metadata) : List SeedRow → E.Transaction →
    Except StoreError Unit × E.Transaction
  | [], x => (.ok (), x)
  | row :: rows, x =>
    match insertRow m row x with
    | (.error e, x) => (.error e, x)
    | (.ok (), x) => insertAll m rows x

/-- Inserts a seed in a transaction, and ends it: what is not committed is rolled back. -/
def insertSeed (m : Metadata) (seed : List SeedRow) (x : E.Transaction) :
    Except StoreError Nat × E.Content :=
  match insertAll m seed x with
  | (.error e, x) => (.error e, E.rollback x)
  | (.ok (), x) =>
    match E.commit x with
    | .error f => (.error (.database f), E.rollback x)
    | .ok db => (.ok seed.length, db)

/-- Inserts a seed into the table of an entity type that is there, if it has no
    record; gives the number of records inserted. -/
def fill (connection : String) (m : Metadata) (seed : List SeedRow) (d : Disk E) :
    Except StoreError Nat × Disk E :=
  match d.connect connection with
  | .error e => (.error e, d)
  | .ok location =>
    match E.number (countSql m.table) (d.read location) with
    | .error f => (.error (.database f), d)
    | .ok n =>
      if 0 < n then (.ok 0, d)
      else
        match E.begin (d.read location) with
        | .error f => (.error (.database f), d)
        | .ok x =>
          let (answer, db) := insertSeed m seed x
          (answer, d.write location db)

/-- Makes the table of an entity type, and inserts the seed if it has no record;
    gives the number of records inserted. -/
def ensure (connection : String) (t : EntityType) (seed : List SeedRow) (w : World (Disk E)) :
    Except StoreError Nat × World (Disk E) :=
  match Schema.createTable connection t w with
  | (.error e, w) => (.error e, w)
  | (.ok m, w) =>
    let (answer, store) := fill connection m seed w.store
    (answer, { w with store })

/-- Drops the table of an entity type and makes it anew, with the seed. -/
def reset (connection : String) (t : EntityType) (seed : List SeedRow) (w : World (Disk E)) :
    Except StoreError Nat × World (Disk E) :=
  match Schema.metadata t w with
  | (.error e, w) => (.error e, w)
  | (.ok m, w) =>
    match Schema.dropTable connection m.table w with
    | (.error e, w) => (.error e, w)
    | (.ok (), w) => ensure connection t seed w

/-- What makes tables with a seed, in diagnostics. -/
def detail (connection : String) : String :=
  "DatabaseInitializer \x7b tables: " ++ Schema.detail connection ++ " \x7d"

end EntityQuery.Store.Seeding
