import EntityQuery.Entity.Metadata
import EntityQuery.Store.Disk
import EntityQuery.Store.Table

/-!
# Schemas

The table of an entity type: a column for each stored field, of the type that
suits its values. The field named `id`, in any case, is the key.

`createTable` makes the table of an entity type where a connection leads to, and
`dropTable` drops a table of a given name. The metadata are asked for before the
connection is looked at.
-/

namespace EntityQuery.Store

/-- The column of a stored field. -/
def ColumnDefinition.ofBinding (b : ColumnBinding) : ColumnDefinition :=
  let type := ColumnType.ofScalar b.type.scalarType
  ⟨b.column, type, if Text.lower b.field == "id" then roleOfKey type else .plain⟩

/-- The table of an entity type. -/
def TableDefinition.ofMetadata (m : Metadata) : TableDefinition :=
  ⟨m.table, m.columns.map .ofBinding⟩

namespace Schema

variable {E : Engine}

/-- The metadata of an entity type, for a request to the store. -/
def metadata (t : EntityType) (w : World (Disk E)) :
    Except StoreError Metadata × World (Disk E) :=
  match w.resolve t with
  | (.error e, w) => (.error (.query e), w)
  | (.ok m, w) => (.ok m, w)

/-- Carries out a text in the database that a connection string leads to. -/
def change {α : Type} (connection sql : String) (answer : α) (w : World (Disk E)) :
    Except StoreError α × World (Disk E) :=
  match w.store.batch connection sql with
  | (.error e, store) => (.error e, { w with store })
  | (.ok (), store) => (.ok answer, { w with store })

/-- Makes the table of an entity type, unless there is one of its name. -/
def createTable (connection : String) (t : EntityType) (w : World (Disk E)) :
    Except StoreError Metadata × World (Disk E) :=
  match metadata t w with
  | (.error e, w) => (.error e, w)
  | (.ok m, w) => change connection (TableDefinition.ofMetadata m).sql m w

/-- The statement that drops a table, if there is one of the name. -/
def dropSql (table : String) : String := "DROP TABLE IF EXISTS " ++ table

/-- Drops a table, if there is one of the name. -/
def dropTable (connection table : String) (w : World (Disk E)) :
    Except StoreError Unit × World (Disk E) :=
  change connection (dropSql table) () w

/-- What makes and drops tables, in diagnostics. -/
def detail (connection : String) : String :=
  "TableBuilder \x7b connection: " ++ Text.quoted connection ++ ", .. \x7d"

end Schema

end EntityQuery.Store
