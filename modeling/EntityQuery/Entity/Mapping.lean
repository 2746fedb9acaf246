import EntityQuery.FieldType
import EntityQuery.Text.Quoted

/-!
# Entity types and their mappings

An `EntityType` is identified by its full name, a path of names joined by `::`
with type arguments in angle brackets; messages use the short name, the last of
the path without the arguments. Its `Mapping` declares the table and, in order,
the fields: the name, the declared type and the column, if the field is stored
at all. A mapping may declare anything; which ones are valid is decided when the
metadata are made from it (`EntityQuery.Entity.Metadata`).
-/

namespace EntityQuery

/-- A type of entities, by its full name. -/
structure EntityType where
  path : String
  deriving DecidableEq, Repr

namespace EntityType

/-- What follows the last `::` of a text, or all of it: `seen` holds the
    characters read since, last first. -/
def lastName (seen : List Char) : List Char → List Char
  | ':' :: ':' :: cs => lastName [] cs
  | c :: cs => lastName (c :: seen) cs
  | [] => seen.reverse

/-- The short name of an entity type. -/
def name (t : EntityType) : String :=
  String.ofList (lastName [] (t.path.toList.takeWhile (· != '<')))

/-- An entity type in diagnostics. -/
def detail (t : EntityType) : String := "EntityType(" ++ Text.quoted t.name ++ ")"

end EntityType

/-- A declared field; without a column it is not stored. -/
structure FieldMapping where
  field : String
  column : Option String
  type : FieldType
  deriving DecidableEq, Repr

/-- What an entity type declares: its table, if it has one, and its fields. -/
structure Mapping where
  table : Option String
  fields : List FieldMapping
  deriving DecidableEq, Repr

/-- The mapping of a type that declares nothing. -/
def Mapping.none : Mapping := ⟨.none, []⟩

end EntityQuery
