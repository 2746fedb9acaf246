import EntityQuery.Entity.Instance
import EntityQuery.Store.Seeding

/-!
# Users

The entity type of the demonstration: users with a number, a name and an age, who
are stored in a table of their own. The seed gives their names and ages and leaves
their numbers to the store.
-/

namespace EntityQuery.Demo.Users

/-- The entity type of users. -/
def type : EntityType := ⟨"User"⟩

/-- A field that is stored in a column of its name and set by its own type. -/
def stored (field : String) (t : ScalarType) : Property :=
  ⟨field, .scalar t, some field, some (.scalar t), t.initial⟩

/-- What the entity type declares. -/
def declaration : EntityDeclaration :=
  ⟨type, some "users", [stored "id" .int32, stored "name" .string, stored "age" .int32]⟩

/-- A user of whom nothing is known. -/
def new : Instance := declaration.new

/-- The row of a user in a seed. -/
def seedRow (name : String) (age : Int32) : Store.Seeding.SeedRow :=
  [("name", .string name), ("age", .int32 age)]

/-- The users that there are at first. -/
def seed : List Store.Seeding.SeedRow :=
  [seedRow "Alice" 25, seedRow "Bob" 17, seedRow "Charlie" 30, seedRow "David" 22,
    seedRow "Eve" 19]

end EntityQuery.Demo.Users
