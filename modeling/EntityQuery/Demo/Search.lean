import EntityQuery.Demo.Users
import EntityQuery.Session.Handle
import EntityQuery.Store.Command

/-!
# Searches for users

Queries over the users of the demonstration that look for names and ages, by what they
are given to look for.
-/

namespace EntityQuery.Demo.Search

/-- A world in which users are declared. -/
def world : World Unit := (World.ofStore ()).declare Users.declaration

/-- The metadata of users. -/
def metadata : Metadata :=
  ⟨Users.type, "users", [⟨"id", "id", .scalar .int32⟩, ⟨"name", "name", .scalar .string⟩,
    ⟨"age", "age", .scalar .int32⟩]⟩

/-- The users of at least some age whose names start with a text. -/
def sought (start age : Expr) : Chain :=
  ((Chain.ofSource Users.type).push (.filter (.call "starts_with" (.field "name") [start]))).push
    (.filter (.binary .ge (.field "age") age))

/-- A search for an ordinary name. -/
def quiet : Chain := sought (.literal (.string "A")) (.literal (.int32 18))

/-- A search for a name that has a statement in it. -/
def hostile : Chain :=
  sought (.captured "start" (.string "'; DROP TABLE users; --")) (.captured "age" .null)

/-- A search for no name. -/
def nameless : Chain := sought (.literal .null) (.literal (.int32 18))

/-- The condition that a user is of age. -/
def ofAge : Expr := .binary .ge (.field "age") (.literal (.int32 18))

/-- The condition that a name starts with an A. -/
def startsWithA : Expr := .call "starts_with" (.field "name") [.literal (.string "A")]

/-- A chain in which a limit, a projection and a source are overridden. -/
def winding : Chain :=
  ⟨Users.type, [.limit 2, .filter ofAge, .project (.field "name"), .source ⟨"Order"⟩,
    .filter startsWithA, .project (.field "salary"), .limit 5]⟩

/-- A user as a record. -/
def user (id : Int64) (name : String) (age : Int64) : Store.Record :=
  ⟨id.toInt, [.integer id, .text name.toUTF8, .integer age]⟩

/-- The table of users, with those that there are at first. -/
def table : Store.Table :=
  ⟨.ofMetadata metadata, [user 1 "Alice" 25, user 2 "Bob" 17, user 3 "Charlie" 30,
    user 4 "David" 22, user 5 "Eve" 19], 5⟩

/-- A world in which users are declared and stored. -/
def library : World (Store.Disk Store.Database.engine) :=
  (World.ofStore ⟨"/data", [("users.db", [table])]⟩).declare Users.declaration

/-- The query for the first two users of age. -/
def adults : Handle :=
  ((Handle.set (.ofConnection "users.db") Users.type).filter
    (.binary .ge (.field "age") (.literal (.int32 18)))).limit 2

end EntityQuery.Demo.Search
