import EntityQuery.Demo.Users
import EntityQuery.Report.Section
import EntityQuery.Session.Handle

/-!
# The tour

The demonstration asks six questions about the users, one after the other, and
reports each answer in a section of its own. A `Question` is a query with the
title and the columns of its section: a user fills the columns with the fields of
their names, a projection with its members. To a question for one user only, it
is no failure that there is none.

The first question that fails ends the tour, and its error is the answer.
-/

namespace EntityQuery.Demo

/-- A question about the users. -/
structure Question where
  title : String
  columns : List String
  /-- What is asked for, among all users. -/
  query : Handle → Handle
  /-- Whether only the first user is asked for. -/
  single : Bool

namespace Question

variable {σ : Type}

/-- What an item fills the columns with. -/
def row (columns : List String) : Item → List Value
  | .entity user => columns.map fun c => (user.get? c).getD .null
  | .record members => members

/-- The items that answer a question. -/
def items (x : Executor σ) (users : Handle) (q : Question) (w : World σ) :
    Except Error (List Item) × World σ :=
  if q.single then
    match (q.query users).first x w with
    | (.error (.noRows _), w) => (.ok [], w)
    | (.error e, w) => (.error e, w)
    | (.ok item, w) => (.ok [item], w)
  else (q.query users).collect x w

/-- The section that answers a question. -/
def ask (x : Executor σ) (users : Handle) (q : Question) (w : World σ) :
    Except Error Report.Section × World σ :=
  match q.items x users w with
  | (.error e, w) => (.error e, w)
  | (.ok items, w) => (.ok ⟨q.title, q.columns, items.map (row q.columns)⟩, w)

end Question

namespace Tour

variable {σ : Type}

/-- The fields of a user, as columns. -/
def userColumns : List String := ["id", "name", "age"]

/-- The condition that a field and a value compare. -/
def compared (op : BinaryOp) (field : String) (v : Value) : Expr :=
  .binary op (.field field) (.literal v)

/-- The condition that a method says of a field and a text. -/
def called (method field text : String) : Expr :=
  .call method (.field field) [.literal (.string text)]

/-- The selector of a record with fields under their own names. -/
def recordOf (fields : List String) : Expr := .record (fields.map fun f => (f, .field f))

/-- Users whose name has a given start. -/
def startingWithA : Question where
  title := "Users whose name starts with 'A'"
  columns := userColumns
  query := Handle.filter (called "starts_with" "name" "A")
  single := false

/-- One user whose name has a given part. -/
def containingLi : Question where
  title := "Users with 'li' in their name (limit 1)"
  columns := ["id", "name"]
  query users :=
    ((users.filter (called "contains" "name" "li")).project (recordOf ["id", "name"])
      ⟨"(id, name)", [.scalar .int32, .scalar .string]⟩).limit 1
  single := false

/-- The users above an age. -/
def adults : Question where
  title := "Adult users (age > 18)"
  columns := userColumns
  query := Handle.filter (compared .gt "age" (.int32 18))
  single := false

/-- The names and ages of the users from an age on. -/
def namesAndAges : Question where
  title := "Name and age of users aged 20 or more"
  columns := ["name", "age"]
  query users :=
    (users.filter (compared .ge "age" (.int32 20))).project (recordOf ["name", "age"])
      ⟨"(name, age)", [.scalar .string, .scalar .int32]⟩
  single := false

/-- The first user from an age on. -/
def firstAdult : Question where
  title := "First adult user"
  columns := userColumns
  query := Handle.filter (compared .ge "age" (.int32 18))
  single := true

/-- Every user. -/
def everyone : Question where
  title := "All users"
  columns := userColumns
  query := id
  single := false

/-- The questions in their order. -/
def questions : List Question :=
  [startingWithA, containingLi, adults, namesAndAges, firstAdult, everyone]

/-- The sections that answer some questions, or the first failure among them. -/
def askAll (x : Executor σ) (users : Handle) :
    List Question → World σ → Except Error (List Report.Section) × World σ
  | [], w => (.ok [], w)
  | q :: qs, w =>
    match q.ask x users w with
    | (.error e, w) => (.error e, w)
    | (.ok answer, w) =>
      match askAll x users qs w with
      | (.error e, w) => (.error e, w)
      | (.ok answers, w) => (.ok (answer :: answers), w)

/-- The report of the tour. -/
def run (x : Executor σ) (c : Context) (w : World σ) :
    Except Error (List Report.Section) × World σ :=
  askAll x (.set c Users.type) questions (w.declare Users.declaration)

end Tour

end EntityQuery.Demo
