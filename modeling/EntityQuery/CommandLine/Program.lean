import EntityQuery.CommandLine.Arguments
import EntityQuery.Demo.Tour

/-!
# The program

The program sees to it that the table of the users is there and has its seed, asks
the questions of the tour and writes the report. An `Outcome` is an exit code and
what was written:

* `0` with the report or the version;
* `1` with nothing if the table or a question fails;
* `2` with nothing if the arguments are not understood.

It works on a disk with databases of any engine.
-/

namespace EntityQuery.CommandLine

/-- How a run of the program ends. -/
structure Outcome where
  code : UInt32
  output : String
  deriving DecidableEq, Repr

namespace Given

variable {E : Store.Engine}

/-- The settings of the queries. -/
def context (g : Given) : Context :=
  ⟨g.database.getD Context.default.connection, g.verbose⟩

/-- Sees to the table of the users and its seed. -/
def prepare (g : Given) (w : World (Store.Disk E)) :
    Except Store.StoreError Nat × World (Store.Disk E) :=
  let connection := g.context.connection
  if g.reset then Store.Seeding.reset connection Demo.Users.type Demo.Users.seed w
  else Store.Seeding.ensure connection Demo.Users.type Demo.Users.seed w

/-- The report that the arguments ask for. -/
def report (g : Given) (w : World (Store.Disk E)) : Option String × World (Store.Disk E) :=
  match g.prepare w with
  | (.error _, w) => (none, w)
  | (.ok _, w) =>
    match Demo.Tour.run Store.Disk.executor g.context w with
    | (.error _, w) => (none, w)
    | (.ok sections, w) => (some ((g.format.getD .table).write sections), w)

end Given

/-- The name and the version of the program. -/
def versionText : String := "miniorm 0.1.0"

namespace Program

/-- Runs the program with arguments, on a disk. -/
def run {E : Store.Engine} (args : List String) (d : Store.Disk E) : Outcome × Store.Disk E :=
  match Command.ofArguments args with
  | .misuse => (⟨2, ""⟩, d)
  | .version => (⟨0, versionText ++ "\n"⟩, d)
  | .report g =>
    match g.report ((World.ofStore d).declare Demo.Users.declaration) with
    | (none, w) => (⟨1, ""⟩, w.store)
    | (some text, w) => (⟨0, text ++ "\n"⟩, w.store)

end Program

end EntityQuery.CommandLine
