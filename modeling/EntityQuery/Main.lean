import EntityQuery.CommandLine.Program
import EntityQuery.Store.Command

/-!
# The executable

Runs the program on an empty disk: the databases last as long as the run.
-/

/-- Writes what the program writes and ends with its exit code. -/
def main (args : List String) : IO UInt32 := do
  let disk : EntityQuery.Store.Disk EntityQuery.Store.Database.engine := .empty "."
  let outcome := (EntityQuery.CommandLine.Program.run args disk).1
  IO.print outcome.output
  return outcome.code
