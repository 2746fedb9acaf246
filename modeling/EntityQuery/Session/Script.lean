import EntityQuery.Session.World

/-!
# Scripted answers

An executor that answers from a script, whatever it is asked: each statement with
the next answer, and the last answer again and again. Without a script there are
no rows.
-/

namespace EntityQuery

/-- An answer of a script. -/
inductive Response where
  | rows (rows : List Row)
  | fail (message : String)

/-- What an answer of a script amounts to. -/
def Response.result : Response → Except Error (List Row)
  | rows answer => .ok answer
  | fail text => .error (.execution text)

/-- The executor whose state is the answers that are still to be given. -/
def Executor.scripted : Executor (List Response) where
  execute _ _
    | [] => (.ok [], [])
    | [last] => (last.result, [last])
    | next :: rest => (next.result, rest)

end EntityQuery
