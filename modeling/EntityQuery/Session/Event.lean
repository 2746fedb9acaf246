import EntityQuery.Query.Statement

/-!
# Events

What a session reports of its work, in order: metadata that were made, chains
that were translated, statements that were sent and how they ended. An `Event`
holds what is reported; its level, message and named fields are texts of it.
-/

namespace EntityQuery

/-- How much a report matters. -/
inductive Level where
  | trace
  | debug
  | info
  | warn
  deriving DecidableEq, Repr

/-- The name of a level. -/
def Level.name : Level → String
  | trace => "TRACE"
  | debug => "DEBUG"
  | info => "INFO"
  | warn => "WARN"

/-- Something that a session reports. -/
inductive Event where
  | built (metadata : Metadata)
  | translated (plan : Plan)
  /-- A statement is sent; `announced` if the context asks for such reports. -/
  | executing (announced : Bool) (statement : Statement)
  | completed (rows : Nat)
  | failed (error : Error) (statement : Statement)

namespace Event

/-- The level of a report. -/
def level : Event → Level
  | built _ => .debug
  | translated _ => .trace
  | executing announced _ => if announced then .info else .debug
  | completed _ => .debug
  | failed .. => .warn

/-- The message of a report. -/
def message : Event → String
  | built _ => "built entity metadata"
  | translated _ => "translated query"
  | executing .. => "executing"
  | completed _ => "statement completed"
  | failed .. => "statement failed"

/-- The text of a limit in a report. -/
def limitText : Option UInt32 → String
  | none => "None"
  | some n => "Some(" ++ toString n.toNat ++ ")"

/-- The named fields of a report. -/
def fields : Event → List (String × String)
  | built m =>
    [("entity", Text.quoted m.entity.name), ("table", m.table),
      ("columns", toString m.columns.length)]
  | translated p =>
    [("entity", Text.quoted p.entity.name), ("columns", toString p.selection.length),
      ("filtered", if p.predicate.isSome then "true" else "false"), ("limit", limitText p.limit)]
  | executing _ s => [("statement", s.text)]
  | completed rows => [("rows", toString rows)]
  | failed e s => [("error", e.message), ("sql", s.sql)]

end Event

end EntityQuery
