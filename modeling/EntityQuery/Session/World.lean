import EntityQuery.Entity.Catalogue
import EntityQuery.Query.Materialization
import EntityQuery.Session.Event

/-!
# The world of a session

Queries are put to a store through an `Executor`, which takes a connection string
and a statement and answers with rows or an error; what lies behind it is a state
of its own. A `World` holds that state, the catalogue of entity types, and a
record of all that happened: the statements that were sent, with their connection
strings, and the events.

A `Context` says which connection string the queries of a session use, and
whether their statements are announced.
-/

namespace EntityQuery

/-- What answers statements, with a state of its own. -/
structure Executor (σ : Type) where
  execute : (connection : String) → Statement → σ → Except Error (List Row) × σ

/-- The settings of a session. -/
structure Context where
  connection : String
  /-- Whether every statement is announced. -/
  announces : Bool
  deriving DecidableEq, Repr

namespace Context

/-- The settings that are in force if none are given. -/
def default : Context := ⟨"miniorm.db", false⟩

/-- The settings with a connection string. -/
def ofConnection (connection : String) : Context := { default with connection }

/-- A context in diagnostics. -/
def detail (c : Context) : String :=
  "DbContext \x7b config: ContextConfig \x7b connection: " ++ Text.quoted c.connection ++
    ", log_statements: " ++ Value.boolText c.announces ++ " \x7d, .. \x7d"

end Context

/-- The state that a session works on, and the record of its work. -/
structure World (σ : Type) where
  catalogue : Catalogue
  store : σ
  /-- The connection strings and statements that the executor got, in order. -/
  sent : List (String × Statement)
  events : List Event

namespace World

variable {σ : Type}

/-- The world before anything happened. -/
def ofStore (store : σ) : World σ := ⟨.empty, store, [], []⟩

/-- The world after an entity type declared itself. -/
def declare (d : EntityDeclaration) (w : World σ) : World σ :=
  { w with catalogue := w.catalogue.declare d }

/-- The world with one more event. -/
def report (e : Event) (w : World σ) : World σ := { w with events := w.events ++ [e] }

/-- The metadata of an entity type; it is reported when they are made. -/
def resolve (t : EntityType) (w : World σ) : Except Error Metadata × World σ :=
  match w.catalogue.resolve t with
  | (.error e, catalogue) => (.error e, { w with catalogue })
  | (.ok resolved, catalogue) =>
    let after := { w with catalogue }
    (.ok resolved.metadata,
      if w.catalogue.builds < catalogue.builds then after.report (.built resolved.metadata)
      else after)

/-- The plan of a chain. -/
def translate (c : Chain) (w : World σ) : Except Error Plan × World σ :=
  match w.resolve c.root with
  | (.error e, w) => (.error e, w)
  | (.ok m, w) =>
    match Plan.ofChain m c with
    | .error e => (.error e, w)
    | .ok plan => (.ok plan, w.report (.translated plan))

/-- The rows that answer a statement. -/
def execute (x : Executor σ) (c : Context) (s : Statement) (w : World σ) :
    Except Error (List Row) × World σ :=
  let w := w.report (.executing c.announces s)
  let (answer, store) := x.execute c.connection s w.store
  let w := { w with store, sent := w.sent ++ [(c.connection, s)] }
  match answer with
  | .error e => (.error e, w.report (.failed e s))
  | .ok rows => (.ok rows, w.report (.completed rows.length))

end World

end EntityQuery
