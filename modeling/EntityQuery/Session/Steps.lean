import EntityQuery.Session.Handle

/-!
# Steps of a session

A `Session` is a context, a world and the handles made so far, which are numbered
from 0 in the order in which they were made. A `Step` makes a handle, from an
entity type or from an earlier handle, or asks something of one; `Session.step`
gives its `Answer` and the session after it.
-/

namespace EntityQuery

/-- Something that is done with a session; `q` is the number of a handle. -/
inductive Step where
  | declare (d : EntityDeclaration)
  | metadata (t : EntityType)
  | set (t : EntityType)
  | filter (q : Nat) (condition : Expr)
  | project (q : Nat) (selector : Expr) (o : Output)
  | limit (q : Nat) (count : UInt32)
  | clone (q : Nat)
  | collect (q : Nat)
  | items (q : Nat)
  | first (q : Nat)
  | firstOrNone (q : Nat)
  | statement (q : Nat)
  | plan (q : Nat)
  | operators (q : Nat)
  | detail (q : Nat)

/-- What a step answers. -/
inductive Answer where
  | done
  /-- A handle was made and has this number. -/
  | handle (q : Nat)
  /-- There is no handle of that number. -/
  | noHandle
  | metadata (m : Metadata)
  | collected (items : List Item)
  | items (items : List (Except Error Item))
  | first (item : Item)
  | firstOrNone (item : Option Item)
  | statement (s : Statement)
  | plan (p : Plan)
  | operators (ops : List Operator)
  | detail (text : String)
  | failed (e : Error)

/-- A context, the handles that were made, and the world they work on. -/
structure Session (σ : Type) where
  context : Context
  handles : List Handle
  world : World σ

namespace Session

variable {σ : Type}

/-- The session before its first step. -/
def start (context : Context) (store : σ) : Session σ := ⟨context, [], .ofStore store⟩

/-- The session with one more handle, and its number. -/
def add (h : Handle) (s : Session σ) : Answer × Session σ :=
  (.handle s.handles.length, { s with handles := s.handles ++ [h] })

/-- The answer that a result stands for. -/
def answer {α : Type} (ofResult : α → Answer) : Except Error α → Answer
  | .error e => .failed e
  | .ok a => ofResult a

/-- The session after a question that had a result and changed the world. -/
def asked {α : Type} (ofResult : α → Answer) (s : Session σ) (r : Except Error α × World σ) :
    Answer × Session σ :=
  (answer ofResult r.1, { s with world := r.2 })

/-- Goes on with the handle of a number, if there is one. -/
def withHandle (q : Nat) (s : Session σ) (next : Handle → Answer × Session σ) :
    Answer × Session σ :=
  match s.handles[q]? with
  | some h => next h
  | none => (.noHandle, s)

/-- The answer to a step, and the session after it. -/
def step (x : Executor σ) (s : Session σ) : Step → Answer × Session σ
  | .declare d => (.done, { s with world := s.world.declare d })
  | .metadata t => s.asked .metadata (s.world.resolve t)
  | .set t => s.add (.set s.context t)
  | .filter q condition => s.withHandle q fun h => s.add (h.filter condition)
  | .project q selector o => s.withHandle q fun h => s.add (h.project selector o)
  | .limit q count => s.withHandle q fun h => s.add (h.limit count)
  | .clone q => s.withHandle q fun h => s.add h
  | .collect q => s.withHandle q fun h => s.asked .collected (h.collect x s.world)
  | .items q => s.withHandle q fun h => s.asked .items (h.items x s.world)
  | .first q => s.withHandle q fun h => s.asked .first (h.first x s.world)
  | .firstOrNone q => s.withHandle q fun h => s.asked .firstOrNone (h.firstOrNone x s.world)
  | .statement q => s.withHandle q fun h => s.asked .statement (h.statement s.world)
  | .plan q => s.withHandle q fun h => s.asked .plan (h.plan s.world)
  | .operators q => s.withHandle q fun h => (.operators h.chain.walk, s)
  | .detail q => s.withHandle q fun h => (.detail h.detail, s)

end Session

end EntityQuery
