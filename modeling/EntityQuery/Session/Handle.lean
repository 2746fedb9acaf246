import EntityQuery.Session.World

/-!
# Query handles

A `Handle` is a query that can be put to a store any number of times: the context
it was made in, the chain of operators, and what its rows are read into. Applying
an operator gives a new handle and leaves the old one as it was. Nothing is
translated or sent until a handle is *consumed*, and every consumption translates
and sends anew:

* `items` answers with one item or failure for each row;
* `collect` answers with all items, or the first failure;
* `firstOrNone` and `first` ask for a single row; to `first` no row is an error.
-/

namespace EntityQuery

/-- What the rows of a query are read into: entities of the type that the query
    starts from, or the output of a projection. -/
inductive Target where
  | entity
  | output (o : Output)

/-- What a row was read into. -/
inductive Item where
  | entity (i : Instance)
  | record (members : List Value)

/-- A query over the entities of a type. -/
structure Handle where
  context : Context
  chain : Chain
  target : Target

namespace Handle

variable {σ : Type}

/-- The query for every entity of a type. -/
def set (context : Context) (entity : EntityType) : Handle :=
  ⟨context, .ofSource entity, .entity⟩

/-- The query for the entities that also meet a condition. -/
def filter (condition : Expr) (h : Handle) : Handle :=
  { h with chain := h.chain.push (.filter condition) }

/-- The query for what a selector makes of each entity. -/
def project (selector : Expr) (o : Output) (h : Handle) : Handle :=
  { h with chain := h.chain.push (.project selector), target := .output o }

/-- The query for so many rows at most. -/
def limit (count : UInt32) (h : Handle) : Handle :=
  { h with chain := h.chain.push (.limit count) }

/-- The plan of a query. -/
def plan (h : Handle) (w : World σ) : Except Error Plan × World σ := w.translate h.chain

/-- The statement of a query. -/
def statement (h : Handle) (w : World σ) : Except Error Statement × World σ :=
  match h.plan w with
  | (.error e, w) => (.error e, w)
  | (.ok plan, w) => (.ok plan.render, w)

/-- What a row is read into, by the plan of the query. -/
def read (h : Handle) (c : Catalogue) (p : Plan) (row : Row) : Except Error Item :=
  match h.target with
  | .entity => (p.readEntity (c.declarationOf h.chain.root) row).map .entity
  | .output o => (p.readRecord o row).map .record

/-- Puts the query to the store: an item or a failure for each row. -/
def items (x : Executor σ) (h : Handle) (w : World σ) :
    Except Error (List (Except Error Item)) × World σ :=
  match h.plan w with
  | (.error e, w) => (.error e, w)
  | (.ok plan, w) =>
    match w.execute x h.context plan.render with
    | (.error e, w) => (.error e, w)
    | (.ok rows, w) => (.ok (rows.map (h.read w.catalogue plan)), w)

/-- All the items, or the first failure among them. -/
def allItems {α : Type} : List (Except Error α) → Except Error (List α)
  | [] => .ok []
  | .error e :: _ => .error e
  | .ok a :: rest =>
    match allItems rest with
    | .error e => .error e
    | .ok as => .ok (a :: as)

/-- Puts the query to the store: every item, or the first failure. -/
def collect (x : Executor σ) (h : Handle) (w : World σ) : Except Error (List Item) × World σ :=
  match h.items x w with
  | (.error e, w) => (.error e, w)
  | (.ok items, w) => (allItems items, w)

/-- Puts the query for a single row to the store: its item, if there is a row. -/
def firstOrNone (x : Executor σ) (h : Handle) (w : World σ) :
    Except Error (Option Item) × World σ :=
  match (h.limit 1).items x w with
  | (.error e, w) => (.error e, w)
  | (.ok [], w) => (.ok none, w)
  | (.ok (.error e :: _), w) => (.error e, w)
  | (.ok (.ok item :: _), w) => (.ok (some item), w)

/-- Puts the query for a single row to the store: its item. -/
def first (x : Executor σ) (h : Handle) (w : World σ) : Except Error Item × World σ :=
  match h.firstOrNone x w with
  | (.error e, w) => (.error e, w)
  | (.ok none, w) => (.error (.noRows h.chain.root.name), w)
  | (.ok (some item), w) => (.ok item, w)

/-- A query in diagnostics. -/
def detail (h : Handle) : String := h.chain.detail h.chain.root

theorem allItems_eq_ok_iff {α : Type} {items : List (Except Error α)} {as : List α} :
    allItems items = .ok as ↔ items = as.map .ok := by
  induction items generalizing as with
  | nil => cases as <;> simp [allItems]
  | cons item rest ih =>
    cases item with
    | error e => cases as <;> simp [allItems]
    | ok a =>
      simp only [allItems]
      cases as with
      | nil => split <;> simp
      | cons b bs =>
        split
        · next e he =>
          simp only [reduceCtorEq, List.map_cons, List.cons.injEq, Except.ok.injEq, false_iff,
            not_and]
          rintro - rfl
          rw [ih.2 rfl] at he
          cases he
        · next bs' hbs =>
          rw [ih] at hbs
          subst hbs
          simp only [Except.ok.injEq, List.cons.injEq, List.map_cons]
          refine and_congr_right fun _ => ⟨fun h => h ▸ rfl, fun h => ?_⟩
          exact (List.map_inj_right fun _ _ => Except.ok.inj).1 h

end Handle

end EntityQuery
