import EntityQuery.Sql.Select
import EntityQuery.Store.Estimate
import EntityQuery.Store.Table

/-!
# Access to the records of a table

A condition decides how the records of a table are visited, and so their order. They
may be visited in the order in which they are stored, or in that of a column whose
values are all different, which has an index. A condition with `OR` may also be
visited part by part, if each part bounds a key: first the records that meet the
first part, then the others that meet the second, and so on. Of all ways that the
condition admits the one with the least estimate is taken (`Outlook.choose`).

A way of access is a list of `Pass`es over the records. `Table.visit` gives the
records in the order of the passes, each of them once.

* `visit_stored`: a single pass without a condition, in the order in which the records
  are stored, visits all records in that order.
-/

namespace EntityQuery.Store

open Sql (Term)

/-- How a condition bounds a column by values that the record does not decide. -/
inductive BoundKind where
  | equal
  /-- One of so many values. -/
  | among (count : Nat)
  | above
  | below
  deriving DecidableEq, Repr

/-- A bound of a column. -/
structure Bound where
  place : Place
  kind : BoundKind
  value : Term

/-- The bound that a comparison gives to its left side. -/
def BoundKind.ofOperator? : BinaryOp → Option BoundKind
  | .eq => some .equal
  | .gt | .ge => some .above
  | .lt | .le => some .below
  | .ne | .and | .or => none

/-- The bound that a comparison gives to its right side. -/
def BoundKind.flip : BoundKind → BoundKind
  | above => below
  | below => above
  | k => k

end EntityQuery.Store

namespace EntityQuery.Sql.Term

/-- The conditions that `AND` connects. -/
def conjuncts : Term → List Term
  | .binary .and l r => l.conjuncts ++ r.conjuncts
  | t => [t]

/-- The conditions that `OR` connects. -/
def disjuncts : Term → List Term
  | .binary .or l r => l.disjuncts ++ r.disjuncts
  | t => [t]

/-- Whether a condition is connected by `OR`. -/
def isUnion : Term → Bool
  | .binary .or _ _ => true
  | _ => false

/-- How many terms a term consists of. -/
def size : Term → Nat
  | .binary _ l r => l.size + r.size + 1
  | .like t p => t.size + p.size + 1
  | .castText t => t.size + 1
  | .row t u => t.size + u.size + 1
  | _ => 1

end EntityQuery.Sql.Term

namespace EntityQuery.Store

open Sql (Term)

/-- What the choice of an access depends on: the table, and which of its columns the
    statement uses. -/
structure Outlook where
  table : Table
  used : List Place

/-- What an access is expected to take, and how many records it gives. -/
structure Cost where
  run : Estimate
  out : Estimate

/-- A way to visit records. -/
inductive Path where
  | scan
  /-- By a key, or in the order of an index. -/
  | key (place : Place)
  /-- Part by part, by the condition at a place among those that have to hold. -/
  | union (k : Nat)

/-- A visit of the records that meet conditions, in the order in which they are stored
    or in that of a column. -/
structure Pass where
  conditions : List Term
  order : Option Nat

namespace Outlook

/-- The place that a term is. -/
def place? (o : Outlook) : Term → Option Place
  | .column name | .columnOrText name | .member _ name => o.table.place? name
  | _ => none

/-- Whether a record decides the value of a term. -/
def depends (o : Outlook) : Term → Bool
  | .binary _ l r => o.depends l || o.depends r
  | .like t p => o.depends t || o.depends p
  | .castText t => o.depends t
  | .row t u => o.depends t || o.depends u
  | t => (o.place? t).isSome

/-- The bound that a comparison of a column gives. -/
def bound? (o : Outlook) : Term → Option Bound
  | .binary op l r =>
    (BoundKind.ofOperator? op).bind fun kind =>
      match o.place? l, o.place? r with
      | some place, _ => if o.depends r then none else some ⟨place, kind, r⟩
      | none, some place => if o.depends l then none else some ⟨place, kind.flip, l⟩
      | none, none => none
  | _ => none

/-- The type of what stands at a place. -/
def typeAt (o : Outlook) : Place → ColumnType
  | .number => .integer
  | .column i => (o.table.columns[i]?.map (·.type)).getD .untyped

/-- The columns that a condition makes equal, if their types are of one kind. -/
def equation? (o : Outlook) : Term → Option (Place × Place)
  | .binary .eq l r =>
    match o.place? l, o.place? r with
    | some p, some q =>
      if o.typeAt p = o.typeAt q || ((o.typeAt p).isNumeric && (o.typeAt q).isNumeric) then
        some (p, q)
      else none
    | _, _ => none
  | _ => none

/-- Whether a value may stand in a list of values for a column. -/
def admits (o : Outlook) (b : Bound) : Bool :=
  match b.value with
  | .castText _ => o.typeAt b.place = .text
  | _ => true

/-- The list of values that bounds a column if each of the conditions makes the column
    equal to one. -/
def among? (o : Outlook) (parts : List Term) : Option Bound :=
  match parts.mapM o.bound? with
  | some (b :: bs) =>
    if (b :: bs).all fun c => c.place = b.place && c.kind = .equal && o.admits c then
      some { b with kind := .among parts.length }
    else none
  | _ => none

/-- The bound that two bounds of a column by one value have in common. -/
def common? (a b : Bound) : Option Bound :=
  if a.place = b.place && a.value = b.value then
    match a.kind, b.kind with
    | .equal, .equal | .above, .above | .below, .below => some a
    | .equal, .above | .above, .equal => some { a with kind := .above }
    | .equal, .below | .below, .equal => some { a with kind := .below }
    | _, _ => none
  else none

/-- The bounds that a condition gives, and whether a search by the bound makes sure of
    the condition. -/
def bounds (o : Outlook) : (fuel : Nat) → Term → List (Bound × Bool)
  | 0, _ => []
  | n + 1, t =>
    if t.isUnion then
      let within (part : Term) : List Bound :=
        match o.bound? part with
        | some b => [b]
        | none => part.conjuncts.flatMap fun c => (o.bounds n c).map (·.1)
      let shared :=
        match t.disjuncts with
        | [a, b] => (within a).flatMap fun x => (within b).filterMap fun y => common? x y
        | _ => []
      ((o.among? t.disjuncts).toList.map (·, true)) ++ shared.map (·, false)
    else (o.bound? t).toList.map (·, true)

/-- Whether a condition compares a column. -/
def compares (o : Outlook) (t : Term) : Bool :=
  match t with
  | .binary op l r =>
    if (BoundKind.ofOperator? op).isSome then (o.place? l).isSome || (o.place? r).isSome
    else !(o.bounds t.size t).isEmpty
  | _ => false

/-- Whether a condition may be visited part by part. -/
def divides (o : Outlook) (t : Term) : Bool :=
  t.isUnion && t.disjuncts.all fun part => part.conjuncts.any o.compares

/-- Whether a condition may take part in a search. -/
def searches (o : Outlook) (t : Term) : Bool :=
  t.isUnion || (o.bound? t).isSome || (o.equation? t).isSome

/-- The places with one more that an equation leads to. -/
def spread (equations : List (Place × Place)) (places : List Place) : List Place :=
  equations.foldl (fun ps (p, q) =>
    if ps.contains p && !ps.contains q then ps ++ [q]
    else if ps.contains q && !ps.contains p then ps ++ [p]
    else ps) places

/-- The places that have to hold what a place holds, by conditions. -/
def equals (o : Outlook) (conditions : List Term) (place : Place) : List Place :=
  let equations := conditions.filterMap o.equation?
  equations.foldl (fun ps _ => spread equations ps) [place]

/-- The bounds of a key: those that conditions give, with the place of the condition
    that a search makes sure of, and those from further conditions. -/
def boundsAt (o : Outlook) (conditions further : List Term) (place : Place) :
    List (Bound × Option Nat) :=
  let places := o.equals (conditions ++ further) place
  let own := conditions.zipIdx.flatMap fun (t, k) =>
    (o.bounds t.size t).map fun (b, sure) => (b, if sure then some k else none)
  let others := further.flatMap fun t => (o.bounds t.size t).map fun (b, _) => (b, none)
  (own ++ others).filter fun b => places.contains b.1.place

/-- How wide the values of a type are taken to be. -/
def width : ColumnType → Nat
  | .text | .blob => 5
  | .integer | .real | .untyped => 1

/-- The estimate of the width of a record. -/
def recordWidth (o : Outlook) : Estimate :=
  let unnumbered := if o.table.columns.any (·.isIntegerKey) then 0 else 1
  .ofNat (4 * o.table.columns.foldl (fun n c => n + width c.type) unnumbered)

/-- The estimate of the width of an entry of an index. -/
def entryWidth (o : Outlook) (i : Nat) : Estimate := .ofNat (4 * (width (o.typeAt (.column i)) + 1))

/-- What it takes to go through an index, over the number of its entries. -/
def entry (o : Outlook) (i : Nat) : Estimate := 1 + 15 * o.entryWidth i / o.recordWidth

/-- Whether an index has all that the statement uses. -/
def covers (o : Outlook) (i : Nat) : Bool :=
  o.used.all fun p => p = .number || p = .column i

/-- What a condition that a search leaves open takes from the number of records at
    least: an equation leaves a quarter, or half for one of the least numbers. -/
def reduction (o : Outlook) (t : Term) : Estimate :=
  match o.bound? t with
  | some ⟨_, .equal, .integer n⟩ => if n ≤ 1 then 10 else 20
  | some ⟨_, .equal, _⟩ => 20
  | _ => 0

/-- How many records are left after the conditions that a search leaves open. -/
def remaining (o : Outlook) (conditions : List Term) (sure : List Nat) (out : Estimate) :
    Estimate :=
  let left := conditions.zipIdx.filter fun (t, k) => o.depends t && !sure.contains k
  min (out - left.length) (Estimate.records - left.foldl (fun e (t, _) => max e (o.reduction t)) 0)

/-- The cost of a search for records by bounds of a key. -/
def searchCost (o : Outlook) (conditions : List Term) (place : Place)
    (bounds : List (Bound × Option Nat)) : Cost :=
  let values : Estimate :=
    match bounds with
    | [(⟨_, .among n, _⟩, _)] => .ofNat n
    | _ => 0
  let out : Estimate :=
    match bounds with
    | [(b, _)] => if b.kind = .above || b.kind = .below then Estimate.records - 20 else 0
    | _ => Estimate.records - 60
  let run :=
    match place with
    | .number => Estimate.search.join (out + .record)
    | .column i =>
      let run := Estimate.search.join (out + o.entry i)
      if o.covers i then run else run.join (out + .record)
  ⟨run + values, o.remaining conditions (bounds.filterMap (·.2)) (out + values)⟩

/-- The searches by a key: by each bound alone, and by two from both sides. -/
def searchesBy (o : Outlook) (conditions further : List Term) (place : Place) :
    List (Path × Cost) :=
  let bounds := o.boundsAt conditions further place
  let cost (bs : List (Bound × Option Nat)) := (Path.key place, o.searchCost conditions place bs)
  bounds.flatMap fun b =>
    cost [b] ::
      (if b.1.kind = .above then
        (bounds.filter fun c => c.1.kind = .below).map fun c => cost [b, c]
      else [])

/-- The columns that have an index. -/
def indexed (o : Outlook) : List Nat :=
  (o.table.columns.zipIdx.filter fun (c, _) => c.key = .unique).map (·.2)

/-- All searches by keys. -/
def keySearches (o : Outlook) (conditions further : List Term) : List (Path × Cost) :=
  (Place.number :: o.indexed.map .column).flatMap (o.searchesBy conditions further)

/-- The better of two costs where records of several parts are counted together. -/
def better (known : Option Cost) (c : Cost) : Option Cost :=
  match known with
  | none => some c
  | some k => if c.run ≤ k.run then some ⟨c.run, min k.out c.out⟩ else some k

/-- The costs of visiting records part by part, by each condition that may be. -/
def unions (o : Outlook) : (fuel : Nat) → (conditions further : List Term) → List (Path × Cost)
  | 0, _, _ => []
  | n + 1, conditions, further =>
    let least (part : Term) : Option Cost :=
      let cs := part.conjuncts
      let outer := conditions ++ further
      ((o.keySearches cs outer ++ o.unions n cs outer).map (·.2)).foldl better none
    conditions.zipIdx.filterMap fun (t, k) =>
      if o.divides t then
        let parts := t.disjuncts ++ t.disjuncts.filter fun part => (o.equation? part).isSome
        match parts.mapM least with
        | some (c :: cs) =>
          let sum := cs.foldl (fun s c => Cost.mk (s.run.join c.run) (s.out.join c.out)) c
          some (Path.union k, ⟨sum.run + 1, sum.out⟩)
        | _ => none
      else none

/-- The visit of all records. -/
def scan (o : Outlook) (conditions : List Term) : Path × Cost :=
  (.scan, ⟨Estimate.records + .record, o.remaining conditions [] .records⟩)

/-- The visits of all entries of indices that have all that is used. -/
def indexScans (o : Outlook) (conditions : List Term) : List (Path × Cost) :=
  (o.indexed.filter fun i => o.covers i && o.entryWidth i < o.recordWidth).map fun i =>
    (.key (.column i), ⟨Estimate.records + o.entry i, o.remaining conditions [] .records⟩)

/-- The size of conditions, which no more steps into their parts can exceed. -/
def depth (conditions : List Term) : Nat := conditions.foldl (fun n t => n + t.size) 1

/-- The way of least cost to visit the records that meet conditions. -/
def choose (o : Outlook) (conditions : List Term) : Path :=
  let ways := o.keySearches conditions [] ++ o.indexScans conditions ++
    o.unions (depth conditions) conditions []
  (ways.foldl (fun (best : Path × Cost) w =>
    if w.2.run < best.2.run || (w.2.run = best.2.run && w.2.out < best.2.out) then w else best)
    (o.scan conditions)).1

/-- The passes over the records that meet conditions. A part is visited together with
    the other conditions that may take part in a search. -/
def passes (o : Outlook) : (fuel : Nat) → List Term → List Pass
  | 0, _ => [⟨[], none⟩]
  | n + 1, conditions =>
    match o.choose conditions with
    | .scan | .key .number => [⟨[], none⟩]
    | .key (.column i) => [⟨[], some i⟩]
    | .union k =>
      let parts := (conditions[k]?.map Term.disjuncts).getD []
      let others := (conditions.eraseIdx k).filter o.searches
      parts.flatMap fun part =>
        (o.passes n (part.conjuncts ++ others)).map fun p =>
          { p with conditions := part :: p.conditions }

end Outlook

namespace Table

/-- The order of records by a column, and of equal data by their numbers. -/
def precedes (i : Nat) (a b : Record) : Bool :=
  (a.data.getD i .null).compare (b.data.getD i .null) != .gt

/-- The records in the order of a pass. -/
def ordered (t : Table) : Option Nat → List Record
  | none => t.records
  | some i => t.records.mergeSort (precedes i)

/-- The records in the order of passes, each of them once. -/
def visit (t : Table) (holds : Record → Term → Bool) (passes : List Pass) : List Record :=
  passes.foldl (fun seen p =>
    seen ++ (t.ordered p.order).filter fun r =>
      p.conditions.all (holds r) && !seen.any (·.key == r.key)) []

theorem visit_stored (t : Table) (holds : Record → Term → Bool) :
    t.visit holds [⟨[], none⟩] = t.records := by
  simp [visit, ordered]

end Table

end EntityQuery.Store
