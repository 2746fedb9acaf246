import EntityQuery.Proofs.Decoding
import EntityQuery.Proofs.Engines

/-!
# Conditions on records

A condition can be evaluated on a record as it stands, without a statement: a field is
what the record holds in its column (`Record.held`), a value is itself, and operators
and patterns are those of the engine. It is true of a record if it is known to be
(`Expr.isTrueOf`).

A statement evaluates the term that the condition was lowered to, and the two agree
(`Lowers.eval_eq`). The conditions of a chain are conjoined in the statement, which is
true of exactly the records that every one of them is true of
(`conjunction_isTrueOf_iff`).
-/

namespace EntityQuery

open Store
open Sql (Term)

/-- What a record holds in a column of an entity type, whose columns it is made of. -/
def Store.Record.held (m : Metadata) (column : String) (r : Record) : Datum :=
  r.data.getD (m.columns.findIdx (·.column == column)) .null

namespace Expr

/-- The type that an expression brings to a comparison: that of the column of a field. -/
def columnType? (m : Metadata) : Expr → Option ColumnType
  | field name => (m.column? name).map fun b => .ofScalar b.type.scalarType
  | _ => none

/-- The datum of an expression on a record, by operators. -/
def datum (ops : Operators) (m : Metadata) (r : Record) : Expr → Datum
  | field name => ((m.column? name).map fun b => r.held m b.column).getD .null
  | captured _ v | literal v => .ofValue v
  | binary op left right =>
    .ofTruth (ops.operate op (left.columnType? m, right.columnType? m) (left.datum ops m r)
      (right.datum ops m r))
  | call method receiver args =>
    match pattern? method args with
    | some text => .ofTruth (ops.like (receiver.datum ops m r) (.ofValue (.string text)))
    | none => .null
  | record _ => .null

/-- Whether a condition is known to be true of a record. -/
def isTrueOf (ops : Operators) (m : Metadata) (r : Record) (e : Expr) : Bool :=
  ops.truth (e.datum ops m r) == some true

end Expr

theorem Store.kleeneAnd_eq_some_true_iff {a b : Option Bool} :
    kleeneAnd a b = some true ↔ a = some true ∧ b = some true := by
  cases a with
  | none => cases b with
    | none => decide
    | some b => cases b <;> decide
  | some a => cases a <;> cases b with
    | none => decide
    | some b => cases b <;> decide

/-! ## Conjunctions -/

namespace Expr

variable {E : Engine} {V : View E} {m : Metadata} {r : Record}

theorem and_isTrueOf_iff (hV : V.Lawful) {left right : Expr} :
    (binary .and left right).isTrueOf V.operators m r = true ↔
      left.isTrueOf V.operators m r = true ∧ right.isTrueOf V.operators m r = true := by
  simp only [isTrueOf, datum, hV.truth, hV.and, beq_iff_eq, kleeneAnd_eq_some_true_iff]

/-- The conjunction of conditions is true of what each of them is true of. -/
theorem conjunction_isTrueOf_iff (hV : V.Lawful) {es : List Expr} :
    (conjunction? es).all (·.isTrueOf V.operators m r) = true ↔
      ∀ e ∈ es, e.isTrueOf V.operators m r = true := by
  cases es with
  | nil => simp [conjunction?]
  | cons e es =>
    rw [conjunction?, Option.all_some]
    induction es generalizing e with
    | nil => simp
    | cons e' es ih =>
      rw [List.foldl_cons, ih, List.forall_mem_cons, and_isTrueOf_iff hV, List.forall_mem_cons,
        List.forall_mem_cons, and_assoc]

end Expr

/-! ## Lowered conditions -/

namespace Predicate

variable {m : Metadata} {r : Record}

/-- Of what at most one element of a list meets, the last is the first. -/
theorem find?_reverse {α : Type} {p : α → Bool} {l : List α}
    (h : l.Pairwise fun a b => p a = true → p b = false) : l.reverse.find? p = l.find? p := by
  induction l with
  | nil => rfl
  | cons a l ih =>
    rw [List.pairwise_cons] at h
    rw [List.reverse_cons, List.find?_append, ih h.2]
    cases ha : p a with
    | false => simp [ha]
    | true =>
      have hnone : l.find? p = none := by
        rw [List.find?_eq_none]
        intro b hb
        rw [h.1 b hb ha]
        exact nofun
      simp [hnone, ha]

/-- The parameters of a statement have the data of the values that left its text. -/
theorem parameter_numbered {vs : List Value} {k : Nat} {v : Value} (hv : vs[k]? = some v) :
    Prepared.parameter ((numbered 0 vs).map fun q => (q.name, Datum.ofValue q.value))
      (placeholder k) = .ofValue v := by
  have hnames : ((numbered 0 vs).map (·.name)).Nodup := by
    rw [map_name_numbered, List.Nodup, List.pairwise_map]
    refine List.Pairwise.imp (fun hab => ?_) List.nodup_range'
    exact Sql.placeholder_injective.ne hab
  have hpairwise : (numbered 0 vs).Pairwise fun a b =>
      (a.name == placeholder k) = true → (b.name == placeholder k) = false := by
    rw [List.Nodup, List.pairwise_map] at hnames
    refine hnames.imp fun hab ha => ?_
    rw [beq_iff_eq] at ha
    rw [beq_eq_false_iff_ne, ← ha]
    exact Ne.symm hab
  have hvalue := valueOf?_numbered 0 k vs
  rw [Nat.zero_add, hv, valueOf?] at hvalue
  obtain ⟨q, hq, rfl⟩ := Option.map_eq_some_iff.1 hvalue
  have hfind : ((numbered 0 vs).map fun q => (q.name, Datum.ofValue q.value)).reverse.find?
      (·.1 == placeholder k) = some (q.name, .ofValue q.value) := by
    rw [← List.map_reverse, List.find?_map]
    simp only [Function.comp_def, find?_reverse hpairwise, hq, Option.map_some]
  rw [Prepared.parameter, hfind]

/-- What columns and parameters are in a statement, of a record and of values, and what it is
    evaluated by. -/
structure Reads (ops : Operators) (env : Environment) (m : Metadata) (r : Record) (n : Nat)
    (vs : List Value) : Prop where
  operators : env.operators = ops
  column : ∀ b ∈ m.columns,
    env.column b.column = some (.ofScalar b.type.scalarType, r.held m b.column)
  parameter : ∀ k v, vs[k]? = some v → env.parameter (placeholder (n + k)) = .ofValue v

variable {ops : Operators} {env : Environment}

theorem Reads.left {n : Nat} {vs ws : List Value} (h : Reads ops env m r n (vs ++ ws)) :
    Reads ops env m r n vs :=
  ⟨h.operators, h.column, fun k v hv => h.parameter k v (by
    obtain ⟨hk, -⟩ := List.getElem?_eq_some_iff.1 hv
    rw [List.getElem?_append_left hk, hv])⟩

theorem Reads.right {n : Nat} {vs ws : List Value} (h : Reads ops env m r n (vs ++ ws)) :
    Reads ops env m r (n + vs.length) ws :=
  ⟨h.operators, h.column, fun k v hv => by
    rw [Nat.add_assoc]
    refine h.parameter (vs.length + k) v ?_
    rw [List.getElem?_append_right (Nat.le_add_right _ _), Nat.add_sub_cancel_left, hv]⟩

theorem Lowers.type?_eq {e : Expr} {n : Nat} {t : Term} {vs : List Value} (h : Lowers m e n t vs)
    (henv : Reads ops env m r n vs) : env.type? t = e.columnType? m := by
  cases h with
  | @field name b _ hb =>
    rw [Environment.type?, henv.column b (Metadata.mem_columns_of_column? hb).1, Expr.columnType?,
      hb]
    rfl
  | captured | literal | binary | call => rfl

/-- The term that a condition was lowered to has the datum of the condition. -/
theorem Lowers.eval_eq {e : Expr} {n : Nat} {t : Term} {vs : List Value} (h : Lowers m e n t vs)
    (henv : Reads ops env m r n vs) : env.eval t = e.datum ops m r := by
  induction h with
  | @field name b _ hb =>
    rw [Environment.eval, henv.column b (Metadata.mem_columns_of_column? hb).1, Expr.datum, hb]
    rfl
  | captured | literal => exact henv.parameter 0 _ rfl
  | @binary op left right n l r' vs ws hl hr ihl ihr =>
    rw [Environment.eval, ihl henv.left, ihr henv.right, hl.type?_eq henv.left,
      hr.type?_eq henv.right, henv.operators, Expr.datum]
  | @call method text receiver args n t vs hp _ ih =>
    have hpattern : env.parameter (placeholder (n + vs.length)) = .ofValue (.string text) :=
      henv.right.parameter 0 _ rfl
    simp only [Environment.eval, ih henv.left, hpattern, henv.operators, Expr.datum,
      pattern_eq_ok.1 hp]

/-- The condition of a statement holds where that of the chain is true. -/
theorem LowersAll.holds_eq {e : Option Expr} {t : Option Term} {vs : List Value}
    (h : LowersAll m e t vs) (henv : Reads ops env m r 0 vs) :
    t.all env.holds = e.all (·.isTrueOf ops m r) := by
  cases h with
  | none => rfl
  | some hv =>
    simp only [Option.all_some, Environment.holds, hv.eval_eq henv, henv.operators, Expr.isTrueOf]

end Predicate

end EntityQuery
