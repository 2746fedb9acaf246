import EntityQuery.Demo.Search

/-!
# What a chain is made of

The parts of a chain, read off its operators and not off what is made of them. A chain is
*made of* its root, its conditions from the source on, and the selector and the count of
its latest projection and limit, if it has any (`Chain.MadeOf`); that is also what the
translation takes of it (`Chain.madeOf_iff`).

A method that compares texts compares them with a pattern, which is made of the text of
its argument (`Expr.pattern?`).
-/

namespace EntityQuery

namespace Operator

/-- The condition of an operator, if it filters. -/
def condition? : Operator → Option Expr
  | filter condition => some condition
  | source _ | project _ | limit _ => none

/-- The selector of an operator, if it projects. -/
def selector? : Operator → Option Expr
  | project selector => some selector
  | source _ | filter _ | limit _ => none

/-- The count of an operator, if it limits. -/
def count? : Operator → Option UInt32
  | limit count => some count
  | source _ | filter _ | project _ => none

/-- What the latest of those operators has that have such a thing: `ops` are the operators
    from the latest on. -/
inductive Latest {α : Type} (part? : Operator → Option α) : List Operator → Option α → Prop
  | none {ops : List Operator} : (∀ op ∈ ops, part? op = .none) → Latest part? ops .none
  | some {later earlier : List Operator} {op : Operator} {a : α} :
    (∀ op ∈ later, part? op = .none) → part? op = .some a →
    Latest part? (later ++ op :: earlier) (.some a)

/-- The latest operator that has a part is the first to be found. -/
theorem latest_iff {α : Type} {part? : Operator → Option α} {ops : List Operator} {a : Option α} :
    Latest part? ops a ↔ ops.findSome? part? = a := by
  constructor
  · rintro (h | ⟨hl, ha⟩)
    · exact List.findSome?_eq_none_iff.2 h
    · rw [List.findSome?_append, List.findSome?_eq_none_iff.2 hl, List.findSome?_cons, ha]
      rfl
  · intro h
    cases a with
    | none => exact .none (List.findSome?_eq_none_iff.1 h)
    | some a =>
      obtain ⟨later, op, earlier, rfl, ha, hl⟩ := List.findSome?_eq_some_iff.1 h
      exact .some hl ha

end Operator

namespace Chain

open Operator (Latest)

/-- The chain `c` starts from `root` and has the conditions, from the source on; `selector`
    and `count` are those of its latest projection and limit. -/
structure MadeOf (c : Chain) (root : EntityType) (conditions : List Expr)
    (selector : Option Expr) (count : Option UInt32) : Prop where
  root : c.walk.getLast? = some (.source root)
  conditions : c.walk.reverse.filterMap Operator.condition? = conditions
  selector : Latest Operator.selector? c.walk selector
  count : Latest Operator.count? c.walk count

variable {c c₁ c₂ : Chain} {root : EntityType} {conditions : List Expr} {selector : Option Expr}
  {count : Option UInt32}

theorem filters_eq : c.filters = c.applied.reverse.filterMap Operator.condition? :=
  congrArg (List.filterMap · _) (funext fun op => by cases op <;> rfl)

theorem projection?_eq : c.projection? = c.applied.findSome? Operator.selector? :=
  congrArg (List.findSome? · _) (funext fun op => by cases op <;> rfl)

theorem limit?_eq : c.limit? = c.applied.findSome? Operator.count? :=
  congrArg (List.findSome? · _) (funext fun op => by cases op <;> rfl)

/-- The parts of a chain are what is read off it. -/
theorem madeOf_iff : c.MadeOf root conditions selector count ↔
    c.root = root ∧ c.filters = conditions ∧ c.projection? = selector ∧ c.limit? = count := by
  have hroot : c.walk.getLast? = some (.source root) ↔ c.root = root := by
    rw [walk, List.getLast?_concat, Option.some.injEq, Operator.source.injEq]
  have hconditions : c.walk.reverse.filterMap Operator.condition? = c.filters := by
    rw [walk, List.reverse_append, filters_eq]
    rfl
  have hlatest {α : Type} {part? : Operator → Option α} {a : Option α}
      (h : part? (.source c.root) = none) :
      Latest part? c.walk a ↔ c.applied.findSome? part? = a := by
    rw [Operator.latest_iff, walk, List.findSome?_append, List.findSome?_singleton, h,
      Option.or_none]
  rw [projection?_eq, limit?_eq]
  constructor
  · rintro ⟨hr, hc, hs, hn⟩
    exact ⟨hroot.1 hr, hconditions.symm.trans hc, (hlatest rfl).1 hs, (hlatest rfl).1 hn⟩
  · rintro ⟨hr, hc, hs, hn⟩
    exact ⟨hroot.2 hr, hconditions.trans hc, (hlatest rfl).2 hs, (hlatest rfl).2 hn⟩

theorem madeOf (c : Chain) : c.MadeOf c.root c.filters c.projection? c.limit? :=
  madeOf_iff.2 ⟨rfl, rfl, rfl, rfl⟩

/-- The conditions are those of all filters. -/
theorem MadeOf.mem_conditions_iff (h : c.MadeOf root conditions selector count) {e : Expr} :
    e ∈ conditions ↔ .filter e ∈ c.applied := by
  obtain ⟨-, rfl, -, -⟩ := madeOf_iff.1 h
  rw [filters_eq, List.mem_filterMap]
  constructor
  · rintro ⟨op, hop, he⟩
    cases op with
    | filter =>
      cases he
      exact List.mem_reverse.1 hop
    | source | project | limit => cases he
  · exact fun he => ⟨.filter e, List.mem_reverse.2 he, rfl⟩

end Chain

theorem Demo.Search.madeOf_winding :
    winding.MadeOf Users.type [startsWithA, ofAge] (some (.field "name")) (some 2) :=
  Chain.madeOf_iff.2 ⟨rfl, rfl, rfl, rfl⟩

/-! ## Patterns -/

/-- The text that a value has. -/
def Value.asText? (v : Value) : Option String :=
  match v.coerce .string with
  | .ok (.string s) => some s
  | _ => none

namespace Expr

/-- The value of an expression that is one. -/
def value? : Expr → Option Value
  | captured _ v | literal v => some v
  | _ => none

/-- The pattern that a call compares its receiver with: the text of its only argument,
    which may be followed by any other, and for `contains` also come after any other. -/
def pattern? (method : String) : List Expr → Option String
  | [arg] =>
    let text := arg.value?.bind Value.asText?
    if method = "starts_with" then text.map (· ++ "%")
    else if method = "contains" then text.map ("%" ++ · ++ "%")
    else none
  | _ => none

end Expr

namespace Predicate

theorem argumentText_eq_ok (method : String) {arg : Expr} {text : String} :
    argumentText method arg = .ok text ↔ arg.value?.bind Value.asText? = some text := by
  have value (v : Value) : argumentText method (.literal v) = .ok text ↔ v.asText? = some text := by
    simp only [argumentText, Value.asText?]
    split <;> simp_all
  cases arg with
  | captured name v | literal v => exact value v
  | field | binary | call | record => simp [argumentText, Expr.value?]

/-- A call that is taken apart has its own pattern. -/
theorem pattern_eq_ok {method : String} {args : List Expr} {text : String} :
    pattern method args = .ok text ↔ Expr.pattern? method args = some text := by
  have marked (f : String → String) (arg : Expr) (method : String) :
      (argumentText method arg).map f = .ok text ↔
        (arg.value?.bind Value.asText?).map f = some text := by
    rw [Option.map_eq_some_iff]
    simp only [← argumentText_eq_ok method]
    cases argumentText method arg <;> simp [Except.map]
  unfold pattern
  split
  · next arg => exact marked _ arg _
  · next arg => exact marked _ arg _
  · next hstart hcontain =>
    match args with
    | [] | _ :: _ :: _ => exact ⟨nofun, nofun⟩
    | [arg] =>
      rw [Expr.pattern?, if_neg fun h => hstart arg h rfl, if_neg fun h => hcontain arg h rfl]
      exact ⟨nofun, nofun⟩

theorem pattern?_of_error {method : String} {args : List Expr} {fault : ExpressionFault}
    (h : pattern method args = .error fault) : Expr.pattern? method args = none := by
  rw [Option.eq_none_iff_forall_ne_some]
  intro text htext
  cases h.symm.trans (pattern_eq_ok.2 htext)

end Predicate

end EntityQuery
