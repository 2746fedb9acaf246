import EntityQuery.Demo.Search
import EntityQuery.Proofs.Lowering

/-!
# The order of operators

A chain comes down to what it is made of (`Chain.MadeOf`): its root, its conditions, and
its latest selector and count. How the operators are interleaved, which projections and
limits were overridden, and which sources were pushed on the way does not matter.

* `World.translate_eq_of_madeOf`: chains that come down to the same are translated to the
  same;
* `World.translate_conjunction`: nor does it matter whether conditions are given one by
  one or as their conjunction, even if one of them is refused.
-/

namespace EntityQuery

/-- Metadata make the same plan, or the same fault, of chains with the same parts. -/
theorem Plan.ofChain_congr {m : Metadata} {c₁ c₂ : Chain} (hr : c₁.root = c₂.root)
    (hf : Predicate.conjoin m c₁.filters = Predicate.conjoin m c₂.filters)
    (hp : c₁.projection? = c₂.projection?) (hl : c₁.limit? = c₂.limit?) :
    ofChain m c₁ = ofChain m c₂ := by
  rw [ofChain, ofChain, hr, hf, hp, hl]

namespace World

variable {σ τ : Type}

/-- The metadata of a type only depend on the catalogue. -/
theorem resolve_congr {w₁ : World σ} {w₂ : World τ} (hw : w₁.catalogue = w₂.catalogue)
    (t : EntityType) : (w₁.resolve t).1 = (w₂.resolve t).1 := by
  rw [resolve, resolve, hw]
  rcases w₂.catalogue.resolve t with ⟨_ | _, _⟩ <;> rfl

/-- Over one catalogue, chains that come down to the same root, conditions, selector and
    count have the same plan or are refused for the same; the plan is one for the root. -/
theorem translate_eq_of_madeOf {w₁ : World σ} {w₂ : World τ} {c₁ c₂ : Chain} {root : EntityType}
    {conditions : List Expr} {selector : Option Expr} {count : Option UInt32}
    (hw : w₁.catalogue = w₂.catalogue) (h₁ : c₁.MadeOf root conditions selector count)
    (h₂ : c₂.MadeOf root conditions selector count) :
    (w₁.translate c₁).1 = (w₂.translate c₂).1 ∧
      ∀ p, (w₁.translate c₁).1 = .ok p → p.entity = root := by
  obtain ⟨rfl, rfl, rfl, rfl⟩ := Chain.madeOf_iff.1 h₁
  obtain ⟨hr, hf, hp, hl⟩ := Chain.madeOf_iff.1 h₂
  constructor
  · have hm := resolve_congr hw c₁.root
    have hplan (m : Metadata) : Plan.ofChain m c₁ = Plan.ofChain m c₂ :=
      (Plan.ofChain_congr hr (congrArg _ hf) hp hl).symm
    rw [translate, translate, hr]
    generalize w₁.resolve c₁.root = r₁ at hm
    generalize w₂.resolve c₁.root = r₂ at hm
    obtain ⟨_ | m, _⟩ := r₁ <;> obtain ⟨_ | _, _⟩ := r₂ <;> cases hm
    · rfl
    · simp only [hplan]
      cases Plan.ofChain m c₂ <;> rfl
  · intro p hp
    obtain ⟨m, -, h⟩ := translate_eq_ok_iff.1 hp
    exact h.entity

end World

namespace Demo.Search

/-- The chain without what was overridden. -/
def straight : Chain :=
  ⟨Users.type, [.project (.field "name"), .limit 2, .filter ofAge, .filter startsWithA]⟩

theorem translate_winding_eq_straight :
    world.catalogue = library.catalogue ∧
      winding.MadeOf Users.type [startsWithA, ofAge] (some (.field "name")) (some 2) ∧
      straight.MadeOf Users.type [startsWithA, ofAge] (some (.field "name")) (some 2) ∧
      (world.translate winding).1 = (library.translate straight).1 ∧
      ∃ p, (world.translate winding).1 = .ok p ∧ p.entity = Users.type := by
  have hw := madeOf_winding
  have hs : straight.MadeOf Users.type [startsWithA, ofAge] (some (.field "name")) (some 2) :=
    Chain.madeOf_iff.2 ⟨rfl, rfl, rfl, rfl⟩
  obtain ⟨heq, hroot⟩ :=
    World.translate_eq_of_madeOf (show world.catalogue = library.catalogue from rfl) hw hs
  exact ⟨rfl, hw, hs, heq, _, rfl, hroot _ rfl⟩

end Demo.Search

/-! ## One conjunction -/

/-- The operators that do not filter have the parts that conditions do not have. -/
theorem Operator.findSome?_others {α : Type} {part? : Operator → Option α}
    (h : ∀ e, part? (.filter e) = none) (ops : List Operator) :
    (ops.filter (·.condition?.isNone)).findSome? part? = ops.findSome? part? := by
  induction ops with
  | nil => rfl
  | cons op ops ih =>
    cases op with
    | filter e => rw [List.findSome?_cons, h, ← ih]; rfl
    | source | project | limit =>
      rw [List.filter_cons_of_pos rfl, List.findSome?_cons, List.findSome?_cons, ih]

namespace Chain

variable {c : Chain} {later earlier : List Operator}

/-- A part that conditions do not have is found in a chain as it is found when one
    condition stands for all of them. -/
theorem findSome?_conjunction {α : Type} {part? : Operator → Option α}
    (h : ∀ e, part? (.filter e) = none)
    (ho : c.applied.filter (·.condition?.isNone) = later ++ earlier) (e : Expr) :
    (later ++ .filter e :: earlier).findSome? part? = c.applied.findSome? part? := by
  rw [← Operator.findSome?_others h c.applied, ho, List.findSome?_append, List.findSome?_append,
    List.findSome?_cons, h]

/-- If one condition stands for all of them, it is the only one. -/
theorem filters_conjunction
    (ho : c.applied.filter (·.condition?.isNone) = later ++ earlier) (e : Expr) :
    filters ⟨c.root, later ++ .filter e :: earlier⟩ = [e] := by
  have hothers : ∀ op ∈ later ++ earlier, op.condition? = none := by
    rw [← ho]
    exact fun op hop => Option.isNone_iff_eq_none.1 (List.mem_filter.1 hop).2
  have hnone {ops : List Operator} (h : ∀ op ∈ ops, op.condition? = none) :
      ops.reverse.filterMap Operator.condition? = [] :=
    List.filterMap_eq_nil_iff.2 fun op hop => h op (List.mem_reverse.1 hop)
  rw [filters_eq, List.reverse_append, List.reverse_cons, List.filterMap_append,
    List.filterMap_append, hnone fun op hop => hothers op (List.mem_append_left _ hop),
    hnone fun op hop => hothers op (List.mem_append_right _ hop)]
  rfl

end Chain

/-- A conjunction is conjoined as its conditions are. -/
theorem Predicate.conjoin_conjunction (m : Metadata) (e : Expr) (es : List Expr) :
    conjoin m [es.foldl (.binary .and) e] = conjoin m (e :: es) := by
  rw [conjoin_eq, conjoin_eq]
  rfl

namespace World

variable {σ : Type}

/-- In a chain, one filter by the conjunction of all conditions, wherever it stands among
    the other operators, can take the place of the filters: the chain is translated to the
    same plan or refused for the same, and it leaves the same world. -/
theorem translate_conjunction {w : World σ} {c : Chain} {later earlier : List Operator}
    {e : Expr} {es : List Expr} (hf : c.filters = e :: es)
    (ho : c.applied.filter (·.condition?.isNone) = later ++ earlier) :
    w.translate ⟨c.root, later ++ .filter (es.foldl (.binary .and) e) :: earlier⟩ =
      w.translate c := by
  have hplan (m : Metadata) :
      Plan.ofChain m ⟨c.root, later ++ .filter (es.foldl (.binary .and) e) :: earlier⟩ =
        Plan.ofChain m c := by
    refine Plan.ofChain_congr rfl ?_ ?_ ?_
    · rw [Chain.filters_conjunction ho, hf]
      exact Predicate.conjoin_conjunction m e es
    · rw [Chain.projection?_eq, Chain.projection?_eq]
      exact Chain.findSome?_conjunction (fun _ => rfl) ho _
    · rw [Chain.limit?_eq, Chain.limit?_eq]
      exact Chain.findSome?_conjunction (fun _ => rfl) ho _
  rw [translate, translate]
  simp only [hplan]

end World

namespace Demo.Search

/-- The chain `winding` with one filter for both of its conditions. -/
def joined : Chain :=
  ⟨Users.type, [.limit 2, .project (.field "name"), .source ⟨"Order"⟩,
    .filter (.binary .and startsWithA ofAge), .project (.field "salary"), .limit 5]⟩

theorem translate_joined_eq_winding :
    winding.filters = [startsWithA, ofAge] ∧
      winding.applied.filter (·.condition?.isNone) =
        [.limit 2, .project (.field "name"), .source ⟨"Order"⟩] ++
          [.project (.field "salary"), .limit 5] ∧
      world.translate joined = world.translate winding := by
  have ho : winding.applied.filter (·.condition?.isNone) =
      [.limit 2, .project (.field "name"), .source ⟨"Order"⟩] ++
        [.project (.field "salary"), .limit 5] := rfl
  exact ⟨rfl, ho, World.translate_conjunction (c := winding) rfl ho⟩

end Demo.Search

end EntityQuery
