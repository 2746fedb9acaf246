import EntityQuery.Proofs.Composition
import EntityQuery.Query.Statement
import EntityQuery.Session.World

/-!
# Lowering

What the translation of a chain amounts to, said once, so that nothing else has
to take `Predicate.term`, `Predicate.conjoin` or `Plan.ofChain` apart.

A condition is *lowered* to a term (`Lowers`): its fields become columns, and its
values become placeholders, numbered from a given number in the order in which
they are met, from left to right; for the call of a method the pattern is the
value, and its placeholder comes after those of the receiver. The values that
left the text are kept beside the term, in the same order.

* `lowers_of_term_eq`, `Lowers.term_eq`: a condition is taken apart with success exactly
  if it can be lowered, and the parameters grow by the values that left it;
* `conjoin_eq`: the conditions of a chain are conjoined as their left-nested
  conjunction (`Expr.conjunction?`) is compiled, faults included;
* `Plan.ofChain_eq_ok_iff`: what the plan of a chain is made of (`Plan.IsOf`).
-/

namespace EntityQuery

open Sql (Term)

/-- The conjunction of conditions, if there are any: each one is connected with
    all of those before it. -/
def Expr.conjunction? : List Expr → Option Expr
  | [] => none
  | e :: es => some (es.foldl (.binary .and) e)

namespace Predicate

/-- The parameters of values, numbered from `n` on. -/
def numbered (n : Nat) : List Value → List Parameter
  | [] => []
  | v :: vs => ⟨placeholder n, v⟩ :: numbered (n + 1) vs

@[simp] theorem numbered_nil (n : Nat) : numbered n [] = [] := rfl

@[simp] theorem length_numbered (n : Nat) (vs : List Value) :
    (numbered n vs).length = vs.length := by
  induction vs generalizing n with
  | nil => rfl
  | cons v vs ih => simp [numbered, ih]

theorem numbered_append (n : Nat) (vs ws : List Value) :
    numbered n (vs ++ ws) = numbered n vs ++ numbered (n + vs.length) ws := by
  induction vs generalizing n with
  | nil => simp
  | cons v vs ih =>
    rw [List.cons_append, numbered, numbered, ih, List.cons_append, List.length_cons,
      Nat.add_assoc, Nat.add_comm 1]

theorem map_name_numbered (n : Nat) (vs : List Value) :
    (numbered n vs).map (·.name) = (List.range' n vs.length).map placeholder := by
  induction vs generalizing n with
  | nil => rfl
  | cons v vs ih => simp [numbered, ih, List.range'_succ]

theorem map_value_numbered (n : Nat) (vs : List Value) :
    (numbered n vs).map (·.value) = vs := by
  induction vs generalizing n with
  | nil => rfl
  | cons v vs ih => simp [numbered, ih]

/-- The condition `e` is lowered to the term `t` with placeholders numbered from
    `n` on, and the values `vs` left its text. -/
inductive Lowers (m : Metadata) : Expr → Nat → Term → List Value → Prop
  | field {name : String} {b : ColumnBinding} {n : Nat} :
    m.column? name = some b → Lowers m (.field name) n (.column b.column) []
  | captured {name : String} {v : Value} {n : Nat} :
    Lowers m (.captured name v) n (.parameter (placeholder n)) [v]
  | literal {v : Value} {n : Nat} :
    Lowers m (.literal v) n (.parameter (placeholder n)) [v]
  | binary {op : BinaryOp} {left right : Expr} {n : Nat} {l r : Term} {vs ws : List Value} :
    Lowers m left n l vs → Lowers m right (n + vs.length) r ws →
    Lowers m (.binary op left right) n (.binary op l r) (vs ++ ws)
  | call {method text : String} {receiver : Expr} {args : List Expr} {n : Nat} {t : Term}
      {vs : List Value} :
    pattern method args = .ok text → Lowers m receiver n t vs →
    Lowers m (.call method receiver args) n
      (.like t (.parameter (placeholder (n + vs.length)))) (vs ++ [.string text])

variable {m : Metadata}

/-- Taking apart what can be lowered succeeds. -/
theorem Lowers.term_eq {e : Expr} {n : Nat} {t : Term} {vs : List Value} (h : Lowers m e n t vs)
    {ps : List Parameter} (hn : ps.length = n) :
    term m e ps = (.ok t, ps ++ numbered n vs) := by
  induction h generalizing ps with
  | field h => simp [term, h]
  | captured | literal => simp [term, place, numbered, hn]
  | @binary op left right n l r vs ws _ _ ihl ihr =>
    have hr : term m right (ps ++ numbered n vs) = (.ok r, ps ++ numbered n (vs ++ ws)) := by
      rw [ihr (by simp [hn]), numbered_append, List.append_assoc]
    simp only [term, ihl hn, hr]
  | @call method text receiver args n t vs hp _ ih =>
    -- The pattern is known before the receiver, but its place is taken after it.
    have hl : (ps ++ numbered n vs).length = n + vs.length := by simp [hn]
    simp only [term, hp, ih hn, place, hl, numbered_append, List.append_assoc]
    rfl

/-- What was taken apart with success can be lowered. -/
theorem lowers_of_term_eq {e : Expr} {ps qs : List Parameter} {t : Term}
    (h : term m e ps = (.ok t, qs)) :
    ∃ vs, Lowers m e ps.length t vs ∧ qs = ps ++ numbered ps.length vs := by
  fun_induction term m e ps generalizing t qs with
  | case1 ps name b hb =>
    cases h
    exact ⟨[], .field hb, (List.append_nil _).symm⟩
  | case3 name v ps =>
    cases h
    exact ⟨[v], .captured, rfl⟩
  | case4 v ps =>
    cases h
    exact ⟨[v], .literal, rfl⟩
  | case7 op left right ps l qs₁ hl r qs₂ hr ihl ihr =>
    cases h
    obtain ⟨vs, hv, rfl⟩ := ihl hl
    obtain ⟨ws, hw, rfl⟩ := ihr hr
    simp only [List.length_append, length_numbered] at hw ⊢
    refine ⟨vs ++ ws, .binary hv hw, ?_⟩
    rw [numbered_append, List.append_assoc]
  | case10 ps method receiver args text hp t' qs' ht ih =>
    cases h
    obtain ⟨vs, hv, rfl⟩ := ih ht
    refine ⟨vs ++ [.string text], ?_, ?_⟩
    · simp only [place, List.length_append, length_numbered]
      exact .call hp hv
    · simp only [place, List.length_append, length_numbered, numbered_append, List.append_assoc]
      rfl
  -- What is left are the refusals.
  | case2 | case5 | case6 | case8 | case9 | case11 => cases h

/-- A predicate is compiled with success exactly from what can be lowered. -/
theorem compile_eq_ok_iff {e : Expr} {p : Predicate} :
    compile m e = .ok p ↔ ∃ t vs, Lowers m e 0 t vs ∧ p = ⟨t.sql, numbered 0 vs⟩ := by
  constructor
  · intro h
    simp only [compile, fragment] at h
    split at h
    · cases h
    · next sql ps hf =>
      cases h
      split at hf
      · cases hf
      · next t qs ht =>
        cases hf
        obtain ⟨vs, hv, rfl⟩ := lowers_of_term_eq ht
        exact ⟨t, vs, hv, rfl⟩
  · rintro ⟨t, vs, hv, rfl⟩
    have ht : term m e [] = (.ok t, numbered 0 vs) := hv.term_eq rfl
    simp only [compile, fragment, ht]

/-! ## Conjunctions -/

/-- The fragment of a connective, by those of its sides. -/
theorem fragment_and (left right : Expr) (ps : List Parameter) :
    fragment m (.binary .and left right) ps =
      match fragment m left ps with
      | (.error err, ps) => (.error err, ps)
      | (.ok l, ps) =>
        match fragment m right ps with
        | (.error err, ps) => (.error err, ps)
        | (.ok r, ps) => (.ok ("(" ++ l ++ " AND " ++ r ++ ")"), ps) := by
  simp only [fragment, term]
  rcases term m left ps with ⟨_ | l, ps₁⟩
  · rfl
  · dsimp only
    rcases term m right ps₁ with ⟨_ | r, ps₂⟩
    · rfl
    · have hs (a b : String) : a ++ " " ++ "AND" ++ " " ++ b = a ++ " AND " ++ b := by
        simp only [String.append_assoc]
        rfl
      simp only [Term.sql, BinaryOp.symbol, hs]

/-- What a condition is refused for, its conjunction with others is refused for. -/
theorem compile_foldl_of_error {e : Expr} {err : Error} (h : compile m e = .error err)
    (es : List Expr) : compile m (es.foldl (.binary .and) e) = .error err := by
  induction es generalizing e with
  | nil => exact h
  | cons e' es ih =>
    refine ih ?_
    rw [compile] at h ⊢
    rw [fragment_and]
    rcases hf : fragment m e [] with ⟨_ | sql, ps⟩
    · rw [hf] at h
      cases h
      rfl
    · rw [hf] at h
      cases h

/-- Conditions are conjoined with one that was compiled as the conjunction of them
    all is compiled. -/
theorem conjoinWith_eq {e : Expr} {p : Predicate} (h : compile m e = .ok p) (es : List Expr) :
    conjoinWith m p es = compile m (es.foldl (.binary .and) e) := by
  induction es generalizing e p with
  | nil => exact h.symm
  | cons e' es ih =>
    have hf : fragment m e [] = (.ok p.sql, p.parameters) := by
      simp only [compile] at h
      split at h
      · cases h
      · next hf =>
        cases h
        exact hf
    -- The next condition starts from the parameters of those before, as the right side of
    -- a connective does.
    have hc := fragment_and (m := m) e e' []
    simp only [hf] at hc
    simp only [conjoinWith, List.foldl_cons]
    rcases h' : fragment m e' p.parameters with ⟨err | sql, ps⟩
    · rw [h'] at hc
      refine (compile_foldl_of_error ?_ es).symm
      simp only [compile, hc]
    · rw [h'] at hc
      refine ih ?_
      simp only [compile, hc]

/-- The conditions of a chain are conjoined as their conjunction is compiled. -/
theorem conjoin_eq (m : Metadata) (es : List Expr) :
    conjoin m es =
      match Expr.conjunction? es with
      | none => .ok none
      | some e => (compile m e).map some := by
  cases es with
  | nil => rfl
  | cons e es =>
    simp only [conjoin, Expr.conjunction?]
    rcases h : compile m e with err | p
    · rw [compile_foldl_of_error h]
      rfl
    · dsimp only
      rw [conjoinWith_eq h]

/-- A predicate, if there is one, is what a condition was lowered to, if there is
    one. -/
inductive IsOf (m : Metadata) : Option Expr → Option Predicate → Prop
  | none : IsOf m none none
  | some {e : Expr} {t : Term} {vs : List Value} :
    Lowers m e 0 t vs → IsOf m (some e) (some ⟨t.sql, numbered 0 vs⟩)

/-- Conditions are conjoined with success exactly to what their conjunction is
    lowered to. -/
theorem conjoin_eq_ok_iff {es : List Expr} {p : Option Predicate} :
    conjoin m es = .ok p ↔ IsOf m (Expr.conjunction? es) p := by
  rw [conjoin_eq]
  rcases Expr.conjunction? es with _ | e
  · constructor
    · rintro h
      cases h
      exact .none
    · rintro ⟨⟩
      rfl
  · dsimp only
    constructor
    · intro h
      rcases hc : compile m e with err | q
      · rw [hc] at h
        cases h
      · rw [hc] at h
        cases h
        obtain ⟨t, vs, hv, rfl⟩ := compile_eq_ok_iff.1 hc
        exact .some hv
    · rintro ⟨⟩
      next t vs hv =>
        rw [compile_eq_ok_iff.2 ⟨t, vs, hv, rfl⟩]
        rfl

end Predicate

/-! ## Plans -/

/-- What the plan of a chain is made of. -/
structure Plan.IsOf (m : Metadata) (c : Chain) (p : Plan) : Prop where
  entity : p.entity = c.root
  metadata : p.metadata = some m
  output : Plan.output m c.projection? = .ok (p.selection, p.shape)
  predicate : Predicate.IsOf m (Expr.conjunction? c.filters) p.predicate
  limit : p.limit = c.limit?

/-- A chain has the plan that its parts make, and no other. -/
theorem Plan.ofChain_eq_ok_iff {m : Metadata} {c : Chain} {p : Plan} :
    Plan.ofChain m c = .ok p ↔ Plan.IsOf m c p := by
  constructor
  · intro h
    simp only [ofChain] at h
    split at h
    · cases h
    · next hp =>
      split at h
      · cases h
      · next ho =>
        cases h
        exact ⟨rfl, rfl, ho, Predicate.conjoin_eq_ok_iff.1 hp, rfl⟩
  · rintro ⟨he, hm, ho, hp, hl⟩
    rw [ofChain, Predicate.conjoin_eq_ok_iff.2 hp]
    simp only [ho]
    obtain ⟨_, _, _, _, _, _⟩ := p
    simp_all

variable {σ : Type}

/-- A chain is translated with success exactly if its entity type has metadata, by
    which it has a plan. -/
theorem World.translate_eq_ok_iff {w : World σ} {c : Chain} {p : Plan} :
    (w.translate c).1 = .ok p ↔ ∃ m, (w.resolve c.root).1 = .ok m ∧ Plan.IsOf m c p := by
  simp only [translate, ← Plan.ofChain_eq_ok_iff]
  rcases w.resolve c.root with ⟨e | m, w'⟩
  · simp
  · simp only [Except.ok.injEq, exists_eq_left']
    cases Plan.ofChain m c <;> rfl

/-- A chain is translated to the plan that the metadata of its entity type gives it. -/
theorem World.isOf_of_translate {w : World σ} {m : Metadata} {c : Chain} {p : Plan}
    (hm : (w.resolve c.root).1 = .ok m) (hp : (w.translate c).1 = .ok p) : Plan.IsOf m c p := by
  obtain ⟨m', hm', h⟩ := translate_eq_ok_iff.1 hp
  cases hm.symm.trans hm'
  exact h

end EntityQuery
