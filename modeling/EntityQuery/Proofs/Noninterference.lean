import EntityQuery.Demo.Search
import EntityQuery.Proofs.Sentence
import Mathlib.Tactic.ByContra
import Mathlib.Tactic.Push

/-!
# Noninterference

Values never get into the text of a statement. What is left of an expression or a
chain when its values are hidden is its *mask*: a value that stands under a name
and a literal have the same one, whatever they are. Two chains with one mask have
the same text and the same names of parameters, if both are translated
(`translate_noninterference`).

Whether a chain is translated depends on its values in one way only: the argument
of a method has to have a text, which null and bytes that are no UTF-8 have not
(`Expr.HasUnreadableArgument`).
-/

namespace EntityQuery

open Sql (Term)

namespace Value

/-- A value without a text. -/
inductive Unreadable : Value → Prop
  | null : Unreadable null
  | bytes {b : ByteArray} : ¬b.IsValidUTF8 → Unreadable (bytes b)

/-- A value is coerced to a text exactly if it has one. -/
theorem coerce_string_eq_ok_iff {v : Value} :
    (∃ s, v.coerce .string = .ok (string s)) ↔ ¬v.Unreadable := by
  simp only [coerce_eq_ok_iff]
  cases v with
  | null => exact ⟨nofun, fun h => absurd .null h⟩
  | bytes b =>
    have hb : convert (bytes b) .string = orReason .invalidUtf8 ((String.fromUTF8? b).map string) :=
      rfl
    simp only [hb, orReason_eq_ok_iff, String.fromUTF8?]
    split
    · next h =>
      refine ⟨fun _ hu => ?_, fun _ => ⟨_, rfl⟩⟩
      cases hu with
      | bytes hn => exact hn h
    · next h => exact ⟨nofun, fun hn => absurd (.bytes h) hn⟩
  | bool | int32 | int64 | float64 | string => exact ⟨fun _ => nofun, fun _ => ⟨_, rfl⟩⟩

end Value

namespace Expr

mutual

/-- What is left of an expression when its values are hidden. -/
def masked : Expr → Expr
  | field name => field name
  | captured .. | literal _ => literal .null
  | binary op left right => binary op left.masked right.masked
  | call method receiver args => call method receiver.masked (maskedArgs args)
  | record members => record (maskedMembers members)

/-- What is left of the arguments of a call. -/
def maskedArgs : List Expr → List Expr
  | [] => []
  | e :: es => e.masked :: maskedArgs es

/-- What is left of the members of a record. -/
def maskedMembers : List (String × Expr) → List (String × Expr)
  | [] => []
  | (name, e) :: ms => (name, e.masked) :: maskedMembers ms

end

/-- Whether a method compares texts. -/
def isTextMethod (method : String) : Bool := method == "starts_with" || method == "contains"

/-- Somewhere in a condition, a method that compares texts has an argument
    without a text. -/
inductive HasUnreadableArgument : Expr → Prop
  | here {method : String} {receiver arg : Expr} {args : List Expr} {v : Value} :
    isTextMethod method = true → arg ∈ args → arg.value? = some v → v.Unreadable →
    HasUnreadableArgument (call method receiver args)
  | receiver {method : String} {receiver : Expr} {args : List Expr} :
    HasUnreadableArgument receiver → HasUnreadableArgument (call method receiver args)
  | left {op : BinaryOp} {left right : Expr} :
    HasUnreadableArgument left → HasUnreadableArgument (binary op left right)
  | right {op : BinaryOp} {left right : Expr} :
    HasUnreadableArgument right → HasUnreadableArgument (binary op left right)

theorem masked_eq_literal_iff {e : Expr} {v : Value} :
    e.masked = literal v ↔ v = .null ∧ ∃ w, e.value? = some w := by
  cases e with
  | captured | literal => simp [masked, value?, eq_comm]
  | field | binary | call | record => simp [masked, value?]

theorem masked_eq_field_iff {e : Expr} {name : String} :
    e.masked = field name ↔ e = field name := by
  cases e <;> simp [masked]

theorem masked_eq_binary_iff {e l r : Expr} {op : BinaryOp} :
    e.masked = binary op l r ↔
      ∃ left right, e = binary op left right ∧ left.masked = l ∧ right.masked = r := by
  cases e with
  | binary => simp [masked, and_assoc]
  | field | captured | literal | call | record => simp [masked]

theorem masked_eq_call_iff {e r : Expr} {method : String} {as : List Expr} :
    e.masked = call method r as ↔
      ∃ receiver args, e = call method receiver args ∧ receiver.masked = r ∧
        maskedArgs args = as := by
  cases e with
  | call => simp [masked, and_assoc]
  | field | captured | literal | binary | record => simp [masked]

theorem masked_eq_record_iff {e : Expr} {ms : List (String × Expr)} :
    e.masked = record ms ↔ ∃ members, e = record members ∧ maskedMembers members = ms := by
  cases e <;> simp [masked]

theorem maskedArgs_eq_singleton_iff {es : List Expr} {a : Expr} :
    maskedArgs es = [a] ↔ ∃ e, es = [e] ∧ e.masked = a := by
  match es with
  | [] => simp [maskedArgs]
  | [e] => simp [maskedArgs]
  | e :: e' :: es => simp [maskedArgs]

end Expr

namespace Operator

/-- What is left of an operator when its values are hidden. -/
def masked : Operator → Operator
  | source entity => source entity
  | filter condition => filter condition.masked
  | project selector => project selector.masked
  | limit count => limit count

end Operator

namespace Chain

/-- What is left of a chain when its values are hidden. -/
def masked (c : Chain) : Chain := ⟨c.root, c.applied.map (·.masked)⟩

@[simp] theorem root_masked (c : Chain) : c.masked.root = c.root := rfl

theorem filters_masked (c : Chain) : c.masked.filters = c.filters.map (·.masked) := by
  simp only [filters, masked, ← List.map_reverse, List.filterMap_map, List.map_filterMap]
  congr 1
  funext op
  cases op <;> rfl

theorem projection?_masked (c : Chain) : c.masked.projection? = c.projection?.map (·.masked) := by
  obtain ⟨root, applied⟩ := c
  induction applied with
  | nil => rfl
  | cons op ops ih =>
    cases op with
    | project selector => rfl
    | source | filter | limit => exact ih

theorem limit?_masked (c : Chain) : c.masked.limit? = c.limit? := by
  obtain ⟨root, applied⟩ := c
  induction applied with
  | nil => rfl
  | cons op ops ih =>
    cases op with
    | limit count => rfl
    | source | filter | project => exact ih

end Chain

/-- The mask of a conjunction is the conjunction of the masks. -/
theorem Expr.conjunction?_map_masked (es : List Expr) :
    Expr.conjunction? (es.map (·.masked)) = (Expr.conjunction? es).map (·.masked) := by
  cases es with
  | nil => rfl
  | cons e es =>
    simp only [List.map_cons, conjunction?, Option.map_some, Option.some.injEq]
    induction es generalizing e with
    | nil => rfl
    | cons e' es ih =>
      rw [List.map_cons, List.foldl_cons, List.foldl_cons, ← ih]
      rfl

namespace Chain

variable {c₁ c₂ : Chain}

theorem projection?_of_masked (h : c₁.masked = c₂.masked) :
    c₁.projection?.map (·.masked) = c₂.projection?.map (·.masked) := by
  rw [← projection?_masked, h, projection?_masked]

theorem conjunction?_of_masked (h : c₁.masked = c₂.masked) :
    (Expr.conjunction? c₁.filters).map (·.masked) =
      (Expr.conjunction? c₂.filters).map (·.masked) := by
  rw [← Expr.conjunction?_map_masked, ← filters_masked, h, filters_masked,
    Expr.conjunction?_map_masked]

end Chain

/-- What the conditions of a conjunction are free of, the conjunction is free of. -/
theorem Expr.hasUnreadableArgument_of_conjunction? {es : List Expr} {e : Expr}
    (h : Expr.conjunction? es = some e) (he : e.HasUnreadableArgument) :
    ∃ e ∈ es, e.HasUnreadableArgument := by
  cases es with
  | nil => cases h
  | cons e₀ es =>
    cases h
    induction es generalizing e₀ with
    | nil => exact ⟨e₀, List.mem_singleton_self _, he⟩
    | cons e₁ es ih =>
      obtain ⟨e, hm, he⟩ := ih _ he
      -- The conjunction of the first two is a condition of the shorter list.
      rcases List.mem_cons.1 hm with rfl | hm
      · cases he with
        | left he => exact ⟨e₀, List.mem_cons_self, he⟩
        | right he => exact ⟨e₁, List.mem_cons_of_mem _ List.mem_cons_self, he⟩
      · exact ⟨e, List.mem_cons_of_mem _ (List.mem_cons_of_mem _ hm), he⟩

namespace Predicate

variable {m : Metadata}

/-- An argument has a text exactly if it is a value that has one. -/
theorem argumentText_eq_ok_iff {method : String} {e : Expr} :
    (∃ s, argumentText method e = .ok s) ↔ ∃ v, e.value? = some v ∧ ¬v.Unreadable := by
  have value (v : Value) :
      (∃ s, argumentText method (.literal v) = .ok s) ↔ ¬v.Unreadable := by
    rw [← Value.coerce_string_eq_ok_iff]
    simp only [argumentText]
    split
    · next s hs => simp [hs]
    · next hs =>
      constructor
      · rintro ⟨_, h⟩
        cases h
      · rintro ⟨s, h⟩
        exact absurd h (hs s)
  cases e with
  | captured name v | literal v =>
    simp only [Expr.value?, Option.some.injEq, exists_eq_left']
    exact value v
  | field | binary | call | record => simp [argumentText, Expr.value?]

/-- A call has a pattern exactly if its method compares texts and its only argument
    is a value that has one. -/
theorem pattern_eq_ok_iff {method : String} {args : List Expr} :
    (∃ s, pattern method args = .ok s) ↔
      Expr.isTextMethod method = true ∧
        ∃ arg v, args = [arg] ∧ arg.value? = some v ∧ ¬v.Unreadable := by
  have map {f : String → String} {arg : Expr} {method : String} :
      (∃ s, (argumentText method arg).map f = .ok s) ↔ ∃ s, argumentText method arg = .ok s := by
    cases argumentText method arg <;> simp [Except.map]
  simp only [pattern]
  split
  · next arg => simp [map, argumentText_eq_ok_iff, Expr.isTextMethod]
  · next arg => simp [map, argumentText_eq_ok_iff, Expr.isTextMethod]
  · next h₁ h₂ =>
    constructor
    · rintro ⟨_, ⟨⟩⟩
    · rintro ⟨hm, arg, v, rfl, -⟩
      simp only [Expr.isTextMethod, Bool.or_eq_true, beq_iff_eq] at hm
      rcases hm with rfl | rfl
      · exact absurd rfl (h₁ arg rfl)
      · exact absurd rfl (h₂ arg rfl)

/-- What a condition is lowered to is determined. -/
theorem Lowers.unique {e : Expr} {n : Nat} {t u : Term} {vs ws : List Value}
    (ht : Lowers m e n t vs) (hu : Lowers m e n u ws) : t = u ∧ vs = ws := by
  obtain ⟨ps, rfl⟩ : ∃ ps : List Parameter, ps.length = n :=
    ⟨List.replicate n ⟨"", .null⟩, List.length_replicate⟩
  have hps : ps.length = ps.length := rfl
  -- Both are what the same run leaves behind.
  have h := (ht.term_eq hps).symm.trans (hu.term_eq hps)
  simp only [Prod.mk.injEq, Except.ok.injEq, List.append_cancel_left_eq] at h
  refine ⟨h.1, ?_⟩
  rw [← map_value_numbered ps.length vs, h.2, map_value_numbered]

/-- What can be lowered has no argument without a text. -/
theorem Lowers.not_hasUnreadableArgument {e : Expr} {n : Nat} {t : Term} {vs : List Value}
    (h : Lowers m e n t vs) : ¬e.HasUnreadableArgument := by
  induction h with
  | field | captured | literal => rintro ⟨⟩
  | binary _ _ ihl ihr =>
    intro h
    cases h with
    | left h => exact ihl h
    | right h => exact ihr h
  | call hp _ ih =>
    intro h
    cases h with
    | receiver h => exact ih h
    | here _ ha hv hu =>
      obtain ⟨_, arg, v, rfl, hv', hn⟩ := pattern_eq_ok_iff.1 ⟨_, hp⟩
      rw [List.mem_singleton.1 ha, hv', Option.some.injEq] at hv
      exact hn (hv ▸ hu)

/-- What can be lowered can be lowered with other values too, to the same term,
    unless an argument has no text then. -/
theorem Lowers.of_masked {e e' : Expr} {n : Nat} {t : Term} {vs : List Value}
    (h : Lowers m e n t vs) (he : e.masked = e'.masked) (hu : ¬e'.HasUnreadableArgument) :
    ∃ vs', Lowers m e' n t vs' ∧ vs'.length = vs.length := by
  induction h generalizing e' with
  | field hb =>
    rw [Expr.masked, eq_comm, Expr.masked_eq_field_iff] at he
    subst he
    exact ⟨[], .field hb, rfl⟩
  | captured | literal =>
    rw [Expr.masked, eq_comm, Expr.masked_eq_literal_iff] at he
    obtain ⟨-, w, hw⟩ := he
    cases e' with
    | captured name v => exact ⟨[v], .captured, rfl⟩
    | literal v => exact ⟨[v], .literal, rfl⟩
    | field | binary | call | record => cases hw
  | @binary op left right n l r vs ws _ _ ihl ihr =>
    rw [Expr.masked, eq_comm, Expr.masked_eq_binary_iff] at he
    obtain ⟨left', right', rfl, hl, hr⟩ := he
    obtain ⟨vs', hv, hlen⟩ := ihl hl.symm fun h => hu (.left h)
    obtain ⟨ws', hw, hlen'⟩ := ihr hr.symm fun h => hu (.right h)
    rw [← hlen] at hw
    exact ⟨vs' ++ ws', .binary hv hw, by rw [List.length_append, List.length_append, hlen, hlen']⟩
  | @call method text receiver args n t vs hp _ ih =>
    rw [Expr.masked, eq_comm, Expr.masked_eq_call_iff] at he
    obtain ⟨receiver', args', rfl, hr, ha⟩ := he
    obtain ⟨vs', hv, hlen⟩ := ih hr.symm fun h => hu (.receiver h)
    obtain ⟨hm, arg, v, rfl, hv', -⟩ := pattern_eq_ok_iff.1 ⟨_, hp⟩
    obtain ⟨arg', rfl, harg⟩ := Expr.maskedArgs_eq_singleton_iff.1 ha
    -- The argument is a value on both sides, since both have one mask.
    have hval : ∃ w, arg'.value? = some w := by
      have := Expr.masked_eq_literal_iff.2 ⟨rfl, v, hv'⟩
      exact (Expr.masked_eq_literal_iff.1 (harg.trans this)).2
    obtain ⟨w, hw⟩ := hval
    obtain ⟨text', hp'⟩ := pattern_eq_ok_iff.2
      ⟨hm, arg', w, rfl, hw, fun h => hu (.here hm (List.mem_singleton_self _) hw h)⟩
    rw [← hlen]
    exact ⟨vs' ++ [.string text'], .call hp' hv, by simp [hlen]⟩

/-- What shows of the predicates of two conditions with one mask is the same: the text
    and the names of the parameters. -/
theorem IsOf.visible_eq {e₁ e₂ : Option Expr} {q₁ q₂ : Option Predicate} (h₁ : IsOf m e₁ q₁)
    (h₂ : IsOf m e₂ q₂) (he : e₁.map (·.masked) = e₂.map (·.masked)) :
    q₁.map (fun q => (q.sql, q.parameters.map (·.name))) =
      q₂.map (fun q => (q.sql, q.parameters.map (·.name))) := by
  cases h₁ with
  | none =>
    cases h₂ with
    | none => rfl
    | some => cases he
  | some hl =>
    cases h₂ with
    | none => cases he
    | some hl' =>
      obtain ⟨vs, hv, hlen⟩ := hl.of_masked (Option.some.inj he) hl'.not_hasUnreadableArgument
      obtain ⟨rfl, rfl⟩ := hl'.unique hv
      simp only [Option.map_some, map_name_numbered, hlen]

/-- A condition has a predicate if another one with its mask has, unless an argument
    has no text in it. -/
theorem IsOf.of_masked {e₁ e₂ : Option Expr} {q₁ : Option Predicate} (h₁ : IsOf m e₁ q₁)
    (he : e₁.map (·.masked) = e₂.map (·.masked))
    (hu : ∀ e, e₂ = Option.some e → ¬e.HasUnreadableArgument) : ∃ q₂, IsOf m e₂ q₂ := by
  cases h₁ with
  | none =>
    cases e₂ with
    | none => exact ⟨_, .none⟩
    | some => cases he
  | some hl =>
    cases e₂ with
    | none => cases he
    | some e₂ =>
      obtain ⟨vs, hv, -⟩ := hl.of_masked (Option.some.inj he) (hu e₂ rfl)
      exact ⟨_, .some hv⟩

end Predicate

namespace Plan

variable {m : Metadata}

/-- The members of a record are selected by what is left of it. -/
theorem selectMembers_of_masked {ms ms' : List (String × Expr)} {ss : List Selection}
    (h : selectMembers m ms = .ok ss) (hm : Expr.maskedMembers ms = Expr.maskedMembers ms') :
    selectMembers m ms' = .ok ss := by
  fun_induction selectMembers m ms generalizing ms' ss with
  | case1 =>
    cases ms' with
    | nil => exact h
    | cons => cases hm
  | case4 target name rest s hs others ho ih =>
    cases h
    cases ms' with
    | nil => cases hm
    | cons member' rest' =>
      obtain ⟨target', e⟩ := member'
      simp only [Expr.maskedMembers, List.cons.injEq, Prod.mk.injEq] at hm
      obtain ⟨⟨rfl, he⟩, hr⟩ := hm
      rw [Expr.masked, eq_comm, Expr.masked_eq_field_iff] at he
      subst he
      simp only [selectMembers, hs, ih ho hr]
  | case2 | case3 | case5 => cases h

/-- What is selected depends only on what is left of the selector. -/
theorem output_of_masked {s s' : Option Expr} {r : List Selection × Shape}
    (h : output m s = .ok r) (hs : s.map (·.masked) = s'.map (·.masked)) :
    output m s' = .ok r := by
  rw [output_eq_ok_iff] at h ⊢
  generalize r.1 = ss at h ⊢
  generalize r.2 = shape at h ⊢
  cases h with
  | entity =>
    rw [Option.map_none, eq_comm, Option.map_eq_none_iff] at hs
    exact hs ▸ .entity
  | value hsel =>
    rw [Option.map_some, eq_comm, Option.map_eq_some_iff] at hs
    obtain ⟨e, rfl, he⟩ := hs
    rw [Expr.masked, Expr.masked_eq_field_iff] at he
    exact he ▸ .value hsel
  | @record ms ss hne hss =>
    rw [Option.map_some, eq_comm, Option.map_eq_some_iff] at hs
    obtain ⟨e, rfl, he⟩ := hs
    rw [Expr.masked, Expr.masked_eq_record_iff] at he
    obtain ⟨ms', rfl, hm⟩ := he
    refine .record ?_ (selectMembers_of_masked hss hm.symm)
    rintro rfl
    obtain ⟨⟨_, _⟩, _, rfl⟩ := List.exists_cons_of_ne_nil hne
    cases hm

/-- The statements of two chains with one mask have the same text and the same names
    of parameters. -/
theorem IsOf.render_eq {c₁ c₂ : Chain} {p₁ p₂ : Plan} (hc : c₁.masked = c₂.masked)
    (h₁ : IsOf m c₁ p₁) (h₂ : IsOf m c₂ p₂) :
    p₁.render.sql = p₂.render.sql ∧
      p₁.render.parameters.map (·.name) = p₂.render.parameters.map (·.name) := by
  have hsel : p₁.selection = p₂.selection := by
    have := h₂.output.symm.trans (output_of_masked h₁.output (Chain.projection?_of_masked hc))
    exact (congrArg Prod.fst (Except.ok.inj this)).symm
  have hlim : p₁.limit = p₂.limit := by
    rw [h₁.limit, h₂.limit, ← Chain.limit?_masked, hc, Chain.limit?_masked]
  have hp := h₁.predicate.visible_eq h₂.predicate (Chain.conjunction?_of_masked hc)
  simp only [render, columnNames, sourceText, conditionText, limitText, h₁.metadata, h₂.metadata,
    hsel, hlim]
  generalize p₁.predicate = q₁ at hp ⊢
  generalize p₂.predicate = q₂ at hp ⊢
  rcases q₁ with _ | q₁ <;> rcases q₂ with _ | q₂
  · exact ⟨rfl, rfl⟩
  · cases hp
  · cases hp
  · obtain ⟨hs, hn⟩ := Prod.mk.inj (Option.some.inj hp)
    exact ⟨by simp only [hs], hn⟩

/-- A chain has a plan if another one with its mask has, unless an argument has no
    text in it. -/
theorem IsOf.of_masked {c₁ c₂ : Chain} {p₁ : Plan} (hc : c₁.masked = c₂.masked)
    (h₁ : IsOf m c₁ p₁) (hu : ∀ e ∈ c₂.filters, ¬e.HasUnreadableArgument) :
    ∃ p₂, IsOf m c₂ p₂ := by
  have hout := output_of_masked h₁.output (Chain.projection?_of_masked hc)
  obtain ⟨q, hq⟩ := h₁.predicate.of_masked (Chain.conjunction?_of_masked hc) fun e he hn => by
    obtain ⟨e, he, hn⟩ := Expr.hasUnreadableArgument_of_conjunction? he hn
    exact hu e he hn
  exact ⟨⟨c₂.root, some m, p₁.selection, p₁.shape, q, c₂.limit?⟩, rfl, rfl, hout, hq, rfl⟩

end Plan

variable {σ : Type}

/-- Values never influence the text of a statement. Two chains that differ only in the
    values of literals and of captured values, in the names of the latter, and in which
    of the two a value is, have the same text and the same names of parameters if both
    are translated; and one of them is translated without the other only if an argument
    of a method has no text in that other one. -/
theorem World.translate_noninterference {w : World σ} {c₁ c₂ : Chain}
    (h : c₁.masked = c₂.masked) :
    (∀ p₁ p₂, (w.translate c₁).1 = .ok p₁ → (w.translate c₂).1 = .ok p₂ →
      p₁.render.sql = p₂.render.sql ∧
        p₁.render.parameters.map (·.name) = p₂.render.parameters.map (·.name)) ∧
    (∀ p₁ err, (w.translate c₁).1 = .ok p₁ → (w.translate c₂).1 = .error err →
      ∃ e ∈ c₂.filters, e.HasUnreadableArgument) := by
  have hroot : c₁.root = c₂.root := by
    rw [← Chain.root_masked, h, Chain.root_masked]
  constructor
  · intro p₁ p₂ h₁ h₂
    obtain ⟨m₁, hm₁, h₁⟩ := translate_eq_ok_iff.1 h₁
    obtain ⟨m₂, hm₂, h₂⟩ := translate_eq_ok_iff.1 h₂
    rw [hroot, hm₂] at hm₁
    cases hm₁
    exact h₁.render_eq h h₂
  · intro p₁ err h₁ h₂
    obtain ⟨m, hm, h₁⟩ := translate_eq_ok_iff.1 h₁
    by_contra hu
    push Not at hu
    obtain ⟨p₂, hp⟩ := h₁.of_masked h hu
    have : (w.translate c₂).1 = .ok p₂ := translate_eq_ok_iff.2 ⟨m, hroot ▸ hm, hp⟩
    rw [h₂] at this
    cases this

namespace Demo.Search

theorem translate_noninterference_hostile :
    (quiet.masked = hostile.masked ∧
      ∃ p₁ p₂, (world.translate quiet).1 = .ok p₁ ∧ (world.translate hostile).1 = .ok p₂ ∧
        p₁.render.sql = p₂.render.sql ∧
        p₁.render.parameters.map (·.name) = p₂.render.parameters.map (·.name)) ∧
    quiet.masked = nameless.masked ∧
      ∃ err, (world.translate nameless).1 = .error err ∧
        ∃ e ∈ nameless.filters, e.HasUnreadableArgument := by
  have hostile_eq : quiet.masked = hostile.masked := rfl
  have nameless_eq : quiet.masked = nameless.masked := rfl
  refine ⟨⟨hostile_eq, _, _, rfl, rfl, ?_⟩, nameless_eq, _, rfl, ?_⟩
  · exact (World.translate_noninterference (w := world) hostile_eq).1 _ _ rfl rfl
  · exact (World.translate_noninterference (w := world) nameless_eq).2 _ _ rfl rfl

end Demo.Search

end EntityQuery
