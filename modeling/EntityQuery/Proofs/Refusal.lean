import EntityQuery.Proofs.Noninterference

/-!
# Refusals

Which chains are translated, and what the others are refused for. A condition is
*supported* if its fields are stored and its calls compare with a text
(`Expr.Supported`), and a selector is *selectable* if it is made of stored fields
(`Expr.Selectable`).

Whatever else there may be in a condition is a fault of it. All faults of the parts that a
chain is made of are listed in one order (`Expr.faultsOf`): those of the conditions from
the source on, each read from left to right and a call before its receiver, then those of
the projection. A chain without metadata is refused for that, and any other for the first
of its faults; where there is none, it is translated, and the predicate of the plan is
made of all its conditions (`World.translate_refusals`).
-/

namespace EntityQuery

/-- A value either has a text or has none. -/
instance Value.decidableUnreadable : (v : Value) → Decidable v.Unreadable
  | .null => isTrue .null
  | .bytes b => decidable_of_iff (¬b.IsValidUTF8) ⟨.bytes, fun | .bytes h => h⟩
  | .bool _ | .int32 _ | .int64 _ | .float64 _ | .string _ => isFalse nofun

/-- Whether a field is stored. -/
def Metadata.Stores (m : Metadata) (name : String) : Prop := name ∈ m.columns.map (·.field)

instance Metadata.decidableStores (m : Metadata) (name : String) : Decidable (m.Stores name) :=
  inferInstanceAs (Decidable (name ∈ m.columns.map (·.field)))

/-- What a result failed for, if it did. -/
def fault? {ε α : Type} : Except ε α → Option ε
  | .error e => some e
  | .ok _ => none

namespace Expr

/-- A condition that a store can be asked for. -/
inductive Supported (m : Metadata) : Expr → Prop
  | field {name : String} : m.Stores name → Supported m (field name)
  | captured {name : String} {v : Value} : Supported m (captured name v)
  | literal {v : Value} : Supported m (literal v)
  | binary {op : BinaryOp} {left right : Expr} :
    Supported m left → Supported m right → Supported m (binary op left right)
  | call {method : String} {receiver arg : Expr} {v : Value} :
    isTextMethod method = true → arg.value? = some v → ¬v.Unreadable → Supported m receiver →
    Supported m (call method receiver [arg])

/-- A selector that a store can be asked for: a stored field, or a record of such. -/
inductive Selectable (m : Metadata) : Expr → Prop
  | field {name : String} : m.Stores name → Selectable m (field name)
  | record {members : List (String × Expr)} :
    members ≠ [] → (∀ e ∈ members, ∃ name, e.2 = field name ∧ m.Stores name) →
    Selectable m (record members)

/-! ## Faults in their order -/

/-- What is wrong with the argument of a method that compares texts. -/
def argumentFaults (method : String) (arg : Expr) : List ExpressionFault :=
  match arg.value? with
  | none => [.argument arg.kind method]
  | some v => if v.Unreadable then [.argumentText method] else []

/-- What is wrong with a call, its receiver apart. -/
def callFaults (method : String) : List Expr → List ExpressionFault
  | [arg] => if isTextMethod method then argumentFaults method arg else [.method method 1]
  | args => [.method method args.length]

/-- Everything that is wrong with a condition, from left to right; a call comes before
    its receiver. -/
def faults (m : Metadata) : Expr → List Error
  | field name => if m.Stores name then [] else [.unmappedField m.entity.name name]
  | captured .. | literal _ => []
  | binary _ left right => left.faults m ++ right.faults m
  | call method receiver args =>
    (callFaults method args).map (.unsupportedExpression m.entity.name) ++ receiver.faults m
  | record _ => [.unsupportedExpression m.entity.name .record]

/-- What is wrong with a member of a record. -/
def memberFaults (m : Metadata) (target : String) : Expr → List Error
  | field name => (field name).faults m
  | e => [.unsupportedProjection m.entity.name (.member target e.kind)]

/-- Everything that is wrong with a selector, member by member. -/
def selectorFaults (m : Metadata) : Expr → List Error
  | field name => (field name).faults m
  | record [] => [.unsupportedProjection m.entity.name .emptyRecord]
  | record members => members.flatMap fun e => memberFaults m e.1 e.2
  | e => [.unsupportedProjection m.entity.name (.selector e.kind)]

/-- Everything that is wrong with the conditions of a chain and its selector. -/
def faultsOf (m : Metadata) (conditions : List Expr) (selector : Option Expr) : List Error :=
  conditions.flatMap (·.faults m) ++ selector.toList.flatMap (·.selectorFaults m)

end Expr

/-! ## What has no fault -/

variable {m : Metadata}

/-- A field is stored exactly if a column is bound to it. -/
theorem Metadata.stores_iff {name : String} : m.Stores name ↔ ∃ b, m.column? name = some b := by
  rw [Stores, List.mem_map, column?, ← Option.isSome_iff_exists, List.find?_isSome]
  simp only [beq_iff_eq]

namespace Expr

theorem argumentFaults_eq_nil_iff {method : String} {arg : Expr} :
    argumentFaults method arg = [] ↔ ∃ v, arg.value? = some v ∧ ¬v.Unreadable := by
  cases hv : arg.value? with
  | none => simp [argumentFaults, hv]
  | some v => simp [argumentFaults, hv]

theorem callFaults_eq_nil_iff {method : String} {args : List Expr} :
    callFaults method args = [] ↔
      isTextMethod method = true ∧
        ∃ arg v, args = [arg] ∧ arg.value? = some v ∧ ¬v.Unreadable := by
  match args with
  | [] | _ :: _ :: _ => simp [callFaults]
  | [arg] =>
    by_cases hm : isTextMethod method = true
    · simp [callFaults, hm, argumentFaults_eq_nil_iff]
    · simp [callFaults, hm]

/-- A condition is supported exactly if nothing is wrong with it. -/
theorem faults_eq_nil_iff {e : Expr} : e.faults m = [] ↔ e.Supported m := by
  constructor
  · intro h
    fun_induction faults m e with
    | case1 name hs => exact .field hs
    | case2 | case7 => cases h
    | case3 => exact .captured
    | case4 => exact .literal
    | case5 op left right ihl ihr =>
      obtain ⟨hl, hr⟩ := List.append_eq_nil_iff.1 h
      exact .binary (ihl hl) (ihr hr)
    | case6 method receiver args ih =>
      obtain ⟨hc, hr⟩ := List.append_eq_nil_iff.1 h
      obtain ⟨hm, arg, v, rfl, hv, hu⟩ := callFaults_eq_nil_iff.1 (List.map_eq_nil_iff.1 hc)
      exact .call hm hv hu (ih hr)
  · intro h
    induction h with
    | field hs => rw [faults, if_pos hs]
    | captured | literal => rfl
    | binary _ _ ihl ihr => rw [faults, ihl, ihr, List.append_nil]
    | call hm hv hu _ ih =>
      rw [faults, ih, List.append_nil, List.map_eq_nil_iff]
      exact callFaults_eq_nil_iff.2 ⟨hm, _, _, rfl, hv, hu⟩

theorem faults_field_eq_nil_iff {name : String} : (field name).faults m = [] ↔ m.Stores name := by
  rw [faults]
  split <;> simp_all

theorem memberFaults_eq_nil_iff {target : String} {e : Expr} :
    memberFaults m target e = [] ↔ ∃ name, e = field name ∧ m.Stores name := by
  cases e with
  | field name => simp [memberFaults, faults_field_eq_nil_iff]
  | captured | literal | binary | call | record => simp [memberFaults]

/-- A selector is selectable exactly if nothing is wrong with it. -/
theorem selectorFaults_eq_nil_iff {e : Expr} : e.selectorFaults m = [] ↔ e.Selectable m := by
  have cannot {e : Expr} (hf : ∀ name, e ≠ field name) (hr : ∀ members, e ≠ record members) :
      ¬e.Selectable m := by
    rintro (_ | _)
    · exact hf _ rfl
    · exact hr _ rfl
  cases e with
  | field name =>
    rw [selectorFaults, faults_field_eq_nil_iff]
    exact ⟨.field, fun | .field h => h⟩
  | record members =>
    cases members with
    | nil => exact ⟨nofun, fun | .record hne _ => absurd rfl hne⟩
    | cons member members =>
      rw [selectorFaults, List.flatMap_eq_nil_iff]
      · simp only [memberFaults_eq_nil_iff]
        exact ⟨.record (List.cons_ne_nil _ _), fun | .record _ h => h⟩
      · exact List.cons_ne_nil _ _
  | captured | literal | binary | call =>
    exact ⟨nofun, fun h => absurd h (cannot nofun nofun)⟩

end Expr

/-- A chain has no fault exactly if its conditions are supported and its projection, if it
    has one, is selectable. -/
theorem Expr.faultsOf_eq_nil_iff {conditions : List Expr} {selector : Option Expr} :
    faultsOf m conditions selector = [] ↔
      (∀ e ∈ conditions, e.Supported m) ∧ ∀ e, selector = some e → e.Selectable m := by
  rw [faultsOf, List.append_eq_nil_iff, List.flatMap_eq_nil_iff]
  simp only [faults_eq_nil_iff]
  refine and_congr_right fun _ => ?_
  cases selector with
  | none => simp
  | some e => simp [selectorFaults_eq_nil_iff]

/-! ## What is refused -/

namespace Predicate

theorem fault?_map {ε α β : Type} (f : α → β) (r : Except ε α) : fault? (r.map f) = fault? r := by
  cases r <;> rfl

/-- An argument is refused for what is wrong with it. -/
theorem fault?_argumentText (method : String) (arg : Expr) :
    fault? (argumentText method arg) = (Expr.argumentFaults method arg).head? := by
  have value (v : Value) : fault? (argumentText method (.literal v)) =
      (Expr.argumentFaults method (.literal v)).head? := by
    by_cases hu : v.Unreadable
    · have hnone : ∀ s, v.coerce .string ≠ .ok (.string s) := fun s hs =>
        Value.coerce_string_eq_ok_iff.1 ⟨s, hs⟩ hu
      simp only [argumentText, Expr.argumentFaults, Expr.value?, if_pos hu]
      rfl
    · obtain ⟨s, hs⟩ := Value.coerce_string_eq_ok_iff.2 hu
      simp only [argumentText, hs, Expr.argumentFaults, Expr.value?, if_neg hu]
      rfl
  cases arg with
  | captured name v | literal v => exact value v
  | field | binary | call | record => rfl

/-- A call is refused for what is wrong with its method or its argument. -/
theorem fault?_pattern (method : String) (args : List Expr) :
    fault? (pattern method args) = (Expr.callFaults method args).head? := by
  have hmethods : Expr.isTextMethod "starts_with" = true ∧ Expr.isTextMethod "contains" = true := by
    decide
  unfold pattern
  split
  · next arg =>
    rw [fault?_map, fault?_argumentText, Expr.callFaults, if_pos hmethods.1]
  · next arg =>
    rw [fault?_map, fault?_argumentText, Expr.callFaults, if_pos hmethods.2]
  · next hstart hcontain =>
    match args with
    | [] | _ :: _ :: _ => rfl
    | [arg] =>
      have hm : ¬Expr.isTextMethod method = true := by
        rw [Expr.isTextMethod, Bool.or_eq_true, beq_iff_eq, beq_iff_eq]
        rintro (rfl | rfl)
        · exact hstart arg rfl rfl
        · exact hcontain arg rfl rfl
      rw [Expr.callFaults, if_neg hm]
      rfl

/-- A condition is refused for the first of its faults. -/
theorem fault?_term (e : Expr) (ps : List Parameter) :
    fault? (term m e ps).1 = (e.faults m).head? := by
  fun_induction term m e ps with
  | case1 ps name b hb =>
    rw [Expr.faults, if_pos (Metadata.stores_iff.2 ⟨b, hb⟩)]
    rfl
  | case2 ps name hb =>
    rw [Expr.faults, if_neg]
    · rfl
    · rw [Metadata.stores_iff, hb]
      rintro ⟨_, h⟩
      cases h
  | case3 | case4 => rfl
  | case5 op left right ps err qs hl ihl =>
    rw [Expr.faults, List.head?_append, ← ihl, hl]
    rfl
  | case6 op left right ps l qs hl err rs hr ihl ihr =>
    rw [Expr.faults, List.head?_append, ← ihl, ← ihr, hl, hr]
    rfl
  | case7 op left right ps l qs hl r rs hr ihl ihr =>
    rw [Expr.faults, List.head?_append, ← ihl, ← ihr, hl, hr]
    rfl
  | case8 ps method receiver args fault hp =>
    rw [Expr.faults, List.head?_append, List.head?_map, ← fault?_pattern, hp]
    rfl
  | case9 ps method receiver args text hp err qs ht ih =>
    rw [Expr.faults, List.head?_append, List.head?_map, ← fault?_pattern, hp, ← ih, ht]
    rfl
  | case10 ps method receiver args text hp t qs ht ih =>
    rw [Expr.faults, List.head?_append, List.head?_map, ← fault?_pattern, hp, ← ih, ht]
    rfl
  | case11 => rfl

theorem fault?_compile (e : Expr) : fault? (compile m e) = (e.faults m).head? := by
  rw [← fault?_term e [], compile, fragment]
  rcases term m e [] with ⟨_ | _, _⟩ <;> rfl

/-- The faults of a conjunction are those of its conditions in their order. -/
theorem faults_foldl (e : Expr) (es : List Expr) :
    (es.foldl (.binary .and) e).faults m = e.faults m ++ es.flatMap (·.faults m) := by
  induction es generalizing e with
  | nil => exact (List.append_nil _).symm
  | cons e' es ih => rw [List.foldl_cons, ih, Expr.faults, List.flatMap_cons, List.append_assoc]

/-- Conditions are refused for the first of their faults. -/
theorem fault?_conjoin (es : List Expr) :
    fault? (conjoin m es) = (es.flatMap (·.faults m)).head? := by
  rw [conjoin_eq]
  cases es with
  | nil => rfl
  | cons e es =>
    simp only [Expr.conjunction?]
    rw [fault?_map, fault?_compile, faults_foldl, List.flatMap_cons]

end Predicate

namespace Plan

/-- A field is refused if it is not stored. -/
theorem fault?_select (name target : String) :
    fault? (select m name target) = ((Expr.field name).faults m).head? := by
  rw [← Predicate.fault?_term (.field name) [], select, Predicate.term]
  cases m.column? name <;> rfl

/-- A record is refused for the first fault of its members. -/
theorem fault?_selectMembers (ms : List (String × Expr)) :
    fault? (selectMembers m ms) = (ms.flatMap fun e => Expr.memberFaults m e.1 e.2).head? := by
  fun_induction selectMembers m ms with
  | case1 => rfl
  | case2 target name rest err hs =>
    rw [List.flatMap_cons, List.head?_append, Expr.memberFaults, ← fault?_select name target, hs]
    rfl
  | case3 target name rest first hs err ho ih =>
    rw [List.flatMap_cons, List.head?_append, Expr.memberFaults, ← fault?_select name target, hs,
      ← ih, ho]
    rfl
  | case4 target name rest first hs others ho ih =>
    rw [List.flatMap_cons, List.head?_append, Expr.memberFaults, ← fault?_select name target, hs,
      ← ih, ho]
    rfl
  | case5 target e rest hf =>
    rw [List.flatMap_cons, List.head?_append, Expr.memberFaults]
    · rfl
    · exact hf

/-- A projection is refused for the first fault of its selector. -/
theorem fault?_output (s : Option Expr) :
    fault? (output m s) = (s.toList.flatMap (·.selectorFaults m)).head? := by
  cases s with
  | none => rfl
  | some e =>
    rw [Option.toList_some, List.flatMap_singleton]
    cases e with
    | field name =>
      rw [Expr.selectorFaults, ← fault?_select name name, output, project]
      cases select m name name <;> rfl
    | record members =>
      cases members with
      | nil => rfl
      | cons member members =>
        rw [Expr.selectorFaults, ← fault?_selectMembers, output, project]
        · cases selectMembers m (member :: members) <;> rfl
        · exact List.cons_ne_nil _ _
    | captured | literal | binary | call => rfl

/-- A chain with metadata is refused for the first of its faults. -/
theorem fault?_ofChain (c : Chain) :
    fault? (ofChain m c) = (Expr.faultsOf m c.filters c.projection?).head? := by
  rw [Expr.faultsOf, List.head?_append, ← Predicate.fault?_conjoin, ← fault?_output, ofChain]
  rcases Predicate.conjoin m c.filters with _ | _
  · rfl
  · rcases output m c.projection? with _ | ⟨_, _⟩ <;> rfl

end Plan

theorem fault?_eq_none_iff {ε α : Type} {r : Except ε α} : fault? r = none ↔ ∃ a, r = .ok a := by
  cases r <;> simp [fault?]

theorem fault?_eq_some_iff {ε α : Type} {r : Except ε α} {e : ε} :
    fault? r = some e ↔ r = .error e := by
  cases r <;> simp [fault?]

namespace World

variable {σ : Type} {w : World σ} {c : Chain} {root : EntityType} {conditions : List Expr}
  {selector : Option Expr} {count : Option UInt32}

/-- A chain is refused because there are no metadata, or else for the first of its faults. -/
theorem fault?_translate (hc : c.MadeOf root conditions selector count) :
    fault? (w.translate c).1 =
      match (w.resolve root).1 with
      | .error e => some e
      | .ok m => (Expr.faultsOf m conditions selector).head? := by
  obtain ⟨rfl, rfl, rfl, rfl⟩ := Chain.madeOf_iff.1 hc
  rw [translate]
  rcases w.resolve c.root with ⟨_ | m, w'⟩
  · rfl
  · simp only [← Plan.fault?_ofChain]
    cases Plan.ofChain m c <;> rfl

/-- A chain is translated exactly if its root has metadata by which the condition of every
    filter is supported and the latest selector, if there is one, is selectable; and then
    the predicate of the plan is made of all conditions. A chain that is not translated is
    refused because there are no metadata, or else for the first of the faults of its
    parts. -/
theorem translate_refusals (hc : c.MadeOf root conditions selector count) :
    ((∃ p, (w.translate c).1 = .ok p) ↔
      ∃ m, (w.resolve root).1 = .ok m ∧ (∀ e, .filter e ∈ c.applied → e.Supported m) ∧
        ∀ e, selector = some e → e.Selectable m) ∧
    (∀ p, (w.translate c).1 = .ok p → ∃ m, (w.resolve root).1 = .ok m ∧
      Predicate.IsOf m (Expr.conjunction? conditions) p.predicate) ∧
    ∀ err, (w.translate c).1 = .error err ↔
      (w.resolve root).1 = .error err ∨
        ∃ m, (w.resolve root).1 = .ok m ∧
          (Expr.faultsOf m conditions selector).head? = some err := by
  have hfault := fault?_translate (w := w) hc
  refine ⟨?_, fun p hp => ?_, fun err => ?_⟩
  · rw [← fault?_eq_none_iff, hfault]
    simp only [← hc.mem_conditions_iff]
    cases (w.resolve root).1 with
    | error e => simp
    | ok m => simp [← Expr.faultsOf_eq_nil_iff]
  · obtain ⟨rfl, rfl, rfl, rfl⟩ := Chain.madeOf_iff.1 hc
    obtain ⟨m, hm, h⟩ := translate_eq_ok_iff.1 hp
    exact ⟨m, hm, h.predicate⟩
  · rw [← fault?_eq_some_iff, hfault]
    cases (w.resolve root).1 with
    | error e => simp
    | ok m => simp

end World

namespace Demo.Search

/-- A search with two conditions that are not supported and a projection that is not
    selectable. -/
def faulty : Chain :=
  ⟨Users.type, [.project (.record []), .limit 2,
    .filter (.call "contains" (.field "city") [.literal .null]), .source ⟨"Order"⟩,
    .filter (.binary .and ofAge (.field "nickname"))]⟩

/-- The winding search is translated, and the faulty one is refused for the condition that
    is closest to its source. -/
theorem translate_refusals_faulty :
    (∃ p, (world.translate winding).1 = .ok p) ∧
      faulty.MadeOf Users.type [.binary .and ofAge (.field "nickname"),
        .call "contains" (.field "city") [.literal .null]] (some (.record [])) (some 2) ∧
      (world.translate faulty).1 = .error (.unmappedField "User" "nickname") := by
  have hm : (world.resolve Users.type).1 = .ok metadata := rfl
  have hfaulty : faulty.MadeOf Users.type [.binary .and ofAge (.field "nickname"),
      .call "contains" (.field "city") [.literal .null]] (some (.record [])) (some 2) :=
    Chain.madeOf_iff.2 ⟨rfl, rfl, rfl, rfl⟩
  refine ⟨(World.translate_refusals (w := world) madeOf_winding).1.2 ⟨_, hm, ?_, ?_⟩, hfaulty,
    ((World.translate_refusals (w := world) hfaulty).2.2 _).2 (.inr ⟨_, hm, by decide⟩)⟩
  · intro e he
    rw [← madeOf_winding.mem_conditions_iff, List.mem_cons, List.mem_singleton] at he
    obtain rfl | rfl := he
    · exact .call (v := .string "A") (by decide) rfl nofun (.field (by decide))
    · exact .binary (.field (by decide)) .literal
  · rintro e ⟨⟩
    exact .field (by decide)

end Demo.Search

end EntityQuery
