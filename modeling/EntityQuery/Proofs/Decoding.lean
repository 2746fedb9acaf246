import EntityQuery.Demo.Search
import EntityQuery.Proofs.Spelling

/-!
# Reading a statement back

The parts that a chain is made of ask for columns of a table, under a condition and up to
a limit (`Request`). The condition is that of the chain with columns for fields, values for
literals and captured values, and comparisons with patterns for calls (`Expr.condition?`).

The statement of a chain says just that. A sentence is read back by putting the values
of the parameters in the place of the placeholders (`Sentence.decode?`); the text of the
statement spells one sentence and no other, and this sentence is read back as what the
chain asks for (`World.translate_decode`). No operand, operator or value is lost or
changes its place, however deeply conditions are nested and however many there are.
-/

namespace EntityQuery

open Predicate (placeholder numbered)
open Sql (Term Sentence)

/-- A condition on columns, with the values in it. -/
inductive Condition where
  | column (name : String)
  | value (v : Value)
  | binary (op : BinaryOp) (left right : Condition)
  | like (text : Condition) (pattern : Value)

/-- What a chain asks for. -/
structure Request where
  columns : List String
  table : String
  condition : Option Condition
  limit : Option Nat

/-! ## What a chain asks for -/

/-- The condition that an expression stands for over the columns of an entity type. -/
def Expr.condition? (m : Metadata) : Expr → Option Condition
  | field name => (m.column? name).map fun b => .column b.column
  | captured _ v | literal v => some (.value v)
  | binary op left right => do return .binary op (← left.condition? m) (← right.condition? m)
  | call method receiver args => do
    return .like (← receiver.condition? m) (.string (← pattern? method args))
  | record _ => none

namespace Metadata

/-- The column of an expression that is a field. -/
def columnOf? (m : Metadata) : Expr → Option String
  | .field name => (m.column? name).map (·.column)
  | _ => none

/-- The columns that a selector selects; without one, every column. -/
def selected? (m : Metadata) : Option Expr → Option (List String)
  | none => some (m.columns.map (·.column))
  | some (.record members) => members.mapM (m.columnOf? ·.2)
  | some e => (m.columnOf? e).map ([·])

end Metadata

/-- What conditions, a selector and a count ask for over an entity type: the columns that
    the selector selects, under the conjunction of all conditions, up to the count. -/
def Metadata.request? (m : Metadata) (conditions : List Expr) (selector : Option Expr)
    (count : Option UInt32) : Option Request := do
  let columns ← m.selected? selector
  let condition ← (Expr.conjunction? conditions).mapM (·.condition? m)
  return ⟨columns, m.table, condition, count.map UInt32.toNat⟩

/-! ## What a sentence says -/

/-- The value of the parameter of a name. -/
def valueOf? (ps : List Parameter) (name : String) : Option Value :=
  (ps.find? (·.name == name)).map (·.value)

namespace Sql

/-- The condition that a term stands for if the placeholders have values. -/
def Term.condition? (ps : List Parameter) : Term → Option Condition
  | column name => some (.column name)
  | parameter name => (valueOf? ps name).map .value
  | binary op l r => do return .binary op (← l.condition? ps) (← r.condition? ps)
  | like t (.parameter name) => do return .like (← t.condition? ps) (← valueOf? ps name)
  | _ => none

/-- What a sentence asks for if the placeholders have values. -/
def Sentence.decode? (ps : List Parameter) (s : Sentence) : Option Request := do
  let condition ← s.condition.mapM (·.condition? ps)
  return ⟨s.columns, s.table, condition, s.limit⟩

end Sql

/-! ## Reading back -/

namespace Predicate

/-- The value of a placeholder is found by its number. -/
theorem valueOf?_numbered (n k : Nat) (vs : List Value) :
    valueOf? (numbered n vs) (placeholder (n + k)) = vs[k]? := by
  induction vs generalizing n k with
  | nil => rfl
  | cons v vs ih =>
    cases k with
    | zero => simp [valueOf?, numbered]
    | succ k =>
      have hne : (placeholder n == placeholder (n + (k + 1))) = false := by
        rw [beq_eq_false_iff_ne]
        intro h
        have := Sql.placeholder_injective h
        omega
      have hk : n + (k + 1) = n + 1 + k := by omega
      simp only [valueOf?, numbered, List.find?_cons, hne, List.getElem?_cons_succ] at ih ⊢
      rw [hk, ih]

variable {m : Metadata}

/-- A lowered condition is read back from its term, if the placeholders have the values
    that left it. -/
theorem Lowers.condition?_eq {e : Expr} {n : Nat} {t : Term} {vs : List Value}
    (h : Lowers m e n t vs) {ps : List Parameter}
    (hps : ∀ k < vs.length, valueOf? ps (placeholder (n + k)) = vs[k]?) :
    ∃ d, t.condition? ps = some d ∧ e.condition? m = some d := by
  induction h with
  | field hb => exact ⟨_, rfl, by rw [Expr.condition?, hb]; rfl⟩
  | captured | literal =>
    have hv := hps 0 Nat.one_pos
    refine ⟨_, ?_, rfl⟩
    rw [Term.condition?]
    exact congrArg _ hv
  | @binary op left right n l r vs ws _ _ ihl ihr =>
    obtain ⟨dl, hl, hel⟩ := ihl fun k hk => by
      rw [hps k (by rw [List.length_append]; omega), List.getElem?_append_left hk]
    -- The values of the right side come after those of the left one.
    obtain ⟨dr, hr, her⟩ := ihr fun k hk => by
      rw [Nat.add_assoc, hps (vs.length + k) (by rw [List.length_append]; omega),
        List.getElem?_append_right (by omega), Nat.add_sub_cancel_left]
    refine ⟨.binary op dl dr, ?_, ?_⟩
    · rw [Term.condition?, hl, hr]
      rfl
    · rw [Expr.condition?, hel, her]
      rfl
  | @call method text receiver args n t vs hp _ ih =>
    obtain ⟨d, ht, he⟩ := ih fun k hk => by
      rw [hps k (by rw [List.length_append]; omega), List.getElem?_append_left hk]
    have hv := hps vs.length (by simp)
    rw [List.getElem?_append_right (Nat.le_refl _), Nat.sub_self] at hv
    refine ⟨.like d (.string text), ?_, ?_⟩
    · rw [Term.condition?, ht, hv]
      rfl
    · rw [Expr.condition?, pattern_eq_ok.1 hp, he]
      rfl

/-- The conditions of a chain are read back from their term. -/
theorem condition?_eq_of_lowersAll {e : Option Expr} {t : Option Term} {vs : List Value}
    (h : LowersAll m e t vs) :
    ∃ d, t.mapM (·.condition? (numbered 0 vs)) = some d ∧
      e.mapM (·.condition? m) = some d := by
  cases h with
  | none => exact ⟨none, rfl, rfl⟩
  | some hv =>
    have hps : ∀ k < vs.length, valueOf? (numbered 0 vs) (placeholder (0 + k)) = vs[k]? :=
      fun k _ => valueOf?_numbered 0 k vs
    obtain ⟨d, ht, he⟩ := hv.condition?_eq hps
    refine ⟨some d, ?_, ?_⟩
    · rw [Option.mapM_some, ht]
      rfl
    · rw [Option.mapM_some, he]
      rfl

end Predicate

namespace Plan

variable {m : Metadata}

theorem selected?_of_selectMembers {ms : List (String × Expr)} {ss : List Selection}
    (h : selectMembers m ms = .ok ss) :
    ms.mapM (m.columnOf? ·.2) = some (ss.map (·.column)) ∧ ss.length = ms.length := by
  fun_induction selectMembers m ms generalizing ss with
  | case1 =>
    cases h
    exact ⟨rfl, rfl⟩
  | case4 target name rest first hs others ho ih =>
    cases h
    obtain ⟨b, hb, rfl⟩ := select_eq_ok_iff.1 hs
    obtain ⟨hmap, hlength⟩ := ih ho
    have hc : m.columnOf? (.field name) = some b.column := by simp [Metadata.columnOf?, hb]
    refine ⟨?_, by simp [hlength]⟩
    rw [List.mapM_cons, hmap, hc]
    rfl
  | case2 | case3 | case5 => cases h

/-- The columns of a selection are those that the selector selects, and there are some. -/
theorem selected?_of_output {e : Option Expr} {ss : List Selection} {shape : Shape}
    (h : output m e = .ok (ss, shape)) (hm : m.columns ≠ []) :
    m.selected? e = some (ss.map (·.column)) ∧ ss ≠ [] := by
  cases output_eq_ok_iff.1 h with
  | entity =>
    refine ⟨?_, by simpa [everyColumn] using hm⟩
    simp [Metadata.selected?, everyColumn]
  | value hs =>
    obtain ⟨b, hb, rfl⟩ := select_eq_ok_iff.1 hs
    exact ⟨by simp [Metadata.selected?, Metadata.columnOf?, hb], List.cons_ne_nil _ _⟩
  | record hne hss =>
    obtain ⟨hselected, hlength⟩ := selected?_of_selectMembers hss
    refine ⟨hselected, ?_⟩
    rintro rfl
    exact hne (List.length_eq_zero_iff.1 hlength.symm)

end Plan

/-- A mapping that is accepted stores a field. -/
theorem Metadata.columns_ne_nil_of_ofMapping {entity : EntityType} {mapping : Mapping}
    {m : Metadata} (h : ofMapping entity mapping = .ok m) : m.columns ≠ [] := by
  simp only [ofMapping] at h
  split at h
  · cases h
  · split at h
    · cases h
    · split at h
      · cases h
      · next hne =>
        cases h
        exact hne

/-- The statement of a chain over plain identifiers is read back as what the parts of the
    chain ask for: its text spells one sentence and no other, and with the values of the
    parameters in the place of the placeholders this sentence is the request. -/
theorem World.translate_decode {σ : Type} {w : World σ} {mapping : Mapping} {m : Metadata}
    {c : Chain} {root : EntityType} {conditions : List Expr} {selector : Option Expr}
    {count : Option UInt32} {p : Plan} (hc : c.MadeOf root conditions selector count)
    (ha : Metadata.ofMapping root mapping = .ok m) (hm : (w.resolve root).1 = .ok m)
    (hn : ∀ name ∈ m.names, Sql.isIdentifier name = true) (hp : (w.translate c).1 = .ok p) :
    ∃ s r, (∀ s' : Sentence, s'.Spells p.render.sql.toList ↔ s' = s) ∧
      s.decode? p.render.parameters = some r ∧
      m.request? conditions selector count = some r := by
  obtain ⟨rfl, rfl, rfl, rfl⟩ := Chain.madeOf_iff.1 hc
  have h := isOf_of_translate hm hp
  obtain ⟨t, vs, hl, hr⟩ := h.exists_sentence
  obtain ⟨hnames, hterm⟩ := h.names_sentence hl hn
  obtain ⟨hselected, hne⟩ :=
    Plan.selected?_of_output h.output (Metadata.columns_ne_nil_of_ofMapping ha)
  obtain ⟨d, ht, he⟩ := Predicate.condition?_eq_of_lowersAll hl
  have hspells : (p.sentence m t).Spells p.render.sql.toList := by
    rw [hr]
    exact Sentence.spells_text (by simpa [Plan.sentence] using hne) hnames hterm
  refine ⟨p.sentence m t, ⟨p.selection.map (·.column), m.table, d, p.limit.map UInt32.toNat⟩,
    fun s' => ⟨fun hs' => hs'.unique hspells, fun hs' => hs' ▸ hspells⟩, ?_, ?_⟩
  · rw [hr, Sentence.decode?]
    simp only [Plan.sentence, ht]
    rfl
  · rw [Metadata.request?, hselected, he, h.limit]
    rfl

namespace Demo.Search

/-- What the winding search asks for: two names of users, which start with an A, and who are
    of age. -/
def request : Request :=
  ⟨["name"], "users",
    some (.binary .and (.like (.column "name") (.string "A%"))
      (.binary .ge (.column "age") (.value (.int32 18)))), some 2⟩

theorem translate_decode_winding :
    ∃ p s, (world.translate winding).1 = .ok p ∧
      (∀ s' : Sentence, s'.Spells p.render.sql.toList ↔ s' = s) ∧
      s.decode? p.render.parameters = some request := by
  have hmapping : Metadata.ofMapping Users.type Users.declaration.mapping = .ok metadata := rfl
  have hnames : ∀ name ∈ metadata.names, Sql.isIdentifier name = true := by decide
  obtain ⟨s, r, hs, hr, hrequest⟩ :=
    World.translate_decode (w := world) madeOf_winding hmapping rfl hnames rfl
  cases hrequest
  exact ⟨_, s, rfl, hs, hr⟩

end Demo.Search

end EntityQuery
