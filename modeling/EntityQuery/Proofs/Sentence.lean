import EntityQuery.Proofs.Lowering

/-!
# Sentences

The text of a statement over a table has four parts: the columns, the table, the
condition and the limit, of which the last two may be absent. A `Sentence` holds
them; its text is theirs with words in between.

What a plan renders is its sentence (`Plan.sentence`): the columns are those of the
selection, and the condition is the term that the conditions of the chain were
lowered to.

* `Plan.IsOf.exists_sentence`: the statement of a plan is that of its sentence, with
  the values that left the text for parameters;
* `Plan.IsOf.names_sentence`: the names that stand in it are those of the metadata.
-/

namespace EntityQuery

namespace Sql

/-- The parts of the text of a statement that asks a table for rows. -/
structure Sentence where
  columns : List String
  table : String
  condition : Option Term
  limit : Option Nat
  deriving DecidableEq, Repr

namespace Sentence

/-- The condition in the text of a sentence. -/
def conditionText (s : Sentence) : String :=
  match s.condition with
  | some t => " WHERE " ++ t.sql
  | none => ""

/-- The limit in the text of a sentence. -/
def limitText (s : Sentence) : String :=
  match s.limit with
  | some n => " LIMIT " ++ toString n
  | none => ""

/-- The text of a sentence. -/
def text (s : Sentence) : String :=
  "SELECT " ++ ", ".intercalate s.columns ++ " FROM " ++ s.table ++ s.conditionText ++ s.limitText

/-- The names that stand in a sentence outside of its condition. -/
def names (s : Sentence) : List String := s.table :: s.columns

theorem toList_text (s : Sentence) :
    s.text.toList = "SELECT".toList ++ ' ' ::
      ([',', ' '].intercalate (s.columns.map String.toList) ++
        ' ' :: ("FROM".toList ++ ' ' :: (s.table.toList ++
          (s.conditionText.toList ++ s.limitText.toList)))) := by
  simp [text, String.toList_intercalate]

end Sentence

/-- The terms that conditions are lowered to, over names of a kind. -/
inductive Term.Rendered (p : String → Prop) : Term → Prop
  | column {name : String} : p name → Rendered p (.column name)
  | parameter {n : Nat} : Rendered p (.parameter (Predicate.placeholder n))
  | binary {op : BinaryOp} {l r : Term} : Rendered p l → Rendered p r → Rendered p (.binary op l r)
  | like {t : Term} {n : Nat} :
    Rendered p t → Rendered p (.like t (.parameter (Predicate.placeholder n)))

theorem Term.Rendered.mono {p q : String → Prop} (hpq : ∀ name, p name → q name) {t : Term}
    (h : t.Rendered p) : t.Rendered q := by
  induction h with
  | column hn => exact .column (hpq _ hn)
  | parameter => exact .parameter
  | binary _ _ ihl ihr => exact .binary ihl ihr
  | like _ ih => exact .like ih

end Sql

open Sql (Term Sentence)

/-- The names of the table and of the columns. -/
def Metadata.names (m : Metadata) : List String := m.table :: m.columns.map (·.column)

theorem Metadata.column_mem_names {m : Metadata} {b : ColumnBinding} (h : b ∈ m.columns) :
    b.column ∈ m.names :=
  List.mem_cons_of_mem _ (List.mem_map_of_mem h)

theorem Metadata.mem_columns_of_column? {m : Metadata} {field : String} {b : ColumnBinding}
    (h : m.column? field = some b) : b ∈ m.columns ∧ b.field = field :=
  ⟨List.mem_of_find?_eq_some h, by simpa using List.find?_some h⟩

/-- Every column in a term that a condition was lowered to is one of the metadata. -/
theorem Predicate.Lowers.rendered {m : Metadata} {e : Expr} {n : Nat} {t : Term}
    {vs : List Value} (h : Lowers m e n t vs) : t.Rendered (· ∈ m.columns.map (·.column)) := by
  induction h with
  | field hb => exact .column (List.mem_map_of_mem (Metadata.mem_columns_of_column? hb).1)
  | captured | literal => exact .parameter
  | binary _ _ ihl ihr => exact .binary ihl ihr
  | call _ _ ih => exact .like ih

namespace Plan

/-- A selection is that of a column of the metadata, with its declared type. -/
def Selects (m : Metadata) (s : Selection) : Prop :=
  ∃ b ∈ m.columns, s.field = b.field ∧ s.column = b.column ∧ s.type = b.type

variable {m : Metadata}

theorem select_eq_ok_iff {field target : String} {s : Selection} :
    select m field target = .ok s ↔
      ∃ b, m.column? field = some b ∧ s = ⟨field, target, b.column, b.type⟩ := by
  simp only [select]
  cases m.column? field <;> simp [eq_comm]

theorem selects_of_select {field target : String} {s : Selection}
    (h : select m field target = .ok s) : Selects m s := by
  obtain ⟨b, hb, rfl⟩ := select_eq_ok_iff.1 h
  obtain ⟨hm, rfl⟩ := Metadata.mem_columns_of_column? hb
  exact ⟨b, hm, rfl, rfl, rfl⟩

theorem selects_of_selectMembers {ms : List (String × Expr)} {ss : List Selection}
    (h : selectMembers m ms = .ok ss) : ∀ s ∈ ss, Selects m s := by
  fun_induction selectMembers m ms generalizing ss with
  | case1 =>
    cases h
    exact nofun
  | case4 target name rest first hs others ho ih =>
    cases h
    intro s hmem
    rcases List.mem_cons.1 hmem with rfl | hmem
    · exact selects_of_select hs
    · exact ih ho s hmem
  | case2 | case3 | case5 => cases h

/-- A selection and a shape are what a selector stands for: without one, every column; a
    field; or the members of a record, of which there are some. -/
inductive Outputs (m : Metadata) : Option Expr → List Selection → Shape → Prop
  | entity : Outputs m none (everyColumn m) .entity
  | value {name : String} {s : Selection} :
    select m name name = .ok s → Outputs m (some (.field name)) [s] (.value s.type)
  | record {ms : List (String × Expr)} {ss : List Selection} :
    ms ≠ [] → selectMembers m ms = .ok ss →
    Outputs m (some (.record ms)) ss (.record (ss.map (·.target)))

/-- Only so is there anything that a selector stands for. -/
theorem output_eq_ok_iff {e : Option Expr} {ss : List Selection} {shape : Shape} :
    output m e = .ok (ss, shape) ↔ Outputs m e ss shape := by
  constructor
  · intro h
    match e with
    | none =>
      cases h
      exact .entity
    | some (.field name) =>
      simp only [output, project] at h
      split at h
      · cases h
      · next hs =>
        cases h
        exact .value hs
    | some (.record (member :: members)) =>
      simp only [output, project] at h
      split at h
      · cases h
      · next hss =>
        cases h
        exact .record (List.cons_ne_nil _ _) hss
    | some (.record []) | some (.literal _) | some (.captured ..) | some (.binary ..)
    | some (.call ..) => cases h
  · intro h
    cases h with
    | entity => rfl
    | value hs => simp only [output, project, hs]
    | record hne hss =>
      obtain ⟨member, members, rfl⟩ := List.exists_cons_of_ne_nil hne
      simp only [output, project, hss]

/-- Whatever is selected is a column of the metadata. -/
theorem selects_of_output {e : Option Expr} {ss : List Selection} {shape : Shape}
    (h : output m e = .ok (ss, shape)) : ∀ s ∈ ss, Selects m s := by
  cases output_eq_ok_iff.1 h with
  | entity =>
    intro s hs
    obtain ⟨b, hb, rfl⟩ := List.mem_map.1 hs
    exact ⟨b, hb, rfl, rfl, rfl⟩
  | value hs =>
    intro s hmem
    rw [List.mem_singleton.1 hmem]
    exact selects_of_select hs
  | record _ hss => exact selects_of_selectMembers hss

end Plan

/-- A condition, if there is one, is lowered to a term, and the values left its text. -/
inductive Predicate.LowersAll (m : Metadata) : Option Expr → Option Term → List Value → Prop
  | none : LowersAll m none none []
  | some {e : Expr} {t : Term} {vs : List Value} :
    Lowers m e 0 t vs → LowersAll m (some e) (some t) vs

namespace Plan

variable {m : Metadata} {c : Chain} {p : Plan}

/-- The sentence of a plan over the metadata, with the term that its condition was
    lowered to. -/
def sentence (m : Metadata) (p : Plan) (t : Option Term) : Sentence where
  columns := p.selection.map (·.column)
  table := m.table
  condition := t
  limit := p.limit.map UInt32.toNat

theorem limitText_sentence (m : Metadata) (p : Plan) (t : Option Term) :
    (p.sentence m t).limitText = p.limitText := by
  simp only [Sentence.limitText, sentence, limitText]
  cases p.limit <;> rfl

/-- The statement of a plan is that of its sentence. -/
theorem IsOf.exists_sentence (h : IsOf m c p) :
    ∃ t vs, Predicate.LowersAll m (Expr.conjunction? c.filters) t vs ∧
      p.render = ⟨(p.sentence m t).text, Predicate.numbered 0 vs⟩ := by
  -- Of the four parts only the condition is not written in the same way.
  have hrender (t : Option Term) (ht : p.conditionText = (p.sentence m t).conditionText) :
      p.render.sql = (p.sentence m t).text := by
    simp only [render, columnNames, sourceText, h.metadata, Option.isSome_some, if_true,
      Sentence.text, ht, limitText_sentence]
    rfl
  have hp := h.predicate
  generalize Expr.conjunction? c.filters = e at hp
  generalize hq : p.predicate = q at hp
  cases hp with
  | none =>
    have hps : p.render.parameters = Predicate.numbered 0 [] := by
      simp only [render, hq, Predicate.numbered_nil]
    have ht : p.conditionText = (p.sentence m none).conditionText := by
      simp only [conditionText, hq]
      rfl
    refine ⟨none, [], .none, ?_⟩
    rw [← hrender none ht, ← hps]
  | @some e t vs hv =>
    have hps : p.render.parameters = Predicate.numbered 0 vs := by simp only [render, hq]
    have ht : p.conditionText = (p.sentence m (some t)).conditionText := by
      simp only [conditionText, hq]
      rfl
    refine ⟨some t, vs, .some hv, ?_⟩
    rw [← hrender (some t) ht, ← hps]

/-- The columns of the sentence of a plan are columns of the metadata. -/
theorem IsOf.columns_sentence (h : IsOf m c p) (t : Option Term) :
    ∀ column ∈ (p.sentence m t).columns, ∃ b ∈ m.columns, b.column = column := by
  intro column hcolumn
  obtain ⟨s, hs, rfl⟩ := List.mem_map.1 hcolumn
  obtain ⟨b, hb, -, hc, -⟩ := selects_of_output h.output s hs
  exact ⟨b, hb, hc.symm⟩

end Plan

/-- The term of a sentence is rendered over columns of the metadata. -/
theorem Predicate.LowersAll.rendered {m : Metadata} {e : Option Expr} {t : Option Term}
    {vs : List Value} (h : LowersAll m e t vs) :
    ∀ u ∈ t, u.Rendered (· ∈ m.columns.map (·.column)) := by
  cases h with
  | none => exact nofun
  | some hv =>
    rintro _ ⟨⟩
    exact hv.rendered

/-- What every name of the metadata is, the names in the sentence of a plan are. -/
theorem Plan.IsOf.names_sentence {m : Metadata} {c : Chain} {p : Plan} (h : IsOf m c p)
    {t : Option Term} {vs : List Value}
    (hl : Predicate.LowersAll m (Expr.conjunction? c.filters) t vs) {q : String → Prop}
    (hq : ∀ name ∈ m.names, q name) :
    (∀ name ∈ (p.sentence m t).names, q name) ∧ ∀ u ∈ t, u.Rendered q := by
  refine ⟨fun name hname => ?_, fun u hu => (hl.rendered u hu).mono fun column hcolumn => ?_⟩
  · rcases List.mem_cons.1 hname with rfl | hcolumn
    · exact hq _ List.mem_cons_self
    · obtain ⟨b, hb, rfl⟩ := h.columns_sentence t name hcolumn
      exact hq _ (Metadata.column_mem_names hb)
  · exact hq column (List.mem_cons_of_mem _ hcolumn)

end EntityQuery
