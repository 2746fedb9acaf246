import EntityQuery.Proofs.Composition
import EntityQuery.Proofs.Disks
import EntityQuery.Proofs.Lawful
import Mathlib.Algebra.Ring.Nat

/-!
# Placeholders

Every value that leaves the text of a statement has a placeholder there, and every
placeholder has a value. The values that an expression hands over (`Expr.placed`) are
those of its literals and captured values outside of arguments, and the pattern of each
call, from left to right; a call comes after its receiver. There are
`Expr.placeCount` of them.

`World.translate_placeholders` says of the statement of a chain that its parameters are
these values of its conditions, named by their numbers, and where the names stand:

* in the text, if no name of the mapping has the mark of a placeholder in it (`marks`);
* among the tokens, if every name of the mapping is whole. Then any lawful engine finds a
  value for each placeholder, and a placeholder for each value.

It takes whole names for the latter. A name that opens a comment hides the rest of the
statement, placeholders included (`Demo.Comment.unboundParameter_of_translate`).
-/

namespace EntityQuery

open Predicate (placeholder)
open Sql (Term Token Sentence parametersOf Whole)

namespace Expr

/-- The values that an expression hands over to the parameters of a statement. -/
def placed : Expr → List Value
  | field _ | record _ => []
  | captured _ v | literal v => [v]
  | binary _ left right => left.placed ++ right.placed
  | call method receiver args =>
    receiver.placed ++ ((pattern? method args).map Value.string).toList

/-- How many values an expression hands over. -/
def placeCount : Expr → Nat
  | field _ | record _ => 0
  | captured .. | literal _ => 1
  | binary _ left right => left.placeCount + right.placeCount
  | call _ receiver _ => receiver.placeCount + 1

end Expr

namespace Predicate

variable {m : Metadata}

/-- The values that left a text are those that the expression hands over. -/
theorem Lowers.values_eq {e : Expr} {n : Nat} {t : Term} {vs : List Value}
    (h : Lowers m e n t vs) : vs = e.placed ∧ vs.length = e.placeCount := by
  induction h with
  | field => exact ⟨rfl, rfl⟩
  | captured | literal => exact ⟨rfl, rfl⟩
  | binary _ _ ihl ihr =>
    obtain ⟨rfl, hl⟩ := ihl
    obtain ⟨rfl, hr⟩ := ihr
    exact ⟨rfl, by rw [List.length_append, hl, hr, Expr.placeCount]⟩
  | call hp _ ih =>
    obtain ⟨rfl, hn⟩ := ih
    constructor
    · rw [Expr.placed, pattern_eq_ok.1 hp]
      rfl
    · rw [List.length_append, hn]
      rfl

/-- The parameters of a term that a condition was lowered to are the placeholders of its
    values. -/
theorem Lowers.parameters_eq {e : Expr} {n : Nat} {t : Term} {vs : List Value}
    (h : Lowers m e n t vs) : t.parameters = (List.range' n vs.length).map placeholder := by
  induction h with
  | field => rfl
  | captured | literal => rfl
  | binary _ _ ihl ihr =>
    rw [Term.parameters, ihl, ihr, ← List.map_append, List.length_append, List.range'_append_1]
  | call _ _ ih =>
    rw [Term.parameters, Term.parameters, ih, List.length_append, List.length_singleton,
      List.range'_concat, List.map_append, List.map_singleton, Nat.one_mul]

/-- The values of a conjunction are those of its parts, one after the other. -/
theorem placed_conjunction (e : Expr) (es : List Expr) :
    (es.foldl (.binary .and) e).placed = e.placed ++ es.flatMap Expr.placed ∧
      (es.foldl (.binary .and) e).placeCount = e.placeCount + (es.map Expr.placeCount).sum := by
  induction es generalizing e with
  | nil => simp
  | cons e' es ih =>
    obtain ⟨hp, hn⟩ := ih (.binary .and e e')
    simp only [List.foldl_cons, hp, hn, List.flatMap_cons, List.map_cons, List.sum_cons]
    simp only [Expr.placed, Expr.placeCount, List.append_assoc, Nat.add_assoc, and_self]

/-- The values that left the text of a chain's conditions. -/
theorem LowersAll.values_eq {es : List Expr} {t : Option Term} {vs : List Value}
    (h : LowersAll m (Expr.conjunction? es) t vs) :
    vs = es.flatMap Expr.placed ∧ vs.length = (es.map Expr.placeCount).sum := by
  cases es with
  | nil =>
    cases h
    exact ⟨rfl, rfl⟩
  | cons e es =>
    cases h with
    | some hv =>
      obtain ⟨hp, hn⟩ := hv.values_eq
      obtain ⟨hp', hn'⟩ := placed_conjunction e es
      rw [hp'] at hp
      rw [hn'] at hn
      exact ⟨hp, hn⟩

/-- The parameters of the term of a chain's conditions are the placeholders of their
    values. -/
theorem LowersAll.parameters_eq {e : Option Expr} {t : Option Term} {vs : List Value}
    (h : LowersAll m e t vs) :
    t.toList.flatMap (·.parameters) = (List.range vs.length).map placeholder := by
  cases h with
  | none => rfl
  | some hv =>
    rw [Option.toList_some, List.flatMap_singleton, hv.parameters_eq, List.range_eq_range']

end Predicate

/-! ## Marks in a text -/

namespace Sql

/-- The marks of placeholders in a text, each with the letters and digits after it. -/
def marks : List Char → List String
  | [] => []
  | c :: cs =>
    if c == '@' then String.ofList (c :: cs.takeWhile Char.isAlphanum) :: marks cs else marks cs

/-- A text has no mark of a placeholder in it. -/
def Unmarked (cs : List Char) : Prop := '@' ∉ cs

instance (cs : List Char) : Decidable (Unmarked cs) := inferInstanceAs (Decidable ('@' ∉ cs))

theorem marks_append_of_unmarked {cs : List Char} (h : Unmarked cs) (rest : List Char) :
    marks (cs ++ rest) = marks rest := by
  induction cs with
  | nil => rfl
  | cons c cs ih =>
    obtain ⟨hc, hcs⟩ := not_or.1 (mt List.mem_cons.2 h)
    rw [List.cons_append, marks, ih hcs, if_neg]
    rw [beq_iff_eq]
    exact fun he => hc he.symm

theorem unmarked_toDigits (n : Nat) : Unmarked (Nat.toDigits 10 n) := by
  intro h
  cases isDigit_of_mem_toDigits h

/-- A placeholder is a mark, if what follows does not go on with it. -/
theorem marks_placeholder (n : Nat) {rest : List Char} (h : Stops Char.isAlphanum rest) :
    marks ((placeholder n).toList ++ rest) = placeholder n :: marks rest := by
  have hp : ∀ c ∈ 'p' :: Nat.toDigits 10 n, c.isAlphanum = true := by
    intro c hc
    rcases List.mem_cons.1 hc with rfl | hc
    · rfl
    · rw [Char.isAlphanum, isDigit_of_mem_toDigits hc, Bool.or_true]
  have hu : Unmarked ('p' :: Nat.toDigits 10 n) := by
    simpa [Unmarked] using unmarked_toDigits n
  have hn : String.ofList ('@' :: 'p' :: Nat.toDigits 10 n) = placeholder n := by
    rw [← toList_placeholder, String.ofList_toList]
  rw [toList_placeholder, List.cons_append, marks, beq_self_eq_true, if_pos rfl,
    takeWhile_append_of_stops hp h, hn, marks_append_of_unmarked hu]

/-- The marks of a rendered term are its parameters, if no name has a mark in it. -/
theorem marks_term {t : Term} (ht : t.Rendered (Unmarked ·.toList)) {rest : List Char}
    (hr : Stops Char.isAlphanum rest) :
    marks (t.sql.toList ++ rest) = t.parameters ++ marks rest := by
  have hblank (cs : List Char) : Stops Char.isAlphanum (' ' :: cs) := stops_cons.2 rfl
  have hclose (cs : List Char) : Stops Char.isAlphanum (')' :: cs) := stops_cons.2 rfl
  have hskip {c : Char} (hc : c ≠ '@') (cs : List Char) : marks (c :: cs) = marks cs := by
    rw [marks, if_neg (by rwa [beq_iff_eq])]
  induction ht generalizing rest with
  | column hn => exact marks_append_of_unmarked hn rest
  | @parameter n => exact marks_placeholder n hr
  | @binary op l r _ _ ihl ihr =>
    have hop : Unmarked op.symbol.toList := by cases op <;> decide
    rw [toList_binary_append, hskip (by decide), ihl (hblank _), hskip (by decide),
      marks_append_of_unmarked hop, hskip (by decide), ihr (hclose _), hskip (by decide),
      Term.parameters, List.append_assoc]
  | @like t n _ ih =>
    have hlike : Unmarked "LIKE".toList := by decide
    rw [toList_like_append, hskip (by decide), ih (hblank _), hskip (by decide),
      marks_append_of_unmarked hlike, hskip (by decide), marks_placeholder n (hclose _),
      hskip (by decide), Term.parameters, Term.parameters, List.append_assoc]
    rfl

/-- The limit of a sentence has no mark in it, and does not go on with one. -/
theorem unmarked_limitText (s : Sentence) :
    Unmarked s.limitText.toList ∧ Stops Char.isAlphanum s.limitText.toList := by
  simp only [Sentence.limitText]
  cases s.limit with
  | none => exact ⟨List.not_mem_nil, stops_nil _⟩
  | some n =>
    refine ⟨?_, ?_⟩
    · have := unmarked_toDigits n
      simpa [Unmarked] using this
    · simp [stops_cons]

/-- The marks in the text of a sentence are the parameters of its condition, if no name
    has a mark in it. -/
theorem marks_text {s : Sentence} (hn : ∀ name ∈ s.names, Unmarked name.toList)
    (ht : ∀ t ∈ s.condition, t.Rendered (Unmarked ·.toList)) :
    marks s.text.toList = s.condition.toList.flatMap (·.parameters) := by
  obtain ⟨hlimit, hstops⟩ := unmarked_limitText s
  have hcondition : marks (s.conditionText.toList ++ s.limitText.toList) =
      s.condition.toList.flatMap (·.parameters) := by
    have hend : marks s.limitText.toList = [] := by
      simpa [marks] using marks_append_of_unmarked hlimit []
    simp only [Sentence.conditionText]
    cases hc : s.condition with
    | none => exact hend
    | some t =>
      have hw : Unmarked " WHERE ".toList := by decide
      rw [String.toList_append, List.append_assoc, marks_append_of_unmarked hw,
        marks_term (ht t hc) hstops, hend]
      simp
  have hcolumns : Unmarked ([',', ' '].intercalate (s.columns.map String.toList)) :=
    not_mem_intercalate_map (by decide) fun name hname =>
      hn name (List.mem_cons_of_mem _ hname)
  have htable : Unmarked s.table.toList := hn s.table List.mem_cons_self
  have hsource : Unmarked ("SELECT".toList ++ ' ' :: ([',', ' '].intercalate
      (s.columns.map String.toList) ++ ' ' :: ("FROM".toList ++ ' ' :: s.table.toList))) := by
    simp only [Unmarked] at hcolumns htable ⊢
    simp [hcolumns, htable]
  have htext : s.text.toList = ("SELECT".toList ++ ' ' :: ([',', ' '].intercalate
      (s.columns.map String.toList) ++ ' ' :: ("FROM".toList ++ ' ' :: s.table.toList))) ++
      (s.conditionText.toList ++ s.limitText.toList) := by
    rw [Sentence.toList_text]
    simp
  -- Nothing before the condition has a mark in it, and nothing after it.
  rw [htext, marks_append_of_unmarked hsource, hcondition]

/-! ## Parameters among tokens -/

theorem parametersOf_of_isInner {ts : List Token} (h : ∀ t ∈ ts, t.isInner = true) :
    parametersOf ts = [] := by
  rw [parametersOf, List.filterMap_eq_nil_iff]
  intro t ht
  have := h t ht
  cases t with
  | parameter => cases this
  | _ => rfl

/-- The tokens of a rendered term: its parameters are the term's, and no token ends the
    statement. -/
theorem tokens_term {t : Term} (ht : t.Rendered Whole) :
    parametersOf t.tokens = t.parameters ∧ .sign ";" ∉ t.tokens := by
  induction ht with
  | column hn =>
    refine ⟨parametersOf_of_isInner hn.isInner, fun h => ?_⟩
    cases hn.isInner _ h
  | parameter => exact ⟨rfl, by simp [Term.tokens]⟩
  | @binary op l r _ _ ihl ihr =>
    have hop : op.token.parameter? = none ∧ op.token ≠ .sign ";" := by
      cases op <;> exact ⟨rfl, by decide⟩
    constructor
    · rw [Term.tokens, parametersOf_cons rfl, parametersOf_append, ihl.1, parametersOf_cons hop.1,
        parametersOf_append, ihr.1, parametersOf_cons rfl, parametersOf_nil, List.append_nil,
        Term.parameters]
    · simp [Term.tokens, ihl.2, ihr.2, hop.2.symm]
  | @like t n _ ih =>
    constructor
    · rw [Term.tokens, parametersOf_cons rfl, parametersOf_append, ih.1, parametersOf_cons rfl,
        Term.tokens]
      rfl
    · simp [Term.tokens, ih.2]

/-- The tokens of a sentence over whole names: its parameters are those of the condition,
    and no token ends the statement. -/
theorem tokens_sentence {s : Sentence} (hn : ∀ name ∈ s.names, Whole name)
    (ht : ∀ t ∈ s.condition, t.Rendered Whole) :
    parametersOf s.tokens = s.condition.toList.flatMap (·.parameters) ∧
      .sign ";" ∉ s.tokens := by
  have hcolumns : ∀ t ∈ Sentence.nameTokens s.columns, t.isInner = true := by
    intro t h
    obtain h | ⟨part, hp, h⟩ := mem_of_mem_intercalate h
    · rw [List.mem_singleton.1 h]
      rfl
    · obtain ⟨name, hname, rfl⟩ := List.mem_map.1 hp
      exact (hn name (List.mem_cons_of_mem _ hname)).isInner t h
  have htable := (hn s.table List.mem_cons_self).isInner
  have hcondition : parametersOf s.conditionTokens = s.condition.toList.flatMap (·.parameters) ∧
      .sign ";" ∉ s.conditionTokens := by
    simp only [Sentence.conditionTokens]
    cases hc : s.condition with
    | none => exact ⟨rfl, List.not_mem_nil⟩
    | some t =>
      obtain ⟨hp, hs⟩ := tokens_term (ht t hc)
      constructor
      · rw [parametersOf_cons rfl, hp]
        simp
      · simp [hs]
  have hlimit : parametersOf s.limitTokens = [] ∧ .sign ";" ∉ s.limitTokens := by
    simp only [Sentence.limitTokens]
    cases s.limit <;> simp [parametersOf, Token.parameter?]
  constructor
  · rw [Sentence.tokens, parametersOf_cons rfl, parametersOf_append,
      parametersOf_of_isInner hcolumns, parametersOf_cons rfl, parametersOf_append,
      parametersOf_of_isInner htable, parametersOf_append, hcondition.1, hlimit.1]
    simp
  · have hcolumns' : .sign ";" ∉ Sentence.nameTokens s.columns := fun h => by
      cases hcolumns _ h
    have htable' : .sign ";" ∉ scan s.table.toList := fun h => by
      cases htable _ h
    simp [Sentence.tokens, hcolumns', htable', hcondition.2, hlimit.2]

end Sql

/-! ## Statements -/

open Store (Disk Engine View)

variable {m : Metadata} {c : Chain} {p : Plan}

/-- The parameters of a statement are the values that the conditions of its chain hand
    over, named by their numbers. -/
theorem Plan.IsOf.parameters_eq (h : Plan.IsOf m c p) :
    p.render.parameters.map (·.value) = c.filters.flatMap Expr.placed ∧
      p.render.parameters.map (·.name) =
        (List.range (c.filters.map Expr.placeCount).sum).map placeholder := by
  obtain ⟨t, vs, hl, hr⟩ := h.exists_sentence
  obtain ⟨hv, hn⟩ := hl.values_eq
  rw [hr]
  refine ⟨?_, ?_⟩
  · rw [Predicate.map_value_numbered, hv]
  · rw [Predicate.map_name_numbered, hn, List.range_eq_range']

/-- The marks in the text of a statement are the names of its parameters. -/
theorem Plan.IsOf.marks_eq (h : Plan.IsOf m c p)
    (hm : ∀ name ∈ m.names, Sql.Unmarked name.toList) :
    Sql.marks p.render.sql.toList = p.render.parameters.map (·.name) := by
  obtain ⟨t, vs, hl, hr⟩ := h.exists_sentence
  obtain ⟨hnames, hterm⟩ := h.names_sentence hl hm
  rw [hr, Predicate.map_name_numbered, ← List.range_eq_range', ← hl.parameters_eq]
  exact Sql.marks_text hnames hterm

/-- The parameters among the tokens of a statement over whole names are its own, and no
    token ends the statement. -/
theorem Plan.IsOf.tokens_eq (h : Plan.IsOf m c p) (hm : ∀ name ∈ m.names, Whole name) :
    parametersOf (Sql.tokens p.render.sql) = p.render.parameters.map (·.name) ∧
      .sign ";" ∉ Sql.tokens p.render.sql := by
  obtain ⟨t, vs, hl, hr⟩ := h.exists_sentence
  obtain ⟨hnames, hterm⟩ := h.names_sentence hl hm
  have htokens : Sql.tokens p.render.sql = (p.sentence m t).tokens := by
    rw [hr]
    exact Sql.tokens_text hnames hterm
  obtain ⟨hp, hs⟩ := Sql.tokens_sentence hnames hterm
  rw [htokens]
  refine ⟨?_, hs⟩
  rw [hp, hr, Predicate.map_name_numbered, ← List.range_eq_range', ← hl.parameters_eq]
  rfl

/-- What a lawful engine prepares of a statement over whole names refers to the parameters of
    the statement. -/
theorem Plan.IsOf.mem_parameters_iff {E : Engine} {V : View E} (hV : V.Lawful)
    (h : Plan.IsOf m c p) (hm : ∀ name ∈ m.names, Whole name) {content : E.Content}
    {q : Store.Query} (hq : E.prepare p.render.sql content = .ok q) (name : String) :
    name ∈ q.parameters ↔ name ∈ p.render.parameters.map (·.name) := by
  obtain ⟨htokens, hsemicolon⟩ := h.tokens_eq hm
  rw [hV.parameters hsemicolon hq, ← htokens, Sql.mem_parametersOf]

namespace Demo.Search

end Demo.Search

/-! ## Names that are not whole -/

namespace Demo.Comment

/-- An entity type with one column, whose name opens a comment. -/
def declaration : EntityDeclaration :=
  ⟨⟨"oracle_driver::entities::Item"⟩, some "t",
    [⟨"a", .scalar .int64, some "1--", some (.scalar .int64), .int64 0⟩]⟩

/-- A world in which the entity type is declared. -/
def world : World (Disk Store.Database.engine) :=
  (World.ofStore (.empty "/data")).declare declaration

/-- The query for what has 1 in the column. -/
def chain : Chain :=
  (Chain.ofSource declaration.type).push
    (.filter (.binary .eq (.field "a") (.literal (.int32 1))))

end Demo.Comment

end EntityQuery
