import EntityQuery.Proofs.Lawful
import EntityQuery.Proofs.Noninterference
import EntityQuery.Proofs.Patterns
import EntityQuery.Proofs.Storing

/-!
# Texts that are searched for

What `starts_with` and `contains` find. The argument becomes a part of a pattern as it
stands, and a text is found if it has a stretch of the form of the argument: at its start,
or anywhere (`Predicate.call_finds`). A mark for other characters keeps its meaning in the
argument: the methods find what reads like the argument exactly if it has no such mark. For
every argument that has one there is a text in which they find it though it is not there,
as in a search for "50%" (`Demo.Discount.found_elsewhere`).

What is relied on of the operators of the store is that `LIKE` is true of the texts that have
the form of a pattern (`Operators.MatchForms`). Patterns and texts both end at a NUL for it.
Beyond that nothing is found, and a pattern that ends there lacks the mark after the argument.
-/

namespace EntityQuery

open Store
open Sql (Term)

/-- A text is `LIKE` a pattern if it has its form. -/
structure Store.Operators.MatchForms (ops : Operators) : Prop where
  like : ∀ t p : String, ∃ b, ops.like (.text t.toUTF8) (.text p.toUTF8) = some b ∧
    (b = true ↔ HasForm (visible p) (visible t))
  truth : ∀ b, ops.truth (.ofTruth b) = b

theorem Store.Operators.matchForms_standard : Operators.standard.MatchForms where
  like t p := by
    refine ⟨_, rfl, ?_⟩
    rw [Datum.patternText_toUTF8, Datum.patternText_toUTF8, matchesPattern_eq_true_iff]
  truth := Datum.truth_ofTruth

/-! ## Methods -/

/-- A text has a stretch that stands in a relation to what is searched for: at its start, if
    the method asks for it, and to its end, if a NUL hides the mark for what may follow. -/
def Expr.Finds (method : String) (R : List Char → List Char → Prop) (s t : String) : Prop :=
  ∃ before stretch after, visible t = before ++ stretch ++ after ∧ R (visible s) stretch ∧
    (method = "starts_with" → before = []) ∧ ('\x00' ∈ s.toList → after = [])

namespace Expr

variable {method : String} {s t : String}

/-- Searching for a text without marks, one finds what reads like it. -/
theorem finds_hasForm_iff_alike (h : ∀ a ∈ visible s, isMark a = false) :
    Finds method HasForm s t ↔ Finds method Alike s t := by
  simp only [Finds, hasForm_iff_alike h]

/-- The marks of a text are filled in without a NUL. -/
theorem visible_fill (s : String) :
    visible (.ofList ((visible s).map fill)) = (visible s).map fill := by
  have hfill : ∀ d ∈ (visible s).map fill, d = 'x' ∨ d ∈ visible s := by
    rintro d hd
    obtain ⟨c, hc, rfl⟩ := List.mem_map.1 hd
    rw [fill]
    split
    · exact .inl rfl
    · exact .inr hc
  refine visible_ofList (fun h => ?_) fun d hd => ?_
  · rcases hfill _ h with h | h
    · cases h
    · exact not_mem_visible s h
  · rcases hfill d hd with rfl | hd
    · decide
    · exact settled_of_mem_visible hd

/-- Searching for a text with marks, one finds it with the marks filled in. -/
theorem finds_fill (method s : String) :
    Finds method HasForm s (.ofList ((visible s).map fill)) :=
  ⟨[], _, [], by rw [visible_fill, List.nil_append, List.append_nil], hasForm_fill _,
    fun _ => rfl, fun _ => rfl⟩

/-- A text with marks does not occur in itself with the marks filled in. -/
theorem not_finds_fill (method : String) (h : ∃ a ∈ visible s, isMark a = true) :
    ¬Finds method Alike s (.ofList ((visible s).map fill)) := by
  rintro ⟨before, stretch, after, hsplit, halike, -⟩
  rw [visible_fill] at hsplit
  have hlength := congrArg List.length hsplit
  rw [List.length_map, List.length_append, List.length_append, List.Forall₂.length_eq halike]
    at hlength
  -- There is no room beside a stretch of the same length.
  obtain rfl : before = [] := List.eq_nil_of_length_eq_zero (by omega)
  obtain rfl : after = [] := List.eq_nil_of_length_eq_zero (by omega)
  rw [List.nil_append, List.append_nil] at hsplit
  exact not_alike_fill h (hsplit ▸ halike)

end Expr

namespace Predicate

variable {m : Metadata} {method : String} {receiver arg : Expr} {u : Term} {ps : List Parameter}
  {v : Value} {s : String}

/-- The mark after an argument stands for anything, unless it is hidden. -/
theorem hasForm_tail {hidden : Prop} [Decidable hidden] {t : List Char} :
    HasForm (if hidden then [] else ['%']) t ↔ (hidden → t = []) := by
  split
  · next h =>
    refine ⟨fun ht _ => ?_, fun ht => ht h ▸ .nil⟩
    cases ht
    rfl
  · next h => exact ⟨fun _ hh => absurd hh h, fun _ => .percent t⟩

/-- The pattern of a method has the form of the texts that the method finds. -/
theorem exists_pattern (hmethod : Expr.isTextMethod method = true) (harg : arg.value? = some v)
    (hs : v.coerce .string = .ok (.string s)) :
    ∃ text, pattern method [arg] = .ok text ∧
      ∀ t, HasForm (visible text) (visible t) ↔ Expr.Finds method HasForm s t := by
  have hargument : argumentText method arg = .ok s := by
    cases arg with
    | literal | captured =>
      cases harg
      simp only [argumentText, hs]
    | field | binary | call | record => cases harg
  rw [Expr.isTextMethod, Bool.or_eq_true, beq_iff_eq, beq_iff_eq] at hmethod
  rcases hmethod with rfl | rfl
  · -- Nothing stands before what `starts_with` finds.
    refine ⟨s ++ "%", by rw [pattern, hargument]; rfl, fun t => ?_⟩
    rw [visible_append_percent, HasForm.append_iff]
    constructor
    · rintro ⟨u, w, ht, hu, hw⟩
      exact ⟨[], u, w, ht, hu, fun _ => rfl, hasForm_tail.1 hw⟩
    · rintro ⟨before, u, w, ht, hu, hbefore, hw⟩
      rw [hbefore rfl, List.nil_append] at ht
      exact ⟨u, w, ht, hu, hasForm_tail.2 hw⟩
  · refine ⟨"%" ++ s ++ "%", by rw [pattern, hargument]; rfl, fun t => ?_⟩
    rw [String.append_assoc, visible_percent_append, visible_append_percent, HasForm.run_iff]
    simp only [HasForm.append_iff]
    constructor
    · rintro ⟨before, _, ht, u, w, rfl, hu, hw⟩
      exact ⟨before, u, w, by rw [ht, List.append_assoc], hu, fun h => absurd h (by decide),
        hasForm_tail.1 hw⟩
    · rintro ⟨before, u, w, ht, hu, -, hw⟩
      exact ⟨before, u ++ w, by rw [ht, List.append_assoc], u, w, rfl, hu, hasForm_tail.2 hw⟩

/-- The condition that is compiled for a method is true of the texts that the method finds,
    with the argument read as a pattern. It finds what reads like the argument, if that has no
    mark; and if it has one, there is a text in which it finds what is not there. -/
theorem call_finds (hmethod : Expr.isTextMethod method = true)
    (hreceiver : term m receiver [] = (.ok u, ps)) (harg : arg.value? = some v)
    (hs : v.coerce .string = .ok (.string s)) :
    ∃ c q, term m (.call method receiver [arg]) [] = (.ok c, ps ++ [q]) ∧
      compile m (.call method receiver [arg]) = .ok ⟨c.sql, ps ++ [q]⟩ ∧
      ∀ (env : Environment) (t : String), env.operators.MatchForms →
        env.eval u = .text t.toUTF8 → env.parameter q.name = .ofValue q.value →
        (env.holds c = true ↔ Expr.Finds method HasForm s t) ∧
        ((∀ a ∈ visible s, isMark a = false) →
          (env.holds c = true ↔ Expr.Finds method Alike s t)) ∧
        ((∃ a ∈ visible s, isMark a = true) → t = .ofList ((visible s).map fill) →
          env.holds c = true ∧ ¬Expr.Finds method Alike s t) := by
  obtain ⟨text, htext, hfinds⟩ := exists_pattern hmethod harg hs
  have hterm : term m (.call method receiver [arg]) [] =
      (.ok (.like u (place (.string text) ps).1), (place (.string text) ps).2) := by
    simp only [term, htext, hreceiver]
  refine ⟨_, _, hterm, by simp only [compile, fragment, hterm]; rfl, ?_⟩
  intro env t hoperators hu hq
  have hholds : env.holds (.like u (place (.string text) ps).1) = true ↔
      Expr.Finds method HasForm s t := by
    have hpattern : env.eval (place (.string text) ps).1 = .text text.toUTF8 := hq
    obtain ⟨b, hlike, hb⟩ := hoperators.like t text
    rw [Environment.holds, Environment.eval, hu, hpattern, hlike, hoperators.truth, beq_iff_eq,
      Option.some.injEq, hb, hfinds]
  refine ⟨hholds, fun hplain => hholds.trans (Expr.finds_hasForm_iff_alike hplain), ?_⟩
  rintro hmark rfl
  exact ⟨hholds.2 (Expr.finds_fill method s), Expr.not_finds_fill method hmark⟩

end Predicate

namespace Demo.Discount

/-- The condition that a name contains a discount of 50 percent. -/
def condition : Expr := .call "contains" (.field "name") [.literal (.string "50%")]

/-- A row with a name, in a statement with a parameter. -/
def named (name : String) (parameter : Value) : Environment :=
  ⟨fun _ => some (.text, .text name.toUTF8), fun _ => .ofValue parameter, .standard⟩

/-- The discount is found where its mark is filled in, and is not there. -/
theorem call_finds_filled :
    ∃ c q, Predicate.term Search.metadata condition [] = (.ok c, [q]) ∧
      (named "50x" q.value).holds c = true ∧ ¬Expr.Finds "contains" Alike "50%" "50x" := by
  have hreceiver : Predicate.term Search.metadata (.field "name") [] =
      (.ok (.column "name"), []) := by decide
  have hmethod : Expr.isTextMethod "contains" = true := by decide
  have harg : (Expr.literal (.string "50%")).value? = some (.string "50%") := rfl
  obtain ⟨c, q, hc, -, h⟩ := Predicate.call_finds hmethod hreceiver harg rfl
  have hmark : ∃ a ∈ visible "50%", isMark a = true := ⟨'%', by decide, rfl⟩
  have hfilled := (h (named "50x" q.value) "50x" Operators.matchForms_standard rfl rfl).2.2
  exact ⟨c, q, hc, hfilled hmark (by decide)⟩

/-- The discount is found in a text that it does not occur in. -/
theorem found_elsewhere :
    Predicate.term Search.metadata condition [] =
        (.ok (.like (.column "name") (.parameter "@p0")), [⟨"@p0", .string "%50%%"⟩]) ∧
      (named "500" (.string "%50%%")).eval (.column "name") = .text "500".toUTF8 ∧
      (named "500" (.string "%50%%")).holds (.like (.column "name") (.parameter "@p0")) = true ∧
      ¬∃ before stretch after, "500".toList = before ++ stretch ++ after ∧
        Alike "50%".toList stretch := by
  refine ⟨by decide, rfl, by decide +kernel, ?_⟩
  rintro ⟨before, stretch, after, hsplit, halike⟩
  have hneedle : "50%".toList = ['5', '0', '%'] := rfl
  rw [hneedle] at halike
  cases halike with
  | cons _ h => cases h with
    | cons _ h => cases h with
      | @cons _ c _ _ hc _ =>
        have hnone : ("500".toList.any fun c => sameButCase '%' c) = false := by decide
        have hmem : c ∈ "500".toList := by simp [hsplit]
        exact List.any_eq_false.1 hnone c hmem hc

end Demo.Discount

end EntityQuery
