import EntityQuery.Proofs.Decoding
import EntityQuery.Proofs.Placeholders
import EntityQuery.Proofs.Refusal

/-!
# Fragments under one numbering

Conditions that are taken apart one after the other share the numbering of their
placeholders: each goes on where the one before it stopped, whether that one was refused or
not. The text of a condition is made of pieces (`Piece`), and all that the numbering does to
it is to say from where on the places of the values are counted. The values that go to the
parameters are those that are met before the first fault (`Expr.visited`).

So no condition disturbs another one (`Predicate.fragments_undisturbed`). In every sequence
each is answered as it would be alone, but for the start of its numbering; it only adds to
the parameters, and its placeholders still find their own values when all conditions were
taken apart.
-/

namespace EntityQuery

open Predicate (placeholder numbered)
open Sql (Term)

/-- A piece of a text in which values have places. -/
inductive Piece where
  /-- Characters that stand as they are. -/
  | plain (text : String)
  /-- The place of a value. -/
  | place

namespace Piece

/-- The text of pieces whose places are numbered from `n` on. -/
def spell (n : Nat) : List Piece → String
  | [] => ""
  | plain text :: pieces => text ++ spell n pieces
  | place :: pieces => placeholder n ++ spell (n + 1) pieces

/-- How many values have a place. -/
def places : List Piece → Nat
  | [] => 0
  | plain _ :: pieces => places pieces
  | place :: pieces => places pieces + 1

theorem places_append (ps qs : List Piece) : places (ps ++ qs) = places ps + places qs := by
  fun_induction places ps with
  | case1 => exact (Nat.zero_add _).symm
  | case2 text ps ih => exact ih
  | case3 ps ih => rw [List.cons_append, places, ih, Nat.add_right_comm]

theorem spell_append (n : Nat) (ps qs : List Piece) :
    spell n (ps ++ qs) = spell n ps ++ spell (n + places ps) qs := by
  fun_induction spell n ps with
  | case1 => exact (String.empty_append).symm
  | case2 n text ps ih => rw [List.cons_append, spell, ih, places, String.append_assoc]
  | case3 n ps ih =>
    rw [List.cons_append, spell, ih, places, String.append_assoc, Nat.add_assoc, Nat.add_comm 1]

end Piece

/-- The values that an expression hands over before its first fault. -/
def Expr.visited (m : Metadata) : Expr → List Value
  | field _ | record _ => []
  | captured _ v | literal v => [v]
  | binary _ left right =>
    left.visited m ++ if left.faults m = [] then right.visited m else []
  | call method receiver args =>
    match pattern? method args with
    | none => []
    | some text => receiver.visited m ++ if receiver.faults m = [] then [.string text] else []

namespace Predicate

variable {m : Metadata} {e : Expr}

/-- What is asked of one condition among others that are taken apart before and after it:
    `before` and `after` are the parameters when it is begun and when it is done with,
    `final` are those at the end. -/
structure Undisturbed (m : Metadata) (e : Expr) (before after final : List Parameter)
    (result : Except Error String) : Prop where
  /-- Parameters are only added. -/
  grows : before <+: after ∧ after <+: final
  /-- The text is that of the condition alone with other numbers, and so are the parameters
      that are added. -/
  succeeds : ∀ p, compile m e = .ok p →
    (∃ pieces, Piece.places pieces = p.parameters.length ∧ p.sql = Piece.spell 0 pieces ∧
      result = .ok (Piece.spell before.length pieces)) ∧
    after = before ++ numbered before.length (p.parameters.map (·.value))
  /-- Each placeholder of the text finds its own value at the end. -/
  finds : ∀ p, compile m e = .ok p → ∀ i < p.parameters.length,
    valueOf? final (placeholder (before.length + i)) = (p.parameters.map (·.value))[i]?
  /-- The error is that of the condition alone, and nothing is added but values that were
      met before the fault. -/
  refused : ∀ err, compile m e = .error err →
    result = .error err ∧ e.visited m <+: e.placed ∧
      after = before ++ numbered before.length (e.visited m)

/-! ## One condition -/

/-- What can be lowered under one numbering can be lowered under every other, and only the
    numbers in the text differ. -/
theorem Lowers.exists_pieces {n : Nat} {t : Term} {vs : List Value} (h : Lowers m e n t vs) :
    ∃ pieces, Piece.places pieces = vs.length ∧
      ∀ k, ∃ t', Lowers m e k t' vs ∧ t'.sql = Piece.spell k pieces := by
  induction h with
  | field hb =>
    exact ⟨[.plain _], rfl, fun k => ⟨_, .field hb, (String.append_empty).symm⟩⟩
  | captured => exact ⟨[.place], rfl, fun k => ⟨_, .captured, (String.append_empty).symm⟩⟩
  | literal => exact ⟨[.place], rfl, fun k => ⟨_, .literal, (String.append_empty).symm⟩⟩
  | @binary op left right n l r vs ws _ _ ihl ihr =>
    obtain ⟨ps, hps, hl⟩ := ihl
    obtain ⟨qs, hqs, hr⟩ := ihr
    refine ⟨.plain "(" :: (ps ++ .plain (" " ++ op.symbol ++ " ") :: (qs ++ [.plain ")"])), ?_,
      fun k => ?_⟩
    · simp only [Piece.places, Piece.places_append, hps, hqs, List.length_append, Nat.add_zero]
    · obtain ⟨l', hl', hlsql⟩ := hl k
      obtain ⟨r', hr', hrsql⟩ := hr (k + vs.length)
      refine ⟨_, .binary hl' hr', ?_⟩
      simp only [Term.sql, hlsql, hrsql, Piece.spell, Piece.spell_append, hps, String.append_assoc,
        String.append_empty]
  | @call method text receiver args n t vs hp _ ih =>
    obtain ⟨ps, hps, ht⟩ := ih
    refine ⟨.plain "(" :: (ps ++ [.plain " LIKE ", .place, .plain ")"]), ?_, fun k => ?_⟩
    · rw [Piece.places, Piece.places_append, hps, List.length_append]
      rfl
    · obtain ⟨t', ht', htsql⟩ := ht k
      refine ⟨_, .call hp ht', ?_⟩
      simp only [Term.sql, htsql, Piece.spell, Piece.spell_append, hps, String.append_assoc,
        String.append_empty]

/-- Nothing is wrong with a condition that is taken apart with success. -/
theorem faults_eq_nil_of_ok {ps : List Parameter} {t : Term} (h : (term m e ps).1 = .ok t) :
    e.faults m = [] := by
  have hfault := fault?_term (m := m) e ps
  rwa [h, fault?, eq_comm, List.head?_eq_none_iff] at hfault

/-- Something is wrong with a condition that is refused. -/
theorem faults_ne_nil_of_error {ps : List Parameter} {err : Error}
    (h : (term m e ps).1 = .error err) : e.faults m ≠ [] := by
  have hfault := fault?_term (m := m) e ps
  rintro hnil
  rw [h, hnil] at hfault
  cases hfault

/-- The parameters grow by the values that are met before the first fault. -/
theorem term_snd (e : Expr) (ps : List Parameter) :
    (term m e ps).2 = ps ++ numbered ps.length (e.visited m) := by
  fun_induction term m e ps with
  | case1 | case2 | case11 => simp [Expr.visited]
  | case3 | case4 => rfl
  | case5 op left right ps err qs hl ihl =>
    -- The left side is refused, and the right one is not met.
    have hfaults := faults_ne_nil_of_error (congrArg Prod.fst hl)
    rw [hl] at ihl
    simpa only [Expr.visited, if_neg hfaults, List.append_nil] using ihl
  | case6 op left right ps l qs hl _ rs hr ihl ihr
  | case7 op left right ps l qs hl _ rs hr ihl ihr =>
    have hfaults := faults_eq_nil_of_ok (congrArg Prod.fst hl)
    rw [hl] at ihl
    rw [hr] at ihr
    dsimp only at ihl ihr ⊢
    rw [ihr, ihl, Expr.visited, if_pos hfaults, numbered_append]
    simp only [List.length_append, length_numbered, List.append_assoc]
  | case8 method receiver args ps fault hp => simp [Expr.visited, pattern?_of_error hp]
  | case9 method receiver args ps text hp err qs ht ih =>
    have hfaults := faults_ne_nil_of_error (congrArg Prod.fst ht)
    rw [ht] at ih
    simpa only [Expr.visited, pattern_eq_ok.1 hp, if_neg hfaults, List.append_nil] using ih
  | case10 method receiver args ps text hp t qs ht ih =>
    have hfaults := faults_eq_nil_of_ok (congrArg Prod.fst ht)
    rw [ht] at ih
    dsimp only at ih ⊢
    simp only [ih, Expr.visited, pattern_eq_ok.1 hp, if_pos hfaults, place, numbered_append,
      List.append_assoc, List.length_append, length_numbered]
    rfl

/-- Of a condition with which nothing is wrong all values are met. -/
theorem visited_eq_placed (h : e.faults m = []) : e.visited m = e.placed := by
  have hsnd := term_snd (m := m) e []
  rcases hterm : term m e [] with ⟨err | t, qs⟩
  · exact absurd h (faults_ne_nil_of_error (congrArg Prod.fst hterm))
  · obtain ⟨vs, hv, rfl⟩ := lowers_of_term_eq hterm
    rw [hterm] at hsnd
    rw [← hv.values_eq.1, ← map_value_numbered 0 (e.visited m), ← map_value_numbered 0 vs]
    exact congrArg (List.map _) hsnd.symm

/-- What is met before the first fault are the first of the values that are handed over. -/
theorem visited_prefix (e : Expr) : e.visited m <+: e.placed := by
  fun_induction Expr.visited m e with
  | case1 | case2 | case3 | case4 => exact List.prefix_refl _
  | case5 op left right ihl ihr =>
    split
    · next hfaults =>
      rw [visited_eq_placed hfaults]
      exact (List.prefix_append_right_inj _).2 ihr
    · rw [List.append_nil]
      exact ihl.trans (List.prefix_append _ _)
  | case6 => exact List.nil_prefix
  | case7 method receiver args text hp ih =>
    rw [Expr.placed, hp]
    split
    · next hfaults =>
      rw [visited_eq_placed hfaults]
      exact List.prefix_refl _
    · rw [List.append_nil]
      exact ih.trans (List.prefix_append _ _)

/-! ## One after the other -/

theorem fragment_eq (e : Expr) (ps : List Parameter) :
    fragment m e ps = ((term m e ps).1.map Term.sql, (term m e ps).2) := by
  rw [fragment]
  rcases term m e ps with ⟨_ | t, qs⟩ <;> rfl

/-- The parameters after a condition was taken apart. -/
theorem fragment_snd (e : Expr) (ps : List Parameter) :
    (fragment m e ps).2 = ps ++ numbered ps.length (e.visited m) := by
  rw [fragment_eq, term_snd]

/-- Conditions are taken apart in two goes as in one. -/
theorem fragments_append (es es' : List Expr) (ps : List Parameter) :
    fragments m (es ++ es') ps =
      ((fragments m es ps).1 ++ (fragments m es' (fragments m es ps).2).1,
        (fragments m es' (fragments m es ps).2).2) := by
  induction es generalizing ps with
  | nil => rfl
  | cons e es ih => simp only [List.cons_append, fragments, ih]

theorem length_fragments (es : List Expr) (ps : List Parameter) :
    (fragments m es ps).1.length = es.length := by
  induction es generalizing ps with
  | nil => rfl
  | cons e es ih => simp only [fragments, List.length_cons, ih]

/-- The parameters after conditions were taken apart, refused ones among them. -/
theorem fragments_snd (es : List Expr) (ps : List Parameter) :
    (fragments m es ps).2 = ps ++ numbered ps.length (es.flatMap (·.visited m)) := by
  induction es generalizing ps with
  | nil => exact (List.append_nil _).symm
  | cons e es ih =>
    simp only [fragments, ih, fragment_snd, List.flatMap_cons, numbered_append, List.append_assoc,
      List.length_append, length_numbered]

/-- A condition that is compiled has the values that are met in it for parameters. -/
theorem parameters_of_compile {p : Predicate} (h : compile m e = .ok p) :
    p.parameters = numbered 0 (e.visited m) := by
  have hsnd := fragment_snd (m := m) e []
  rw [compile] at h
  split at h
  · cases h
  · next hfragment =>
    cases h
    rw [hfragment] at hsnd
    exact hsnd

/-- The text of a condition that is compiled is that of pieces, and it is the text of the same
    pieces wherever the numbering starts. -/
theorem exists_pieces_of_compile {p : Predicate} (h : compile m e = .ok p) :
    ∃ pieces, Piece.places pieces = p.parameters.length ∧ p.sql = Piece.spell 0 pieces ∧
      ∀ ps, (fragment m e ps).1 = .ok (Piece.spell ps.length pieces) := by
  obtain ⟨t, vs, hlowers, rfl⟩ := compile_eq_ok_iff.1 h
  obtain ⟨pieces, hplaces, hpieces⟩ := hlowers.exists_pieces
  refine ⟨pieces, by rw [hplaces, length_numbered], ?_, fun ps => ?_⟩
  · obtain ⟨t', hlowers', hsql⟩ := hpieces 0
    rw [(hlowers.unique hlowers').1]
    exact hsql
  · obtain ⟨t', hlowers', hsql⟩ := hpieces ps.length
    rw [fragment_eq, hlowers'.term_eq rfl, ← hsql]
    rfl

/-- A condition is refused for the same reason wherever the numbering starts. -/
theorem fragment_of_compile_error {err : Error} (h : compile m e = .error err)
    (ps : List Parameter) : (fragment m e ps).1 = .error err := by
  rw [← fault?_eq_some_iff, fault?_compile] at h
  rw [← fault?_eq_some_iff, fragment_eq, fault?_map, fault?_term, h]

/-- A condition that starts from numbered parameters is not disturbed by those before it, nor
    by what is added after it. -/
theorem undisturbed (e : Expr) (vs ws : List Value) :
    Undisturbed m e (numbered 0 vs) (fragment m e (numbered 0 vs)).2
      (numbered 0 (vs ++ e.visited m ++ ws)) (fragment m e (numbered 0 vs)).1 where
  grows := by
    rw [fragment_snd, numbered_append, numbered_append, length_numbered, Nat.zero_add]
    exact ⟨List.prefix_append _ _, List.prefix_append _ _⟩
  succeeds p hp := by
    obtain ⟨pieces, hplaces, hsql, htext⟩ := exists_pieces_of_compile hp
    refine ⟨⟨pieces, hplaces, hsql, htext _⟩, ?_⟩
    rw [fragment_snd, parameters_of_compile hp, map_value_numbered]
  finds p hp i hi := by
    have hvalue := valueOf?_numbered 0 (vs.length + i) (vs ++ e.visited m ++ ws)
    rw [Nat.zero_add] at hvalue
    rw [parameters_of_compile hp, length_numbered] at hi
    rw [parameters_of_compile hp, map_value_numbered, length_numbered, hvalue, List.append_assoc,
      List.getElem?_append_right (Nat.le_add_right _ _), Nat.add_sub_cancel_left,
      List.getElem?_append_left hi]
  refused err herr := ⟨fragment_of_compile_error herr _, visited_prefix e, fragment_snd e _⟩

/-- No condition disturbs another one under the same numbering, refused ones included. In every
    sequence of conditions each has its result, and the parameters at the end bear the numbers
    of their places. Each condition is compiled or refused as it would be alone: it starts from
    the parameters of those before it, to which it only adds, and its placeholders find their
    own values at the end. -/
theorem fragments_undisturbed (m : Metadata) (es : List Expr) :
    (fragments m es []).1.length = es.length ∧
    (fragments m es []).2.map (·.name) =
      (List.range (fragments m es []).2.length).map placeholder ∧
    ∀ earlier e later, es = earlier ++ e :: later →
      ∃ result, (fragments m es []).1[earlier.length]? = some result ∧
        Undisturbed m e (fragments m earlier []).2 (fragments m (earlier ++ [e]) []).2
          (fragments m es []).2 result := by
  have hparameters (es : List Expr) :
      (fragments m es []).2 = numbered 0 (es.flatMap (·.visited m)) := fragments_snd es []
  refine ⟨length_fragments es [], ?_, ?_⟩
  · rw [hparameters, map_name_numbered, length_numbered, List.range_eq_range']
  · rintro earlier e later rfl
    have hundisturbed := undisturbed (m := m) e (earlier.flatMap (·.visited m))
      (later.flatMap (·.visited m))
    refine ⟨(fragment m e (fragments m earlier []).2).1, ?_, ?_⟩
    · have hlength := length_fragments (m := m) earlier []
      rw [fragments_append, List.getElem?_append_right (Nat.le_of_eq hlength), hlength,
        Nat.sub_self]
      rfl
    · have hafter : (fragments m (earlier ++ [e]) []).2 =
          (fragment m e (fragments m earlier []).2).2 := by
        rw [fragments_append]
        rfl
      rw [hafter, hparameters, hparameters, List.flatMap_append, List.flatMap_cons,
        ← List.append_assoc]
      exact hundisturbed

end Predicate

namespace Demo.Search

/-- A condition on a field that users do not have, after a value. -/
def stranger : Expr := .binary .eq (.literal (.int64 7)) (.field "nickname")

/-- The condition that a name has a part. -/
def named : Expr := .call "contains" (.field "name") [.captured "part" (.string "li")]

/-- Conditions that are compiled and conditions that are refused. -/
def mixed : List Expr :=
  [.binary .ge (.field "age") (.literal (.int32 18)), stranger, .record [], named]

theorem fragments_undisturbed_mixed :
    mixed = mixed.take 1 ++ stranger :: [.record [], named] ∧
    mixed = mixed.take 3 ++ named :: [] ∧
    Predicate.Undisturbed metadata stranger [⟨"@p0", .int32 18⟩]
      [⟨"@p0", .int32 18⟩, ⟨"@p1", .int64 7⟩] (Predicate.fragments metadata mixed []).2
      (.error (.unmappedField "User" "nickname")) ∧
    Predicate.Undisturbed metadata named [⟨"@p0", .int32 18⟩, ⟨"@p1", .int64 7⟩]
      [⟨"@p0", .int32 18⟩, ⟨"@p1", .int64 7⟩, ⟨"@p2", .string "%li%"⟩]
      (Predicate.fragments metadata mixed []).2 (.ok "(name LIKE @p2)") := by
  obtain ⟨-, -, hundisturbed⟩ := Predicate.fragments_undisturbed metadata mixed
  refine ⟨rfl, rfl, ?_, ?_⟩
  · obtain ⟨result, hresult, hstranger⟩ := hundisturbed (mixed.take 1) stranger _ rfl
    cases hresult
    exact hstranger
  · obtain ⟨result, hresult, hnamed⟩ := hundisturbed (mixed.take 3) named [] rfl
    cases hresult
    exact hnamed

end Demo.Search

end EntityQuery
