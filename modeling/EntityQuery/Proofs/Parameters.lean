import EntityQuery.Sql.Select

/-!
# Parameters of what is read

A selection refers to the parameters that stand among the tokens it is read from, in
their order, and to no others: no reader drops a parameter, takes one for something
else, or changes the order (`Accounted`). So, if a statement is read to its end, the
parameters of the selection are those of the tokens (`parameters_of_parse?`).
-/

namespace EntityQuery.Sql

/-- The parameter that a token is, if it is one. -/
def Token.parameter? : Token → Option String
  | .parameter s => some s
  | _ => none

/-- The parameters among tokens. -/
def parametersOf (ts : List Token) : List String := ts.filterMap Token.parameter?

theorem mem_parametersOf {ts : List Token} {name : String} :
    name ∈ parametersOf ts ↔ .parameter name ∈ ts := by
  rw [parametersOf, List.mem_filterMap]
  constructor
  · rintro ⟨t, ht, hname⟩
    cases t <;> cases hname
    exact ht
  · exact fun h => ⟨_, h, rfl⟩

@[simp] theorem parametersOf_nil : parametersOf [] = [] := rfl

@[simp] theorem parametersOf_append (ts us : List Token) :
    parametersOf (ts ++ us) = parametersOf ts ++ parametersOf us :=
  List.filterMap_append

theorem parametersOf_cons {t : Token} (h : t.parameter? = none) (ts : List Token) :
    parametersOf (t :: ts) = parametersOf ts :=
  List.filterMap_cons_none h

/-- What was read has the parameters of the tokens taken for it, after known ones; the
    other tokens are left. -/
def Accounted {α : Type} (known : List String) (ts : List Token) (parameters : α → List String)
    (r : Read α) : Prop :=
  ∀ a rest, r = some (a, rest) →
    rest <:+ ts ∧ known ++ parametersOf ts = parameters a ++ parametersOf rest

namespace Token

theorem parameter?_of_name? {t : Token} {name : String} (h : t.name? = some name) :
    t.parameter? = none := by
  cases t with
  | parameter => cases h
  | _ => rfl

theorem parameter?_of_anyName? {t : Token} {name : String} (h : t.anyName? = some name) :
    t.parameter? = none := by
  cases t with
  | parameter => cases h
  | _ => rfl

theorem parameter?_of_isWord {t : Token} {w : String} (h : t.isWord w = true) :
    t.parameter? = none := by
  cases t with
  | word => rfl
  | _ => cases h

/-- An operator is no parameter, and the term that it makes of two has the parameters of
    both. -/
theorem operator?_accounted {t : Token} {s : Nat} {apply : Term → Term → Term}
    (h : t.operator? = some (s, apply)) :
    t.parameter? = none ∧
      ∀ l r, (apply l r).parameters = l.parameters ++ r.parameters := by
  unfold operator? at h
  split at h
  case h_9 =>
    split at h
    · next hw =>
      cases h
      exact ⟨parameter?_of_isWord hw, fun _ _ => rfl⟩
    · split at h
      · next hw =>
        cases h
        exact ⟨parameter?_of_isWord hw, fun _ _ => rfl⟩
      · split at h
        · next hw =>
          cases h
          exact ⟨parameter?_of_isWord hw, fun _ _ => rfl⟩
        · cases h
  all_goals
    cases h
    exact ⟨rfl, fun _ _ => rfl⟩

end Token

namespace Term

/-- A name stands for a term without a parameter, and is none itself. -/
theorem parameters_of_ofName? {t : Token} {term : Term} (h : ofName? t = some term) :
    t.parameter? = none ∧ term.parameters = [] := by
  unfold ofName? at h
  split at h
  · cases h
    exact ⟨rfl, rfl⟩
  · split at h
    · cases h
    · cases h
      exact ⟨rfl, rfl⟩
  · obtain ⟨name, hn, rfl⟩ := Option.map_eq_some_iff.1 h
    exact ⟨Token.parameter?_of_name? hn, rfl⟩

theorem accounted_readMembers (t : Token) (ts : List Token) :
    Accounted [] (t :: ts) parameters (readMembers t ts) := by
  intro term rest h
  unfold readMembers at h
  split at h
  · split at h
    · next a b c ha hb hc =>
      cases h
      refine ⟨⟨[t, .sign ".", _, .sign ".", _], rfl⟩, ?_⟩
      rw [parametersOf_cons (Token.parameter?_of_anyName? ha), parametersOf_cons rfl,
        parametersOf_cons (Token.parameter?_of_anyName? hb), parametersOf_cons rfl,
        parametersOf_cons (Token.parameter?_of_anyName? hc)]
      rfl
    · cases h
  · split at h
    · next a b ha hb =>
      cases h
      refine ⟨⟨[t, .sign ".", _], rfl⟩, ?_⟩
      rw [parametersOf_cons (Token.parameter?_of_anyName? ha), parametersOf_cons rfl,
        parametersOf_cons (Token.parameter?_of_anyName? hb)]
      rfl
    · cases h
  · split at h
    · cases h
      exact ⟨List.suffix_cons _ _, rfl⟩
    · obtain ⟨term', ht, he⟩ := Option.map_eq_some_iff.1 h
      cases he
      obtain ⟨hp, hn⟩ := parameters_of_ofName? ht
      refine ⟨List.suffix_cons _ _, ?_⟩
      rw [parametersOf_cons hp, hn]

/-- What the readers of terms take with so much fuel is accounted for. -/
structure ReadersAccount (n : Nat) : Prop where
  read (strength : Nat) (ts : List Token) :
    Accounted [] ts parameters (Term.read n strength ts)
  readOperators (strength : Nat) (left : Term) (ts : List Token) :
    Accounted left.parameters ts parameters (Term.readOperators n strength left ts)
  readOperand (ts : List Token) : Accounted [] ts parameters (Term.readOperand n ts)
  readRow (ts : List Token) : Accounted [] ts parameters (Term.readRow n ts)

theorem accounted_read_succ {n : Nat} (ih : ReadersAccount n) (strength : Nat) (ts : List Token) :
    Accounted [] ts parameters (Term.read (n + 1) strength ts) := by
  intro term rest h
  rw [Term.read] at h
  split at h
  · cases h
  · next left us hl =>
    obtain ⟨hsuffix, hleft⟩ := ih.readOperand ts left us hl
    obtain ⟨hsuffix', hterm⟩ := ih.readOperators strength left us term rest h
    exact ⟨hsuffix'.trans hsuffix, hleft.trans hterm⟩

theorem accounted_readOperators_succ {n : Nat} (ih : ReadersAccount n) (strength : Nat)
    (left : Term) (ts : List Token) :
    Accounted left.parameters ts parameters (Term.readOperators (n + 1) strength left ts) := by
  intro term rest h
  cases ts with
  | nil =>
    cases h
    exact ⟨List.suffix_refl _, rfl⟩
  | cons t ts =>
    rw [Term.readOperators] at h
    split at h
    · cases h
      exact ⟨List.suffix_refl _, rfl⟩
    · next s apply ho =>
      obtain ⟨ht, ha⟩ := Token.operator?_accounted ho
      split at h
      · cases h
        exact ⟨List.suffix_refl _, rfl⟩
      · split at h
        · cases h
        · next right us hr =>
          obtain ⟨hsuffix, hright⟩ := ih.read (s + 1) ts right us hr
          obtain ⟨hsuffix', hwhole⟩ := ih.readOperators strength (apply left right) us term rest h
          refine ⟨(hsuffix'.trans hsuffix).trans (List.suffix_cons _ _), ?_⟩
          rw [List.nil_append] at hright
          rw [parametersOf_cons ht, hright, ← List.append_assoc, ← ha]
          exact hwhole

/-- Of a cast a word and a parenthesis come before the term, and a word, a type and a
    parenthesis after it, none of which is a parameter. -/
theorem accounted_cast {t a b : Token} {us rest : List Token} {inner : Term}
    (ht : t.parameter? = none) (ha : a.parameter? = none) (hb : b.parameter? = none)
    (hsuffix : a :: b :: .sign ")" :: rest <:+ us)
    (hterm : parametersOf us = inner.parameters ++ parametersOf (a :: b :: .sign ")" :: rest)) :
    rest <:+ t :: .sign "(" :: us ∧
      parametersOf (t :: .sign "(" :: us) = (castText inner).parameters ++ parametersOf rest := by
  obtain ⟨taken, rfl⟩ := hsuffix
  refine ⟨⟨t :: .sign "(" :: (taken ++ [a, b, .sign ")"]), by simp⟩, ?_⟩
  rw [parametersOf_cons ht, parametersOf_cons rfl, hterm, parametersOf_cons ha,
    parametersOf_cons hb, parametersOf_cons rfl]
  rfl

theorem accounted_readOperand_succ {n : Nat} (ih : ReadersAccount n) (ts : List Token) :
    Accounted [] ts parameters (Term.readOperand (n + 1) ts) := by
  intro term rest h
  cases ts with
  | nil => cases h
  | cons t ts =>
    rw [Term.readOperand.eq_def] at h
    dsimp only at h
    split at h
    · cases h
      exact ⟨List.suffix_cons _ _, rfl⟩
    · cases h
      exact ⟨List.suffix_cons _ _, rfl⟩
    · cases h
      exact ⟨List.suffix_cons _ _, rfl⟩
    · obtain ⟨hsuffix, hrow⟩ := ih.readRow ts term rest h
      exact ⟨hsuffix.trans (List.suffix_cons _ _), hrow⟩
    · -- A conversion to text: only the term inside of it has parameters.
      split at h
      · next us hcast =>
        split at h
        · cases h
        · next inner vs hinner =>
          split at h
          · next a b ws =>
            split at h
            · next hab =>
              cases h
              rw [Bool.and_eq_true] at hab
              obtain ⟨hsuffix, hterm⟩ := ih.read 0 us inner _ hinner
              exact accounted_cast (Token.parameter?_of_isWord hcast)
                (Token.parameter?_of_isWord hab.1) (Token.parameter?_of_isWord hab.2) hsuffix hterm
            · cases h
          · cases h
      · split at h
        · next hnull =>
          cases h
          refine ⟨List.suffix_cons _ _, ?_⟩
          rw [parametersOf_cons (Token.parameter?_of_isWord hnull)]
          rfl
        · exact accounted_readMembers _ _ term rest h

theorem accounted_readRow_succ {n : Nat} (ih : ReadersAccount n) (ts : List Token) :
    Accounted [] ts parameters (Term.readRow (n + 1) ts) := by
  intro term rest h
  rw [Term.readRow] at h
  split at h
  · next first us hr =>
    cases h
    obtain ⟨hsuffix, hfirst⟩ := ih.read 0 ts _ _ hr
    exact ⟨(List.suffix_cons _ _).trans hsuffix, hfirst⟩
  · next first us hr =>
    split at h
    · cases h
    · next others vs hrow =>
      cases h
      obtain ⟨hsuffix, hfirst⟩ := ih.read 0 ts _ _ hr
      obtain ⟨hsuffix', hothers⟩ := ih.readRow us others rest hrow
      refine ⟨(hsuffix'.trans (List.suffix_cons _ _)).trans hsuffix, ?_⟩
      rw [List.nil_append] at hothers
      rw [hfirst, parametersOf_cons rfl, hothers, ← List.append_assoc]
      rfl
  · cases h

/-- By induction on the fuel, each reader takes what the others have accounted for. -/
theorem readersAccount (n : Nat) : ReadersAccount n := by
  induction n with
  | zero =>
    refine ⟨?_, ?_, ?_, ?_⟩
    · intro _ _ _ _ h
      cases h
    · intro _ _ _ _ _ h
      cases h
    · intro _ _ _ h
      cases h
    · intro _ _ _ h
      cases h
  | succ n ih =>
    exact ⟨accounted_read_succ ih, accounted_readOperators_succ ih, accounted_readOperand_succ ih,
      accounted_readRow_succ ih⟩

theorem accounted_parse (ts : List Token) : Accounted [] ts parameters (parse ts) :=
  (readersAccount _).read 0 ts

end Term

/-- The parameters of an item. -/
def SelectItem.parameters (item : SelectItem) : List String :=
  item.term?.toList.flatMap (·.parameters)

namespace Select

theorem accounted_readName (ts : List Token) :
    Accounted [] ts (fun _ => []) (readName ts) := by
  intro name rest h
  cases ts with
  | nil => cases h
  | cons t ts =>
    obtain ⟨name', hn, he⟩ := Option.map_eq_some_iff.1 h
    cases he
    exact ⟨List.suffix_cons _ _, parametersOf_cons (Token.parameter?_of_anyName? hn) _⟩

theorem accounted_readAlias (ts : List Token) :
    Accounted [] ts (fun _ => []) (readAlias ts) := by
  intro name rest h
  cases ts with
  | nil =>
    cases h
    exact ⟨List.suffix_refl _, rfl⟩
  | cons t ts =>
    rw [readAlias.eq_def] at h
    dsimp only at h
    split at h
    · next has =>
      obtain ⟨⟨name', us⟩, hn, he⟩ := Option.map_eq_some_iff.1 h
      cases he
      obtain ⟨hsuffix, hname⟩ := accounted_readName ts _ _ hn
      refine ⟨hsuffix.trans (List.suffix_cons _ _), ?_⟩
      rw [parametersOf_cons (Token.parameter?_of_isWord has)]
      exact hname
    · split at h
      · split at h <;> cases h
        · exact ⟨List.suffix_cons _ _, rfl⟩
        · exact ⟨List.suffix_refl _, rfl⟩
      · cases h
        exact ⟨List.suffix_cons _ _, rfl⟩
      · cases h
        exact ⟨List.suffix_cons _ _, rfl⟩
      · cases h
        exact ⟨List.suffix_refl _, rfl⟩

theorem accounted_readItem (ts : List Token) :
    Accounted [] ts SelectItem.parameters (readItem ts) := by
  intro item rest h
  unfold readItem at h
  split at h
  · cases h
    exact ⟨List.suffix_cons _ _, rfl⟩
  · obtain ⟨owner, ho, he⟩ := Option.map_eq_some_iff.1 h
    cases he
    refine ⟨⟨[_, .sign ".", .sign "*"], rfl⟩, ?_⟩
    rw [parametersOf_cons (Token.parameter?_of_anyName? ho), parametersOf_cons rfl,
      parametersOf_cons rfl]
    rfl
  · split at h
    · cases h
    · next term us ht =>
      obtain ⟨⟨name, vs⟩, ha, he⟩ := Option.map_eq_some_iff.1 h
      cases he
      obtain ⟨hsuffix, hterm⟩ := Term.accounted_parse _ _ _ ht
      obtain ⟨hsuffix', halias⟩ := accounted_readAlias us _ _ ha
      refine ⟨hsuffix'.trans hsuffix, ?_⟩
      rw [List.nil_append, List.nil_append] at halias
      rw [hterm, halias]
      simp [SelectItem.parameters, SelectItem.term?]

theorem accounted_readItems (n : Nat) (ts : List Token) :
    Accounted [] ts (·.flatMap SelectItem.parameters) (readItems n ts) := by
  induction n generalizing ts with
  | zero =>
    intro _ _ h
    cases h
  | succ n ih =>
    intro items rest h
    rw [readItems] at h
    split at h
    · cases h
    · next item us hi =>
      obtain ⟨hsuffix, hitem⟩ := accounted_readItem ts _ _ hi
      split at h
      · cases h
      · next items' vs his =>
        cases h
        obtain ⟨hsuffix', hitems⟩ := ih us _ _ his
        refine ⟨(hsuffix'.trans (List.suffix_cons _ _)).trans hsuffix, ?_⟩
        rw [List.nil_append] at hitems
        rw [hitem, parametersOf_cons rfl, hitems]
        simp only [List.flatMap_cons, List.append_assoc]
    · next item us _ hi =>
      cases h
      obtain ⟨hsuffix, hitem⟩ := accounted_readItem ts _ _ hi
      refine ⟨hsuffix, ?_⟩
      rw [hitem]
      simp only [List.flatMap_cons, List.flatMap_nil, List.append_nil]

theorem accounted_readTableName (ts : List Token) :
    Accounted [] ts (fun _ => []) (readTableName ts) := by
  intro name rest h
  unfold readTableName at h
  split at h
  · next t u us =>
    split at h
    · next ha hb =>
      cases h
      refine ⟨⟨[t, .sign ".", u], rfl⟩, ?_⟩
      rw [parametersOf_cons (Token.parameter?_of_anyName? ha), parametersOf_cons rfl,
        parametersOf_cons (Token.parameter?_of_anyName? hb)]
    · cases h
  · obtain ⟨⟨name', us⟩, hn, he⟩ := Option.map_eq_some_iff.1 h
    cases he
    exact accounted_readName _ _ _ hn

theorem accounted_readSource (ts : List Token) :
    Accounted [] ts (fun _ => []) (readSource ts) := by
  intro source rest h
  rw [readSource] at h
  split at h
  · cases h
  · next table us ht =>
    obtain ⟨⟨name, vs⟩, ha, he⟩ := Option.map_eq_some_iff.1 h
    cases he
    obtain ⟨hsuffix, htable⟩ := accounted_readTableName ts _ _ ht
    obtain ⟨hsuffix', halias⟩ := accounted_readAlias us _ _ ha
    exact ⟨hsuffix'.trans hsuffix, htable.trans halias⟩

theorem accounted_readNumber (ts : List Token) :
    Accounted [] ts (fun _ => []) (readNumber ts) := by
  intro n rest h
  unfold readNumber at h
  split at h
  · cases h
    exact ⟨List.suffix_cons _ _, rfl⟩
  · cases h

/-- A part after a word is accounted for by its reader. -/
theorem accounted_readAfter {α : Type} {parameters : α → List String} {w : String}
    {reader : List Token → Read α} (hr : ∀ ts, Accounted [] ts parameters (reader ts))
    (ts : List Token) :
    Accounted [] ts (·.toList.flatMap parameters) (readAfter w reader ts) := by
  intro a rest h
  cases ts with
  | nil =>
    cases h
    exact ⟨List.suffix_refl _, rfl⟩
  | cons t ts =>
    rw [readAfter] at h
    split at h
    · next hw =>
      obtain ⟨⟨a', us⟩, ha, he⟩ := Option.map_eq_some_iff.1 h
      cases he
      obtain ⟨hsuffix, hpart⟩ := hr ts _ _ ha
      refine ⟨hsuffix.trans (List.suffix_cons _ _), ?_⟩
      rw [parametersOf_cons (Token.parameter?_of_isWord hw), hpart]
      simp
    · cases h
      exact ⟨List.suffix_refl _, rfl⟩

theorem parameters_eq (s : Select) :
    s.parameters =
      s.items.flatMap SelectItem.parameters ++ s.condition.toList.flatMap (·.parameters) := by
  rw [parameters, terms, List.flatMap_append]
  congr 1
  induction s.items with
  | nil => rfl
  | cons item items ih =>
    rw [List.flatMap_cons, ← ih]
    cases item <;> simp [SelectItem.parameters, SelectItem.term?]

/-- A selection is read part by part, up to the end of the statement. -/
theorem ofTokens?_eq_some_iff {t : Token} {ts : List Token} {s : Select} :
    ofTokens? (t :: ts) = some s ↔
      t.isWord "select" = true ∧ ∃ us vs ws rest,
        readItems (ts.length + 1) ts = some (s.items, us) ∧
        readAfter "from" readSource us = some (s.source, vs) ∧
        readAfter "where" Term.parse vs = some (s.condition, ws) ∧
        readAfter "limit" readNumber ws = some (s.limit, rest) ∧ atEnd rest = true := by
  simp only [ofTokens?, Option.bind_eq_bind]
  cases hw : t.isWord "select"
  · simp
  simp only [Bool.not_true, Bool.false_eq_true, if_false, true_and]
  constructor
  · intro h
    obtain ⟨⟨items, us⟩, hi, h⟩ := Option.bind_eq_some_iff.1 h
    obtain ⟨⟨source, vs⟩, hs, h⟩ := Option.bind_eq_some_iff.1 h
    obtain ⟨⟨condition, ws⟩, hc, h⟩ := Option.bind_eq_some_iff.1 h
    obtain ⟨⟨limit, rest⟩, hl, h⟩ := Option.bind_eq_some_iff.1 h
    split at h
    · next he =>
      cases h
      exact ⟨us, vs, ws, rest, hi, hs, hc, hl, he⟩
    · cases h
  · rintro ⟨us, vs, ws, rest, hi, hs, hc, hl, he⟩
    simp [hi, hs, hc, hl, he]

/-- A statement without a semicolon is read as a whole, with all its parameters. -/
theorem parameters_of_parse? {sql : String} {s : Select} (h : parse? sql = some s)
    (hsemicolon : .sign ";" ∉ tokens sql) : s.parameters = parametersOf (tokens sql) := by
  rw [parse?] at h
  generalize tokens sql = ts at h hsemicolon
  cases ts with
  | nil => cases h
  | cons t ts =>
    obtain ⟨hw, us, vs, ws, rest, hi, hs, hc, hl, he⟩ := ofTokens?_eq_some_iff.1 h
    obtain ⟨hsuffix₁, hi⟩ := accounted_readItems _ _ _ _ hi
    obtain ⟨hsuffix₂, hs⟩ := accounted_readAfter accounted_readSource _ _ _ hs
    obtain ⟨hsuffix₃, hc⟩ := accounted_readAfter Term.accounted_parse _ _ _ hc
    obtain ⟨hsuffix₄, hl⟩ := accounted_readAfter accounted_readNumber _ _ _ hl
    -- Whatever is left starts with a semicolon, and there is none.
    have hsuffix : rest <:+ t :: ts :=
      (((hsuffix₄.trans hsuffix₃).trans hsuffix₂).trans hsuffix₁).trans (List.suffix_cons _ _)
    have hrest : rest = [] := by
      cases rest with
      | nil => rfl
      | cons u rest =>
        rw [atEnd, beq_iff_eq] at he
        exact absurd (he ▸ hsuffix.subset List.mem_cons_self) hsemicolon
    have hnone {α : Type} (o : Option α) : o.toList.flatMap (fun _ => ([] : List String)) = [] := by
      cases o <;> rfl
    subst hrest
    simp only [List.nil_append, hnone] at hi hs hc hl
    rw [parametersOf_cons (Token.parameter?_of_isWord hw), hi, hs, hc, hl, parameters_eq,
      parametersOf_nil, List.append_nil]

end Select

end EntityQuery.Sql
