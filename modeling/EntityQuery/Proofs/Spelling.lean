import EntityQuery.Proofs.Scanning

/-!
# The grammar of rendered statements

Rendered statements are the texts of a small grammar: columns with commas between
them, a table, a condition in which every operation stands in parentheses, and a
limit. `Term.Spells` and `Sentence.Spells` say which text spells which condition and
which sentence, rule by rule.

The grammar can be read in one way only: a text spells at most one sentence
(`Sentence.Spells.unique`). It comes down to where a phrase ends. Of two phrases that
start two equal texts one cannot be longer than the other, since neither a name nor a
placeholder goes on with what separates phrases (`Term.Spells.unique`).
-/

namespace EntityQuery.Sql

open Predicate (placeholder)

/-! ## Where a phrase ends -/

/-- Two texts of which one starts with a plain identifier and the other with a character
    that starts none are not the same. -/
theorem identifier_append_ne {name : String} (hn : isIdentifier name = true) {c : Char}
    (hc : startsIdentifier c = false) (rest cs : List Char) : name.toList ++ rest ≠ c :: cs := by
  obtain ⟨d, ds, hl, hd, -⟩ := exists_of_isIdentifier hn
  rw [hl]
  intro h
  rw [(List.cons.inj h).1, hc] at hd
  cases hd

theorem placeholder_append_ne {k : Nat} {c : Char} (hc : '@' ≠ c) (rest cs : List Char) :
    (placeholder k).toList ++ rest ≠ c :: cs := by
  rw [toList_placeholder]
  exact fun h => hc (List.cons.inj h).1

/-- A plain identifier determines where it ends. -/
theorem identifier_append_inj {name name' : String} (hn : isIdentifier name = true)
    (hn' : isIdentifier name' = true) {rest rest' : List Char}
    (hr : Stops continuesIdentifier rest) (hr' : Stops continuesIdentifier rest')
    (h : name.toList ++ rest = name'.toList ++ rest') : name = name' ∧ rest = rest' := by
  obtain ⟨-, -, -, -, hc⟩ := exists_of_isIdentifier hn
  obtain ⟨-, -, -, -, hc'⟩ := exists_of_isIdentifier hn'
  obtain ⟨hname, hrest⟩ := append_inj_of_stops hc hc' hr hr' h
  exact ⟨String.toList_injective hname, hrest⟩

/-- A placeholder determines where it ends. -/
theorem placeholder_append_inj {k n : Nat} {rest rest' : List Char}
    (hr : Stops continuesIdentifier rest) (hr' : Stops continuesIdentifier rest')
    (h : (placeholder k).toList ++ rest = (placeholder n).toList ++ rest') :
    k = n ∧ rest = rest' := by
  have hdigits (i : Nat) : ∀ c ∈ Nat.toDigits 10 i, continuesIdentifier c = true := by
    intro c hc
    simp [continuesIdentifier, Char.isAlphanum, isDigit_of_mem_toDigits hc]
  simp only [toList_placeholder, List.cons_append, List.cons.injEq, true_and] at h
  obtain ⟨hkn, hrest⟩ := append_inj_of_stops (hdigits k) (hdigits n) hr hr' h
  exact ⟨toDigits_injective hkn, hrest⟩

/-- A word before a blank determines where it ends. -/
theorem word_append_inj {w v : String} (hw : ' ' ∉ w.toList) (hv : ' ' ∉ v.toList)
    {rest rest' : List Char} (h : w.toList ++ ' ' :: rest = v.toList ++ ' ' :: rest') :
    w = v ∧ rest = rest' := by
  have hne {u : String} (hu : ' ' ∉ u.toList) : ∀ c ∈ u.toList, (c != ' ') = true := by
    intro c hc
    rw [bne_iff_ne]
    rintro rfl
    exact hu hc
  obtain ⟨hwv, hrest⟩ :=
    append_inj_of_stops (hne hw) (hne hv) (stops_cons.2 rfl) (stops_cons.2 rfl) h
  exact ⟨String.toList_injective hwv, (List.cons.inj hrest).2⟩

theorem blank_not_mem_symbol (op : BinaryOp) : ' ' ∉ op.symbol.toList := by
  cases op <;> decide

theorem symbol_injective : Function.Injective BinaryOp.symbol := by
  intro a b h
  cases a <;> cases b <;> first | rfl | exact absurd h (by decide)

theorem symbol_ne_like (op : BinaryOp) : op.symbol ≠ "LIKE" := by
  cases op <;> decide

/-! ## Terms -/

namespace Term

/-- A term is spelled by a text: a column, a placeholder, or an operation in
    parentheses. -/
inductive Spells : Term → List Char → Prop
  | column {name : String} : isIdentifier name = true → Spells (.column name) name.toList
  | parameter {k : Nat} : Spells (.parameter (placeholder k)) (placeholder k).toList
  | binary {op : BinaryOp} {l r : Term} {cs ds : List Char} :
    Spells l cs → Spells r ds →
    Spells (.binary op l r) ('(' :: (cs ++ ' ' :: (op.symbol.toList ++ ' ' :: (ds ++ [')']))))
  | like {t : Term} {k : Nat} {cs : List Char} :
    Spells t cs →
    Spells (.like t (.parameter (placeholder k)))
      ('(' :: (cs ++ ' ' :: ("LIKE".toList ++ ' ' :: ((placeholder k).toList ++ [')']))))

/-- A rendered term over plain identifiers is spelled by its text. -/
theorem Rendered.spells {t : Term} (h : t.Rendered (isIdentifier · = true)) :
    t.Spells t.sql.toList := by
  induction h with
  | column hn => exact .column hn
  | parameter => exact .parameter
  | @binary op l r _ _ ihl ihr =>
    have : (Term.binary op l r).Spells _ := .binary ihl ihr
    rwa [← toList_binary_append, List.append_nil] at this
  | @like t k _ ih =>
    have := Spells.like (k := k) ih
    rwa [← toList_like_append, List.append_nil] at this

/-- Of two texts that start with terms, no term of one goes on where that of the other has
    ended: the terms are the same, and so are the rests. -/
theorem Spells.unique {t u : Term} {cs ds rest rest' : List Char} (ht : t.Spells cs)
    (hu : u.Spells ds) (hr : Stops continuesIdentifier rest)
    (hr' : Stops continuesIdentifier rest') (h : cs ++ rest = ds ++ rest') :
    t = u ∧ rest = rest' := by
  have hblank (es : List Char) : Stops continuesIdentifier (' ' :: es) := stops_cons.2 rfl
  have hclose (es : List Char) : Stops continuesIdentifier (')' :: es) := stops_cons.2 rfl
  -- By induction on the one term, for all texts: the first character decides which rule
  -- spelled the other one, up to the two with a parenthesis, which the operator decides.
  induction ht generalizing u ds rest rest' with
  | column hn =>
    cases hu with
    | column hn' =>
      obtain ⟨rfl, hrest⟩ := identifier_append_inj hn hn' hr hr' h
      exact ⟨rfl, hrest⟩
    | parameter =>
      rw [toList_placeholder] at h
      exact absurd h (identifier_append_ne hn rfl _ _)
    | binary | like => exact absurd h (identifier_append_ne hn rfl _ _)
  | parameter =>
    cases hu with
    | column hn =>
      rw [toList_placeholder] at h
      exact absurd h.symm (identifier_append_ne hn rfl _ _)
    | parameter =>
      obtain ⟨rfl, hrest⟩ := placeholder_append_inj hr hr' h
      exact ⟨rfl, hrest⟩
    | binary | like => exact absurd h (placeholder_append_ne (by decide) _ _)
  | @binary op l r cs₁ cs₂ _ _ ihl ihr =>
    cases hu with
    | column hn => exact absurd h.symm (identifier_append_ne hn rfl _ _)
    | parameter => exact absurd h.symm (placeholder_append_ne (by decide) _ _)
    | @binary op' l' r' ds₁ ds₂ hl hr₂ =>
      simp only [List.cons_append, List.append_assoc, List.nil_append, List.cons.injEq,
        true_and] at h
      obtain ⟨rfl, h⟩ := ihl hl (hblank _) (hblank _) h
      obtain ⟨hop, h⟩ := word_append_inj (blank_not_mem_symbol op) (blank_not_mem_symbol op')
        (List.cons.inj h).2
      obtain ⟨rfl, h⟩ := ihr hr₂ (hclose _) (hclose _) h
      exact ⟨by rw [symbol_injective hop], (List.cons.inj h).2⟩
    | @like t' k ds₁ hl =>
      simp only [List.cons_append, List.append_assoc, List.nil_append, List.cons.injEq,
        true_and] at h
      obtain ⟨-, h⟩ := ihl hl (hblank _) (hblank _) h
      obtain ⟨hop, -⟩ := word_append_inj (blank_not_mem_symbol op) (by decide) (List.cons.inj h).2
      exact absurd hop (symbol_ne_like op)
  | @like t k cs₁ _ ih =>
    cases hu with
    | column hn => exact absurd h.symm (identifier_append_ne hn rfl _ _)
    | parameter => exact absurd h.symm (placeholder_append_ne (by decide) _ _)
    | @binary op' l' r' ds₁ ds₂ hl _ =>
      simp only [List.cons_append, List.append_assoc, List.nil_append, List.cons.injEq,
        true_and] at h
      obtain ⟨-, h⟩ := ih hl (hblank _) (hblank _) h
      obtain ⟨hop, -⟩ := word_append_inj (by decide) (blank_not_mem_symbol op') (List.cons.inj h).2
      exact absurd hop.symm (symbol_ne_like op')
    | @like t' k' ds₁ hl =>
      simp only [List.cons_append, List.append_assoc, List.nil_append, List.cons.injEq,
        true_and] at h
      obtain ⟨rfl, h⟩ := ih hl (hblank _) (hblank _) h
      obtain ⟨-, h⟩ := word_append_inj (by decide) (by decide) (List.cons.inj h).2
      obtain ⟨rfl, hrest⟩ := placeholder_append_inj (hclose _) (hclose _) h
      exact ⟨rfl, (List.cons.inj hrest).2⟩

end Term

/-! ## Sentences -/

namespace Sentence

/-- An optional condition is spelled after a word. -/
inductive SpellsCondition : Option Term → List Char → Prop
  | none : SpellsCondition none []
  | some {t : Term} {cs : List Char} :
    t.Spells cs → SpellsCondition (some t) (' ' :: ("WHERE".toList ++ ' ' :: cs))

/-- An optional limit is spelled after a word, by any digits. -/
inductive SpellsLimit : Option Nat → List Char → Prop
  | none : SpellsLimit none []
  | some {digits : List Char} :
    digits ≠ [] → (∀ d ∈ digits, d.isDigit = true) →
    SpellsLimit (some (Token.numberOf digits)) (' ' :: ("LIMIT".toList ++ ' ' :: digits))

/-- A sentence is spelled by a text: columns with commas between them, a table, and
    what follows, of which the names are plain identifiers. -/
inductive Spells : Sentence → List Char → Prop
  | mk {columns : List String} {table : String} {condition : Option Term} {limit : Option Nat}
    {cs ds : List Char} :
    columns ≠ [] → (∀ name ∈ columns, isIdentifier name = true) → isIdentifier table = true →
    SpellsCondition condition cs → SpellsLimit limit ds →
    Spells ⟨columns, table, condition, limit⟩
      ("SELECT".toList ++ ' ' :: ([',', ' '].intercalate (columns.map String.toList) ++
        ' ' :: ("FROM".toList ++ ' ' :: (table.toList ++ (cs ++ ds)))))

/-- A sentence of rendered terms over plain identifiers is spelled by its text. -/
theorem spells_text {s : Sentence} (hne : s.columns ≠ [])
    (hn : ∀ name ∈ s.names, isIdentifier name = true)
    (ht : ∀ t ∈ s.condition, t.Rendered (isIdentifier · = true)) : s.Spells s.text.toList := by
  have hcondition : SpellsCondition s.condition s.conditionText.toList := by
    rw [conditionText]
    cases hc : s.condition with
    | none => exact .none
    | some t => simpa using SpellsCondition.some (ht t hc).spells
  have hlimit : SpellsLimit s.limit s.limitText.toList := by
    rw [limitText]
    cases s.limit with
    | none => exact .none
    | some n =>
      have hd : ∀ d ∈ Nat.toDigits 10 n, d.isDigit = true := fun _ => isDigit_of_mem_toDigits
      have hnumber : Token.numberOf (Nat.toDigits 10 n) = n := Nat.ofDigitChars_ten_toDigits
      simpa [hnumber] using SpellsLimit.some Nat.toDigits_ne_nil hd
  rw [toList_text]
  exact .mk hne (fun name h => hn name (List.mem_cons_of_mem _ h)) (hn _ List.mem_cons_self)
    hcondition hlimit

/-- What stands after a name of a list: a comma and the next name, or a blank. -/
theorem stops_names (names : List String) (rest : List Char) :
    Stops continuesIdentifier
      (names.flatMap (fun name => ',' :: ' ' :: name.toList) ++ ' ' :: rest) := by
  cases names with
  | nil => exact stops_cons.2 rfl
  | cons => exact stops_cons.2 rfl

/-- Plain identifiers, each after a comma, determine where they end. -/
theorem flatMap_names_append_inj {names names' : List String}
    (hn : ∀ name ∈ names, isIdentifier name = true)
    (hn' : ∀ name ∈ names', isIdentifier name = true) {rest rest' : List Char}
    (h : names.flatMap (fun name => ',' :: ' ' :: name.toList) ++ ' ' :: rest =
      names'.flatMap (fun name => ',' :: ' ' :: name.toList) ++ ' ' :: rest') :
    names = names' ∧ rest = rest' := by
  -- One list cannot end before the other: a name has a comma before it, and the last name a
  -- blank after it.
  induction names generalizing names' with
  | nil =>
    cases names' with
    | nil => exact ⟨rfl, (List.cons.inj h).2⟩
    | cons => cases (List.cons.inj h).1
  | cons name names ih =>
    cases names' with
    | nil => cases (List.cons.inj h).1
    | cons name' names' =>
      rw [List.forall_mem_cons] at hn hn'
      simp only [List.flatMap_cons, List.cons_append, List.append_assoc, List.cons.injEq,
        true_and] at h
      obtain ⟨rfl, hmore⟩ :=
        identifier_append_inj hn.1 hn'.1 (stops_names _ _) (stops_names _ _) h
      obtain ⟨rfl, hrest⟩ := ih hn.2 hn'.2 hmore
      exact ⟨rfl, hrest⟩

/-- Plain identifiers with commas between them determine where they end. -/
theorem names_append_inj {names names' : List String} (hne : names ≠ []) (hne' : names' ≠ [])
    (hn : ∀ name ∈ names, isIdentifier name = true)
    (hn' : ∀ name ∈ names', isIdentifier name = true) {rest rest' : List Char}
    (h : [',', ' '].intercalate (names.map String.toList) ++ ' ' :: rest =
      [',', ' '].intercalate (names'.map String.toList) ++ ' ' :: rest') :
    names = names' ∧ rest = rest' := by
  obtain ⟨name, names, rfl⟩ := List.exists_cons_of_ne_nil hne
  obtain ⟨name', names', rfl⟩ := List.exists_cons_of_ne_nil hne'
  rw [List.forall_mem_cons] at hn hn'
  simp only [List.map_cons, intercalate_cons_eq_flatMap, List.flatMap_map, List.append_assoc] at h
  obtain ⟨rfl, hmore⟩ := identifier_append_inj hn.1 hn'.1 (stops_names _ _) (stops_names _ _) h
  obtain ⟨rfl, hrest⟩ := flatMap_names_append_inj hn.2 hn'.2 hmore
  exact ⟨rfl, hrest⟩

theorem SpellsLimit.stops {limit : Option Nat} {ds : List Char} (h : SpellsLimit limit ds) :
    Stops continuesIdentifier ds := by
  cases h with
  | none => exact stops_nil _
  | some => exact stops_cons.2 rfl

theorem SpellsCondition.stops {condition : Option Term} {cs ds : List Char}
    (h : SpellsCondition condition cs) (hd : Stops continuesIdentifier ds) :
    Stops continuesIdentifier (cs ++ ds) := by
  cases h with
  | none => exact hd
  | some => exact stops_cons.2 rfl

/-- The digits of a limit spell one number. -/
theorem SpellsLimit.unique {limit limit' : Option Nat} {ds : List Char}
    (h : SpellsLimit limit ds) (h' : SpellsLimit limit' ds) : limit = limit' := by
  generalize he : ds = es at h'
  cases h with
  | none =>
    cases h' with
    | none => rfl
    | some => cases he
  | some =>
    cases h' with
    | none => cases he
    | some =>
      obtain ⟨-, hdigits⟩ := word_append_inj (by decide) (by decide) (List.cons.inj he).2
      rw [hdigits]

/-- The beginning of a limit is not that of a condition. -/
theorem SpellsLimit.ne_where {limit : Option Nat} {ds : List Char} (h : SpellsLimit limit ds)
    (cs : List Char) : ds ≠ ' ' :: ("WHERE".toList ++ ' ' :: cs) := by
  cases h with
  | none => exact nofun
  | some =>
    intro he
    obtain ⟨hw, -⟩ := word_append_inj (by decide) (by decide) (List.cons.inj he).2
    exact absurd hw (by decide)

/-- A condition determines where it ends. -/
theorem SpellsCondition.unique {condition condition' : Option Term} {limit limit' : Option Nat}
    {cs ds cs' ds' : List Char} (h : SpellsCondition condition cs)
    (h' : SpellsCondition condition' cs') (hl : SpellsLimit limit ds)
    (hl' : SpellsLimit limit' ds') (he : cs ++ ds = cs' ++ ds') :
    condition = condition' ∧ ds = ds' := by
  cases h with
  | none =>
    cases h' with
    | none => exact ⟨rfl, he⟩
    | some => exact absurd he (by simpa using hl.ne_where _)
  | some ht =>
    cases h' with
    | none => exact absurd he.symm (by simpa using hl'.ne_where _)
    | some ht' =>
      simp only [List.cons_append, List.append_assoc] at he
      obtain ⟨-, hterm⟩ := word_append_inj (by decide) (by decide) (List.cons.inj he).2
      obtain ⟨rfl, hrest⟩ := ht.unique ht' hl.stops hl'.stops hterm
      exact ⟨rfl, hrest⟩

/-- A text spells at most one sentence. -/
theorem Spells.unique {s s' : Sentence} {cs : List Char} (h : s.Spells cs) (h' : s'.Spells cs) :
    s = s' := by
  generalize he : cs = cs' at h'
  cases h with
  | mk hne hn htable hcondition hlimit =>
    cases h' with
    | mk hne' hn' htable' hcondition' hlimit' =>
      obtain ⟨-, hselect⟩ := word_append_inj (by decide) (by decide) he
      obtain ⟨hcolumns, hfrom⟩ := names_append_inj hne hne' hn hn' hselect
      obtain ⟨-, hrest⟩ := word_append_inj (by decide) (by decide) hfrom
      obtain ⟨htables, hend⟩ := identifier_append_inj htable htable'
        (hcondition.stops hlimit.stops) (hcondition'.stops hlimit'.stops) hrest
      obtain ⟨rfl, rfl⟩ := hcondition.unique hcondition' hlimit hlimit' hend
      rw [hcolumns, htables, hlimit.unique hlimit']

end Sentence

end EntityQuery.Sql
