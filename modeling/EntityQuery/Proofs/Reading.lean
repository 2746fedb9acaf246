import EntityQuery.Proofs.Acceptance
import EntityQuery.Proofs.Parameters

/-!
# Sentences are read

The reading of selections undoes the writing of sentences: of the tokens of a sentence
over plain names the selection is read that has its columns for items, its table, its
condition and its limit (`Sentence.select`).

Every reader takes the tokens of what it reads and leaves those that follow, if they
do not go on with it: after a term there is no operator and no point (`Leaves`).

* `parse_term`: a rendered term is read as itself;
* `ofTokens?_sentence`: a sentence is read as its selection.
-/

namespace EntityQuery.Sql

/-- The selection that a sentence stands for, whose table has the given name. -/
def Sentence.select (s : Sentence) (name : TableName) : Select where
  items := s.columns.map fun column => .term (.column column) none
  source := some ⟨name, none⟩
  condition := s.condition
  limit := s.limit

/-! ## Terms -/

/-- The words that start a term have a meaning of their own. -/
theorem isReserved_eq_false {s : String} (h : isPlainName s = true) :
    isReserved s = false ∧ termWords.contains (folded s) = false := by
  have hn := not_mem_of_isPlainName h
  have hreserved : ∀ w ∈ reservedWords, w ∈ knownWords := by decide
  have hterm : ∀ w ∈ termWords, w ∈ knownWords := by decide
  simp only [isReserved, List.contains_eq_mem, decide_eq_false_iff_not]
  exact ⟨fun h => hn (hreserved _ h), fun h => hn (hterm _ h)⟩

theorem isWord_eq_false {s w : String} (h : isPlainName s = true) (hw : w ∈ knownWords) :
    (Token.word s).isWord w = false := by
  simp only [Token.isWord, beq_eq_false_iff_ne]
  exact fun he => not_mem_of_isPlainName h (he ▸ hw)

/-- What follows does not go on with a term. -/
structure Leaves (rest : List Token) : Prop where
  operator? : ∀ t ∈ rest.head?, t.operator? = none
  point : rest.head? ≠ some (.sign ".")

theorem head?_ne_point {t : Token} (h : t ≠ .sign ".") (ts : List Token) :
    (t :: ts).head? ≠ some (.sign ".") :=
  fun he => h (Option.some.inj he)

theorem leaves_nil : Leaves [] := ⟨nofun, nofun⟩

theorem leaves_cons {t : Token} {ts : List Token} (ho : t.operator? = none)
    (hp : t ≠ .sign ".") : Leaves (t :: ts) :=
  ⟨by rintro _ ⟨⟩; exact ho, head?_ne_point hp ts⟩

namespace Term

/-- The operator of two sides that a token stands for, with its strength. -/
theorem exists_operator?_token (op : BinaryOp) :
    ∃ strength, op.token.operator? = some (strength, .binary op) := by
  cases op with
  | eq | ne => exact ⟨3, rfl⟩
  | lt | le | gt | ge => exact ⟨4, rfl⟩
  | and => exact ⟨2, rfl⟩
  | or => exact ⟨1, rfl⟩

/-- No operator is read where there is none. -/
theorem readOperators_leaves {rest : List Token} (h : ∀ t ∈ rest.head?, t.operator? = none)
    {n : Nat} (hn : 0 < n) (strength : Nat) (left : Term) :
    readOperators n strength left rest = some (left, rest) := by
  obtain ⟨n, rfl⟩ : ∃ k, n = k + 1 := ⟨n - 1, by omega⟩
  cases rest with
  | nil => rfl
  | cons t ts => rw [readOperators, h t rfl]

/-- A column is read where no point follows. -/
theorem readOperand_column {s : String} (h : isPlainName s = true) {rest : List Token}
    (hp : rest.head? ≠ some (.sign ".")) (n : Nat) :
    readOperand (n + 1) (.word s :: rest) = some (.column s, rest) := by
  obtain ⟨hr, ht⟩ := isReserved_eq_false h
  have hcast := isWord_eq_false h (w := "cast") (by decide)
  have hnull := isWord_eq_false h (w := "null") (by decide)
  have hname : ofName? (.word s) = some (.column s) := by
    simp only [ofName?, hr, ht, Bool.or_self, Bool.false_eq_true, if_false]
  have hmembers : readMembers (.word s) rest = some (.column s, rest) := by
    unfold readMembers
    split
    · exact absurd rfl hp
    · exact absurd rfl hp
    · simp only [hname, Option.map_some]
  simp only [readOperand, hcast, hnull, Bool.false_eq_true, if_false, hmembers]

variable {t : Term}

/-- Two operands with an operator between them are read in parentheses. -/
theorem readOperand_sign {n strength : Nat} {left right : Term} {f : Term → Term → Term}
    {o : Token} {ls rs rest : List Token} (ho : o.operator? = some (strength, f))
    (hleft : readOperand (n + 2) (ls ++ o :: (rs ++ .sign ")" :: rest)) =
      some (left, o :: (rs ++ .sign ")" :: rest)))
    (hright : readOperand n (rs ++ .sign ")" :: rest) = some (right, .sign ")" :: rest))
    (hn : 0 < n) :
    readOperand (n + 5) (.sign "(" :: (ls ++ o :: (rs ++ .sign ")" :: rest))) =
      some (f left right, rest) := by
  have hclose : ∀ t ∈ (Token.sign ")" :: rest).head?, t.operator? = none := by
    rintro _ ⟨⟩
    rfl
  -- The row, the term in it, and its right side each take a reading.
  have hterm : read (n + 1) (strength + 1) (rs ++ .sign ")" :: rest) =
      some (right, .sign ")" :: rest) := by
    rw [read, hright]
    exact readOperators_leaves hclose hn _ _
  have hoperators : readOperators (n + 2) 0 left (o :: (rs ++ .sign ")" :: rest)) =
      some (f left right, .sign ")" :: rest) := by
    rw [readOperators, ho]
    simp only [Nat.not_lt_zero, if_false, hterm]
    exact readOperators_leaves hclose (Nat.succ_pos n) _ _
  have hread : read (n + 3) 0 (ls ++ o :: (rs ++ .sign ")" :: rest)) =
      some (f left right, .sign ")" :: rest) := by
    rw [read, hleft]
    exact hoperators
  simp only [readOperand, readRow, hread]

/-- A rendered term is read as an operand. -/
theorem readOperand_tokens (ht : t.Rendered (isColumnName · = true)) {rest : List Token}
    (hp : rest.head? ≠ some (.sign ".")) {n : Nat} (hn : 4 * t.tokens.length ≤ n) :
    readOperand n (t.tokens ++ rest) = some (t, rest) := by
  have hclose (rest : List Token) : (Token.sign ")" :: rest).head? ≠ some (.sign ".") :=
    head?_ne_point (by decide) rest
  -- The tokens around an operand pay for the readers between two parentheses.
  induction ht generalizing rest n with
  | @column s hs =>
    rw [tokens_column hs] at hn ⊢
    obtain ⟨n, rfl⟩ : ∃ k, n = k + 1 := ⟨n - 1, by simp at hn; omega⟩
    exact readOperand_column (isColumnName_iff.1 hs).2 hp n
  | parameter =>
    obtain ⟨n, rfl⟩ : ∃ k, n = k + 1 := ⟨n - 1, by simp [tokens] at hn; omega⟩
    rfl
  | @binary op l r _ _ ihl ihr =>
    simp only [tokens, List.length_cons, List.length_append, List.length_nil] at hn
    obtain ⟨n, rfl⟩ : ∃ k, n = k + 5 := ⟨n - 5, by omega⟩
    obtain ⟨strength, ho⟩ := exists_operator?_token op
    have hpoint : op.token ≠ .sign "." := by cases op <;> decide
    have hleft := ihl (n := n + 2) (head?_ne_point hpoint (r.tokens ++ .sign ")" :: rest))
      (by omega)
    have hright := ihr (n := n) (hclose rest) (by omega)
    simp only [tokens, List.cons_append, List.append_assoc, List.nil_append]
    exact readOperand_sign ho hleft hright (by omega)
  | @like t k _ ih =>
    simp only [tokens, List.length_cons, List.length_append, List.length_nil] at hn
    obtain ⟨n, rfl⟩ : ∃ k, n = k + 6 := ⟨n - 6, by omega⟩
    have hleft := ih (n := n + 3) (head?_ne_point (t := .word "LIKE") (by decide)
      ([.parameter (Predicate.placeholder k)] ++ .sign ")" :: rest)) (by omega)
    simp only [tokens, List.cons_append, List.append_assoc, List.nil_append]
    exact readOperand_sign (n := n + 1) (f := .like) rfl hleft rfl (Nat.succ_pos n)

/-- A rendered term is read as itself, up to what does not go on with it. -/
theorem parse_term (ht : t.Rendered (isColumnName · = true)) {rest : List Token}
    (hrest : Leaves rest) : parse (t.tokens ++ rest) = some (t, rest) := by
  have hfuel : 4 * t.tokens.length ≤ 4 * (t.tokens ++ rest).length + 3 := by
    rw [List.length_append]
    omega
  rw [parse, read, readOperand_tokens ht hrest.point hfuel]
  exact readOperators_leaves hrest.operator? (by omega) _ _

end Term

/-! ## Sentences -/

namespace Select

/-- A column is read as an item where neither a point nor a name follows. -/
theorem readItem_column {column : String} (hn : isColumnName column = true) {rest : List Token}
    (hrest : Leaves rest) (halias : readAlias rest = some (none, rest)) :
    readItem (.word column :: rest) = some (.term (.column column) none, rest) := by
  have hparse := Term.parse_term (.column hn) hrest
  rw [tokens_column hn, List.cons_append, List.nil_append] at hparse
  unfold readItem
  split
  · next h => cases h
  · next h =>
    cases h
    exact absurd rfl hrest.point
  · simp only [hparse, halias, Option.map_some]

/-- Between names there is a comma each. -/
theorem length_le_nameTokens (names : List String) :
    names.length ≤ (Sentence.nameTokens names).length + 1 := by
  induction names with
  | nil => exact Nat.zero_le _
  | cons name names ih =>
    cases names with
    | nil => simp
    | cons second names =>
      simp only [Sentence.nameTokens, List.map_cons, List.intercalate_cons_cons, List.length_cons,
        List.length_append, List.length_nil] at ih ⊢
      omega

/-- Names with commas between them are read as items, before the word `FROM`. -/
theorem readItems_names {names : List String} (hne : names ≠ [])
    (hn : ∀ name ∈ names, isColumnName name = true) {n : Nat} (hfuel : names.length ≤ n)
    (ts : List Token) :
    readItems n (Sentence.nameTokens names ++ .word "FROM" :: ts) =
      some (names.map fun name => .term (.column name) none, .word "FROM" :: ts) := by
  induction names generalizing n with
  | nil => exact absurd rfl hne
  | cons name names ih =>
    have hname := hn name List.mem_cons_self
    have hscan : scan name.toList = [.word name] := tokens_column hname
    obtain ⟨n, rfl⟩ : ∃ k, n = k + 1 := ⟨n - 1, by simp at hfuel; omega⟩
    cases names with
    | nil =>
      have hleaves : Leaves (.word "FROM" :: ts) := leaves_cons (by decide) (by decide)
      have hitem := readItem_column hname hleaves rfl
      simp only [Sentence.nameTokens, List.map_cons, List.map_nil, List.intercalate_singleton,
        hscan, List.cons_append, List.nil_append, readItems, hitem]
    | cons second names =>
      have hothers := ih (List.cons_ne_nil _ _) (fun n hn' => hn n (List.mem_cons_of_mem _ hn'))
        (n := n) (by simp at hfuel ⊢; omega)
      have hleaves : Leaves (.sign "," :: (Sentence.nameTokens (second :: names) ++
          .word "FROM" :: ts)) := leaves_cons (by decide) (by decide)
      have hitem := readItem_column hname hleaves rfl
      simp only [Sentence.nameTokens, List.map_cons, List.intercalate_cons_cons, hscan,
        List.cons_append, List.nil_append, readItems] at hothers hitem ⊢
      simp only [hitem, hothers]

/-- What may follow a table in a sentence is neither a point nor a name. -/
structure LeavesTable (rest : List Token) : Prop where
  point : rest.head? ≠ some (.sign ".")
  readAlias : readAlias rest = some (none, rest)

/-- The name of a table is read, where no point goes on with it. -/
theorem readTableName_append {us : List Token} {name : TableName} (h : NamesTable us name)
    {rest : List Token} (hrest : rest.head? ≠ some (.sign ".")) :
    readTableName (us ++ rest) = some (name, rest) := by
  cases h with
  | @plain t name ht =>
    rw [List.cons_append, List.nil_append]
    unfold readTableName
    split
    · next h =>
      cases h
      exact absurd rfl hrest
    · simp only [readName, ht, Option.map_some]
  | within ht hu =>
    simp only [List.cons_append, List.nil_append, readTableName, ht, hu]

theorem readSource_table {us : List Token} {name : TableName} (h : NamesTable us name)
    {rest : List Token} (hrest : LeavesTable rest) :
    readSource (us ++ rest) = some (⟨name, none⟩, rest) := by
  simp only [readSource, readTableName_append h hrest.point, hrest.readAlias, Option.map_some]

/-- The limit of a sentence is read to its end. -/
theorem readAfter_limit (s : Sentence) :
    readAfter "limit" readNumber s.limitTokens = some (s.limit, []) := by
  simp only [Sentence.limitTokens]
  cases s.limit with
  | none => rfl
  | some n => rfl

theorem leaves_limit (s : Sentence) : Leaves s.limitTokens := by
  simp only [Sentence.limitTokens]
  cases s.limit with
  | none => exact leaves_nil
  | some n => exact leaves_cons (by decide) (by decide)

theorem readAfter_condition {s : Sentence}
    (ht : ∀ t ∈ s.condition, t.Rendered (isColumnName · = true)) :
    readAfter "where" Term.parse (s.conditionTokens ++ s.limitTokens) =
      some (s.condition, s.limitTokens) := by
  simp only [Sentence.conditionTokens]
  cases hc : s.condition with
  | none =>
    simp only [Sentence.limitTokens]
    cases s.limit <;> rfl
  | some t =>
    have hparse := Term.parse_term (ht t hc) (leaves_limit s)
    have hwhere : Token.isWord "where" (.word "WHERE") = true := by decide
    simp only [List.cons_append, readAfter, hwhere, if_true, hparse, Option.map_some]

theorem leavesTable (s : Sentence) : LeavesTable (s.conditionTokens ++ s.limitTokens) := by
  simp only [Sentence.conditionTokens, Sentence.limitTokens]
  cases s.condition with
  | some t => exact ⟨head?_ne_point (by decide) _, rfl⟩
  | none =>
    cases s.limit with
    | some n => exact ⟨head?_ne_point (by decide) _, rfl⟩
    | none => exact ⟨leaves_nil.point, rfl⟩

/-- A sentence is read as its selection. -/
theorem ofTokens?_sentence {s : Sentence} {name : TableName} (hne : s.columns ≠ [])
    (hn : ∀ column ∈ s.columns, isColumnName column = true)
    (htable : NamesTable (scan s.table.toList) name)
    (ht : ∀ t ∈ s.condition, t.Rendered (isColumnName · = true)) :
    ofTokens? s.tokens = some (s.select name) := by
  refine ofTokens?_eq_some_iff.2 ⟨by decide, _, _, _, _,
    readItems_names hne hn ?_ _, ?_, readAfter_condition ht, readAfter_limit s, rfl⟩
  · have := length_le_nameTokens s.columns
    simp only [List.length_append, List.length_cons]
    omega
  · have hfrom : Token.isWord "from" (.word "FROM") = true := by decide
    simp only [readAfter, hfrom, if_true, readSource_table htable (leavesTable s), Option.map_some]
    rfl

end Select

end EntityQuery.Sql
