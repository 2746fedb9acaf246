import EntityQuery.Proofs.Scanning
import EntityQuery.Sql.Recognition
import EntityQuery.Sql.Select
import Mathlib.Tactic.MkIffOfInductiveProp

/-!
# Rendered statements are accepted

The recognition of statements chooses the alternative of a rule by the next token alone.
How a token fits depends on little (`Token.Like`): one word that is a plain name
(`isPlainName`) fits as any other does, and so do placeholders and numbers. Each choice
is thus made once, for a token that stands for all of its kind (`Choices`).

What is left to be recognised, after what stands before it, is followed to an outcome in
so many steps (`Follows`), and it is *accepted* if that is a statement; a term, a list of
names and a sentence are recognised by as many steps for each of their tokens.

* `accepts_term`: a rendered term is an expression;
* `recognise_sentence`: the tokens of a sentence are a statement.
-/

namespace EntityQuery.Sql

open Rule EntityQuery.Sql.Symbol
open Predicate (placeholder)

/-! ## Tokens of a kind -/

/-- The words that have a meaning of their own in the language. -/
def knownWords : List String := reservedWords ++ joinWords ++ freeWords ++ ["indexed"]

/-- Whether a word is a name and nothing else. -/
def isPlainName (s : String) : Bool := !knownWords.contains (folded s)

/-- Whether a symbol is no word, or one with a meaning of its own. -/
def Symbol.isKnown : Symbol → Bool
  | .word w => knownWords.contains w
  | _ => true

/-- Two tokens fit every symbol alike. -/
def Token.Like (t u : Token) : Prop := ∀ s : Symbol, s.isKnown = true → s.fitToken t = s.fitToken u

theorem Token.Like.refl (t : Token) : t.Like t := fun _ _ => rfl

theorem not_mem_of_isPlainName {s : String} (h : isPlainName s = true) :
    folded s ∉ knownWords := by
  simpa [isPlainName] using h

/-- A plain name fits as any other does. -/
theorem like_of_isPlainName {s : String} (h : isPlainName s = true) :
    Token.Like (.word s) (.word "a") := by
  have hn := not_mem_of_isPlainName h
  have ha : folded "a" ∉ knownWords := by decide
  -- A symbol asks of a word only whether it is in a list of such words.
  have hsub (ws : List String) (hws : ∀ w ∈ ws, w ∈ knownWords) :
      ws.contains (folded s) = false ∧ ws.contains (folded "a") = false := by
    simp only [List.contains_eq_mem, decide_eq_false_iff_not]
    exact ⟨fun h => hn (hws _ h), fun h => ha (hws _ h)⟩
  have hr := hsub reservedWords fun w hw => by simp [knownWords, hw]
  have hj := hsub joinWords fun w hw => by simp [knownWords, hw]
  have hf := hsub freeWords fun w hw => by simp [knownWords, hw]
  have hword {w : String} (hw : w ∈ knownWords) :
      (folded s == w) = false ∧ (folded "a" == w) = false := by
    simp only [beq_eq_false_iff_ne]
    exact ⟨fun h => hn (h ▸ hw), fun h => ha (h ▸ hw)⟩
  -- The words that symbols name without a list.
  have hnamed : ∀ w ∈ ["indexed", "like", "glob", "regexp", "match", "current_date",
      "current_time", "current_timestamp"], w ∈ knownWords := by decide
  simp only [List.forall_mem_cons] at hnamed
  obtain ⟨hindexed, hlike, hglob, hregexp, hmatch, hdate, htime, hstamp, -⟩ := hnamed
  intro sym hsym
  cases sym with
  | word w =>
    have hw := hword (w := w) (by simpa [isKnown] using hsym)
    simp only [fitToken, Token.isWord, hw.1, hw.2]
  | name | anyName => simp only [fitToken, fitName, Fit.ofWord, isReserved, hr.1, hr.2, hf.1, hf.2]
  | label =>
    simp only [fitToken, Fit.ofWord, isLabelWord, isReserved, hr.1, hr.2, hf.1, hf.2, hj.1, hj.2,
      bne, (hword hindexed).1, (hword hindexed).2]
  | joinWord => simp only [fitToken, hj.1, hj.2]
  | likeWord =>
    simp only [fitToken, Token.isWord, hword hlike, hword hglob, hword hregexp, hword hmatch]
  | timeWord =>
    simp only [fitToken, Token.isWord, hword hdate, hword htime, hword hstamp]
  | sign | text | number | blob | parameter | rule => rfl

/-- A parameter that is marked by `@` fits as any other does. -/
theorem like_parameter {p : String} (hp : p.toList.head? = some '@') :
    Token.Like (.parameter p) (.parameter "@") := by
  intro s _
  cases s with
  | parameter =>
    obtain ⟨cs, hcs⟩ := List.head?_eq_some_iff.1 hp
    simp [fitToken, hcs]
  | _ => rfl

theorem head?_placeholder (k : Nat) : (placeholder k).toList.head? = some '@' := by
  simp [toList_placeholder]

/-- A number fits as any other does. -/
theorem like_number (n : Nat) : Token.Like (.number n) (.number 0) := by
  intro s _
  cases s <;> rfl

/-! ## Choices -/

/-- The symbols that decide how well a token fits a symbol. -/
def Symbol.starts : (depth : Nat) → Symbol → List Symbol
  | n + 1, .rule r => (r.alternatives.filterMap List.head?).flatMap (starts n)
  | _, s => [s]

/-- The symbols that decide which alternative of a rule is taken. -/
def Rule.starts (r : Rule) : List Symbol :=
  (r.alternatives.filterMap List.head?).flatMap (Symbol.starts ruleDepth)

/-- Tokens that fit the symbols alike by which a symbol may start fit it alike. -/
theorem fit_congr {t u : Token} {n : Nat} {s : Symbol}
    (h : ∀ l ∈ s.starts n, l.fitToken t = l.fitToken u) : s.fit t n = s.fit u n := by
  induction n generalizing s with
  | zero => exact h s List.mem_cons_self
  | succ n ih =>
    cases s with
    | rule r =>
      have hfit : ∀ l ∈ r.alternatives.filterMap List.head?, l.fit t n = l.fit u n :=
        fun l hl => ih fun l' hl' => h l' (List.mem_flatMap.2 ⟨l, hl, hl'⟩)
      simp only [fit]
      -- The fit of a rule is the best of its alternatives, which agree one by one.
      generalize r.alternatives.filterMap List.head? = ls at hfit
      generalize Fit.none = f
      induction ls generalizing f with
      | nil => rfl
      | cons l ls ihl =>
        rw [List.foldl_cons, List.foldl_cons, hfit l List.mem_cons_self]
        exact ihl (fun l' hl' => hfit l' (List.mem_cons_of_mem _ hl')) _
    | _ => exact h _ List.mem_cons_self

/-- Of two tokens that fit alike, a rule takes the same alternative. -/
theorem choose_congr {r : Rule} (hr : r.starts.all isKnown = true) {t u : Token} (h : t.Like u) :
    r.choose t = r.choose u := by
  have hfits (f : Fit) (a : List Symbol) (ha : a ∈ r.alternatives) :
      (a.head?.any fun s => s.fit t ruleDepth == f) =
        a.head?.any fun s => s.fit u ruleDepth == f := by
    cases hs : a.head? with
    | none => rfl
    | some s =>
      have hfit : s.fit t ruleDepth = s.fit u ruleDepth := fit_congr fun l hl =>
        h l (List.all_eq_true.1 hr l (List.mem_flatMap.2
          ⟨s, List.mem_filterMap.2 ⟨a, ha, hs⟩, hl⟩))
      simp only [Option.any_some, hfit]
  have hfind (f : Fit) :
      (r.alternatives.find? fun a => a.head?.any fun s => s.fit t ruleDepth == f) =
        r.alternatives.find? fun a => a.head?.any fun s => s.fit u ruleDepth == f := by
    have := hfits f
    generalize r.alternatives = alternatives at this
    induction alternatives with
    | nil => rfl
    | cons a as ih =>
      rw [List.find?_cons, List.find?_cons, this a List.mem_cons_self,
        ih fun b hb => this b (List.mem_cons_of_mem _ hb)]
  simp only [choose, hfind]

/-- The alternative of a rule where tokens, or none, come next. -/
def Rule.chooseAt (r : Rule) : List Token → Option (List Symbol)
  | [] => r.chooseEnd
  | t :: _ => r.choose t

/-- A rule chooses an alternative for a token, and by what is known of words alone. -/
def Rule.Chooses (r : Rule) (u : Token) (a : List Symbol) : Prop :=
  r.starts.all isKnown = true ∧ r.choose u = some a

instance (r : Rule) (u : Token) (a : List Symbol) : Decidable (r.Chooses u a) :=
  inferInstanceAs (Decidable (_ ∧ _))

/-- What a rule chooses for a token, it chooses before any token that is like it. -/
theorem Rule.Chooses.chooseAt_of_like {r : Rule} {a : List Symbol} {t u : Token}
    (h : r.Chooses u a) (ht : t.Like u) (ts : List Token) : r.chooseAt (t :: ts) = some a := by
  rw [chooseAt, choose_congr h.1 ht, h.2]

/-- The tokens that stand for those that start a term. -/
def termStarts : List Token := [.word "a", .parameter "@", .sign "("]

instance (p : Width → Prop) [DecidablePred p] : Decidable (∀ w, p w) :=
  decidable_of_iff (∀ w ∈ ([.wide, .untilAnd, .tight] : List Width), p w)
    ⟨fun h w => h w (by cases w <;> decide), fun h w _ => h w⟩

instance (p : BinaryOp → Prop) [DecidablePred p] : Decidable (∀ op, p op) :=
  decidable_of_iff (∀ op ∈ ([.eq, .ne, .lt, .le, .gt, .ge, .and, .or] : List BinaryOp), p op)
    ⟨fun h op => h op (by cases op <;> decide), fun h op _ => h op⟩

/-- What the rules choose for the tokens of a sentence. -/
@[mk_iff] structure Choices : Prop where
  -- names, placeholders and numbers, and all that is like them
  expr : ∀ w, ∀ u ∈ .number 0 :: termStarts, (expr w).Chooses u [.rule primary, .rule (tail w)]
  primary_name : primary.Chooses (.word "a") [.name, .rule nameRest]
  primary : ∀ u ∈ [.number 0, .parameter "@", .sign "("], primary.Chooses u [.rule plainPrimary]
  plainPrimary_number : plainPrimary.Chooses (.number 0) [.number]
  plainPrimary_parameter : plainPrimary.Chooses (.parameter "@") [.parameter]
  group : ∀ u ∈ termStarts, group.Chooses u [.rule someExprs]
  someExprs : ∀ u ∈ termStarts, someExprs.Chooses u [.rule (Rule.expr .wide), .rule moreExprs]
  distinction : distinction.Chooses (.word "a") []
  items : items.Chooses (.word "a") [.rule item, .rule moreItems]
  item : item.Chooses (.word "a") [.name, .rule itemName]
  -- the signs and the words of a sentence
  plainPrimary_open : plainPrimary.choose (.sign "(") =
    some [.sign "(", .rule Rule.group, .sign ")"]
  close : ∀ r ∈ [nameRest, tail .wide, tail .tight, moreExprs, escape],
    r.choose (.sign ")") = some []
  tail_operator : ∀ op : BinaryOp, ∃ s ∈ ([sign "=", sign "<>", sign "<", sign "<=", sign ">",
      sign ">=", word "and", word "or"] : List Symbol),
    (tail .wide).choose op.token = some [s, .rule (Rule.expr .wide)] ∧ s.fitToken op.token ≠ .none
  nameRest_operator : ∀ op : BinaryOp, nameRest.choose op.token = some []
  tail_like : (tail .wide).choose (.word "LIKE") =
    some [.likeWord, .rule (Rule.expr .tight), .rule escape, .rule (tail .wide)]
  nameRest_like : nameRest.choose (.word "LIKE") = some []
  moreItems_comma : moreItems.choose (.sign ",") = some [.sign ",", .rule Rule.items]
  moreItems_from : moreItems.choose (.word "FROM") = some []
  itemName : ∀ u ∈ [.sign ",", .word "FROM"], itemName.choose u = some []
  origin : origin.choose (.word "FROM") = some [.word "from", .rule table, .rule joins]
  ofSchema : ofSchema.choose (.sign ".") = some [.sign ".", .anyName]
  condition : condition.choose (.word "WHERE") = some [.word "where", .rule (Rule.expr .wide)]
  limit : limit.choose (.word "LIMIT") =
    some [.word "limit", .rule (Rule.expr .wide), .rule limitRest]
  before_where : ∀ r ∈ [Rule.ofSchema, tableRest, joined, joins],
    r.choose (.word "WHERE") = some []
  before_limit : ∀ r ∈ [Rule.ofSchema, tableRest, joined, joins, Rule.condition, nameRest,
    tail .wide, grouping, having, order], r.choose (.word "LIMIT") = some []
  core : core.choose (.word "SELECT") = some [.word "select", .rule Rule.distinction,
    .rule Rule.items, .rule Rule.origin, .rule Rule.condition, .rule grouping, .rule having,
    .rule order, .rule Rule.limit]
  selection : selection.choose (.word "SELECT") = some [.rule Rule.core, .rule compound]
  command : command.choose (.word "SELECT") = some [.rule Rule.selection]

/-- The rules of the grammar choose so. -/
theorem chosen : Choices := by
  -- They are decided all at once.
  rw [choices_iff]
  decide

/-! ## Acceptance -/

/-- What was recognised as a statement. -/
def Accepted (r : Except Nat Nat) : Prop := ∃ n, r = .ok n

/-- What was recognised as no statement. -/
def Rejected (r : Except Nat Nat) : Prop := ∃ n, r = .error n

/-- With so many steps, following the expected symbols through the tokens leads to an
    outcome. -/
def Follows (p : Except Nat Nat → Prop) (k : Nat) (expected : List Symbol) (ts : List Token) :
    Prop :=
  ∀ fuel taken, k ≤ fuel → p (follow fuel expected ts taken)

variable {p : Except Nat Nat → Prop} {k : Nat} {e : List Symbol} {ts : List Token}

theorem accepts_nil : Follows Accepted 1 [] [] := by
  intro fuel taken hk
  obtain ⟨n, rfl⟩ : ∃ n, fuel = n + 1 := ⟨fuel - 1, by omega⟩
  exact ⟨taken, rfl⟩

theorem Follows.mono {k' : Nat} (h : Follows p k e ts) (hk : k ≤ k') : Follows p k' e ts :=
  fun fuel taken hf => h fuel taken (Nat.le_trans hk hf)

/-- A rule leads where the alternative does that it chooses. -/
theorem Follows.expand {r : Rule} {a : List Symbol} (h : Follows p k (a ++ e) ts)
    (ha : r.chooseAt ts = some a) : Follows p (k + 1) (.rule r :: e) ts := by
  intro fuel taken hk
  obtain ⟨n, rfl⟩ : ∃ n, fuel = n + 1 := ⟨fuel - 1, by omega⟩
  have hm := h n taken (by omega)
  cases ts with
  | nil =>
    have ha : r.chooseEnd = some a := ha
    rw [follow, ha]
    exact hm
  | cons t ts =>
    have ha : r.choose t = some a := ha
    rw [follow, ha]
    exact hm

/-- A token that fits is taken. -/
theorem Follows.take {s : Symbol} {t : Token} (h : Follows p k e ts)
    (hs : s.fitToken t ≠ .none) : Follows p (k + 1) (s :: e) (t :: ts) := by
  intro fuel taken hk
  obtain ⟨n, rfl⟩ : ∃ n, fuel = n + 1 := ⟨fuel - 1, by omega⟩
  have hm := h n (taken + 1) (by omega)
  cases s with
  | rule => exact absurd rfl hs
  | _ =>
    rw [follow]
    · split
      · next hn => exact absurd hn hs
      · exact hm
    · exact nofun

/-- Rules that choose nothing are passed over. -/
theorem Follows.pass (h : Follows p k e ts) (rs : List Rule)
    (hrs : ∀ r ∈ rs, r.chooseAt ts = some []) :
    Follows p (k + rs.length) (rs.map .rule ++ e) ts := by
  induction rs with
  | nil => exact h
  | cons r rs ih =>
    have := ih fun r' hr' => hrs r' (List.mem_cons_of_mem _ hr')
    exact this.expand (a := []) (hrs r List.mem_cons_self)

/-! ## Terms -/

/-- Whether a name is a plain identifier and no word of the language. -/
def isColumnName (s : String) : Bool := isIdentifier s && isPlainName s

theorem isColumnName_iff {s : String} :
    isColumnName s = true ↔ isIdentifier s = true ∧ isPlainName s = true :=
  Bool.and_eq_true_iff

theorem tokens_column {s : String} (h : isColumnName s = true) :
    (Term.column s).tokens = [.word s] :=
  scan_of_isIdentifier (isColumnName_iff.1 h).1

theorem like_of_isColumnName {s : String} (h : isColumnName s = true) :
    Token.Like (.word s) (.word "a") :=
  like_of_isPlainName (isColumnName_iff.1 h).2

/-- A term starts with a token that is like one of few: what a rule chooses for these, it
    chooses for every term. -/
theorem chooseAt_term {r : Rule} {a : List Symbol} (h : ∀ v ∈ termStarts, r.Chooses v a)
    {t : Term} (ht : t.Rendered (isColumnName · = true)) (rest : List Token) :
    r.chooseAt (t.tokens ++ rest) = some a := by
  obtain ⟨u, us, v, hu, hv, hlike⟩ : ∃ u us v, t.tokens = u :: us ∧ v ∈ termStarts ∧ u.Like v := by
    cases ht with
    | column hn => exact ⟨_, _, _, tokens_column hn, by decide, like_of_isColumnName hn⟩
    | parameter => exact ⟨_, _, _, rfl, by decide, like_parameter (head?_placeholder _)⟩
    | binary => exact ⟨_, _, .sign "(", rfl, by decide, .refl _⟩
    | like => exact ⟨_, _, .sign "(", rfl, by decide, .refl _⟩
  rw [hu, List.cons_append]
  exact (h v hv).chooseAt_of_like hlike _

/-- Where a term may end: nothing is expected any more after a name. -/
def Ends (ts : List Token) : Prop := nameRest.chooseAt ts = some []

theorem ends_operator (op : BinaryOp) (ts : List Token) : Ends (op.token :: ts) :=
  Choices.nameRest_operator chosen op

theorem ends_like (ts : List Token) : Ends (.word "LIKE" :: ts) :=
  Choices.nameRest_like chosen

/-- A closing parenthesis ends what stands before it. -/
theorem ends_close (ts : List Token) : Ends (.sign ")" :: ts) :=
  Choices.close chosen _ List.mem_cons_self

/-- An expression in parentheses is accepted if what is in them is. -/
theorem Follows.parentheses {t : Term} {rest : List Token}
    (ht : t.Rendered (isColumnName · = true))
    (h : Follows p k (.rule (expr .wide) :: .rule moreExprs :: .sign ")" :: .rule (tail .wide) :: e)
      (t.tokens ++ rest)) :
    Follows p (k + 6) (.rule (expr .wide) :: e) (.sign "(" :: (t.tokens ++ rest)) := by
  have hsome := h.expand (r := someExprs) (a := [.rule (expr .wide), .rule moreExprs])
    (chooseAt_term (Choices.someExprs chosen) ht rest)
  have hgroup := hsome.expand (r := group) (a := [.rule someExprs])
    (chooseAt_term (Choices.group chosen) ht rest)
  have hplain := (hgroup.take (s := .sign "(") (t := .sign "(") (by decide)).expand
    (r := plainPrimary) (a := [.sign "(", .rule group, .sign ")"])
    (Choices.plainPrimary_open chosen)
  have hprimary := hplain.expand (r := primary) (a := [.rule plainPrimary])
    (Choices.primary chosen (.sign "(") (by decide)).2
  exact hprimary.expand (a := [.rule primary, .rule (tail .wide)])
    (Choices.expr chosen .wide (.sign "(") (by decide)).2

/-- The end of an expression in parentheses. -/
theorem Follows.close {ts : List Token} (h : Follows p k e ts) :
    Follows p (k + 3) (.rule (tail .wide) :: .rule moreExprs :: .sign ")" :: e)
      (.sign ")" :: ts) := by
  refine (h.take (s := .sign ")") (by decide)).pass [tail .wide, moreExprs] ?_
  exact fun r hr => Choices.close chosen r (by revert r; decide)

/-- A parameter that is marked by `@` is an expression of any width. -/
theorem accepts_parameter {w : Width} {name : String} (hn : name.toList.head? = some '@')
    (h : Follows p k (.rule (tail w) :: e) ts) :
    Follows p (k + 4) (.rule (expr w) :: e) (.parameter name :: ts) := by
  have hlike := like_parameter hn
  have htake := h.take (s := .parameter) (t := .parameter name)
    (by rw [hlike _ rfl]; decide)
  have hplain := htake.expand (r := plainPrimary) (a := [.parameter])
    ((Choices.plainPrimary_parameter chosen).chooseAt_of_like hlike _)
  have hprimary := hplain.expand (r := primary) (a := [.rule plainPrimary])
    ((Choices.primary chosen _ (by decide)).chooseAt_of_like hlike _)
  exact hprimary.expand (a := [.rule primary, .rule (tail w)])
    ((Choices.expr chosen w _ (by decide)).chooseAt_of_like hlike _)

/-- A column is an expression, wherever it may end. -/
theorem accepts_column {name : String} (hn : isColumnName name = true) {rest : List Token}
    (hend : Ends rest) (h : Follows p k (.rule (tail .wide) :: e) rest) :
    Follows p (k + 4) (.rule (expr .wide) :: e) (.word name :: rest) := by
  have hlike := like_of_isColumnName hn
  have htake := (h.expand (r := nameRest) (a := []) hend).take (s := .name) (t := .word name)
    (by rw [hlike _ rfl]; decide)
  have hprimary := htake.expand (r := primary) (a := [.name, .rule nameRest])
    ((Choices.primary_name chosen).chooseAt_of_like hlike _)
  exact hprimary.expand (a := [.rule primary, .rule (tail .wide)])
    ((Choices.expr chosen .wide _ (by decide)).chooseAt_of_like hlike _)

/-- A rendered term is an expression, wherever it may end. -/
theorem accepts_term {t : Term} (ht : t.Rendered (isColumnName · = true)) {rest : List Token}
    (hend : Ends rest) (h : Follows p k (.rule (tail .wide) :: e) rest) :
    Follows p (k + 12 * t.tokens.length) (.rule (expr .wide) :: e) (t.tokens ++ rest) := by
  induction ht generalizing k e rest with
  | @column name hn =>
    rw [tokens_column hn]
    refine (accepts_column hn hend h).mono ?_
    simp
  | @parameter n =>
    refine (accepts_parameter (head?_placeholder n) h).mono ?_
    simp [Term.tokens]
  | @binary op l r hl _ ihl ihr =>
    obtain ⟨s, -, hs, hfit⟩ := Choices.tail_operator chosen op
    have hright := ihr (ends_close rest) h.close
    have hoperator := (hright.take hfit).expand (r := tail .wide) (a := [s, .rule (expr .wide)]) hs
    have hleft := ihl (ends_operator op _) hoperator
    have := hleft.parentheses hl
    simp only [Term.tokens, List.cons_append, List.append_assoc, List.nil_append]
    refine this.mono ?_
    simp only [List.length_cons, List.length_append, List.length_nil]
    omega
  | @like t n hl ih =>
    -- The pattern is read as a tight expression: its own tail and the escape come first.
    have htails : Follows p (k + 3 + 2) (.rule (tail .tight) :: .rule escape ::
        .rule (tail .wide) :: .rule moreExprs :: .sign ")" :: .rule (tail .wide) :: e)
        (.sign ")" :: rest) := by
      refine h.close.pass [tail .tight, escape] ?_
      exact fun r hr => Choices.close chosen r (by revert r; decide)
    have hlike := ((accepts_parameter (head?_placeholder n) htails).take (s := .likeWord)
      (t := .word "LIKE") (by decide)).expand (r := tail .wide)
      (a := [.likeWord, .rule (expr .tight), .rule escape, .rule (tail .wide)])
      (Choices.tail_like chosen)
    have := (ih (ends_like _) hlike).parentheses hl
    simp only [Term.tokens, List.cons_append, List.append_assoc, List.nil_append]
    refine this.mono ?_
    simp only [List.length_cons, List.length_append, List.length_nil]
    omega

/-! ## Sentences -/

/-- The tokens of the name of a table, with that of a database or without. -/
inductive NamesTable : List Token → TableName → Prop
  | plain {t : Token} {name : String} : t.anyName? = some name → NamesTable [t] ⟨none, name⟩
  | within {t u : Token} {database name : String} :
    t.anyName? = some database → u.anyName? = some name →
    NamesTable [t, .sign ".", u] ⟨some database, name⟩

/-- A name fits where one is expected. -/
theorem fitToken_anyName {t : Token} {name : String} (h : t.anyName? = some name) :
    anyName.fitToken t ≠ .none := by
  cases t with
  | word s =>
    have hs : isReserved s = false := by
      simp only [Token.anyName?, Token.name?] at h
      split at h
      · cases h
      · next hr => simpa using hr
    simp only [fitToken, fitName, Fit.ofWord, hs, Bool.not_false, Bool.not_true, Bool.false_eq_true,
      if_false]
    split <;> decide
  | quoted | text =>
    intro h
    cases h
  | _ => cases h

theorem choose_table {t : Token} {name : String} (h : t.anyName? = some name) :
    table.choose t = some [.anyName, .rule ofSchema, .rule tableRest, .rule joined] := by
  have hsign : t ≠ .sign "(" := by
    rintro rfl
    cases h
  have hopen : (sign "(").fit t ruleDepth = .none := by
    simp [fit, ruleDepth, fitToken, Fit.ofBool, hsign]
  have hname : anyName.fit t ruleDepth = anyName.fitToken t := rfl
  have hfit := fitToken_anyName h
  simp only [choose, alternatives, List.find?_cons, List.head?_cons, Option.any_some, hopen, hname]
  cases hf : anyName.fitToken t with
  | none => exact absurd hf hfit
  | free | exact => rfl

variable {ts : List Token}

/-- What may follow a table: nothing more is expected of it. -/
def EndsTable (ts : List Token) : Prop :=
  ∀ r ∈ [ofSchema, tableRest, joined, joins], r.chooseAt ts = some []

/-- The name of a table is accepted, with that of a database or without. -/
theorem accepts_tableName {us : List Token} {name : TableName} (hu : NamesTable us name)
    (hend : ofSchema.chooseAt ts = some []) (h : Follows p k e ts) :
    Follows p (k + 4) (.anyName :: .rule ofSchema :: e) (us ++ ts) := by
  cases hu with
  | plain ht =>
    have hname := (h.expand (r := ofSchema) (a := []) hend).take (s := .anyName)
      (fitToken_anyName ht)
    exact hname.mono (by omega)
  | within ht hu =>
    have hschema := ((h.take (s := .anyName) (fitToken_anyName hu)).take (s := .sign ".")
      (t := .sign ".") (by decide)).expand (r := ofSchema) (a := [.sign ".", .anyName])
      (Choices.ofSchema chosen)
    exact (hschema.take (s := .anyName) (fitToken_anyName ht)).mono (by omega)

/-- The table that rows come from is accepted. -/
theorem accepts_table {us : List Token} {name : TableName} (hu : NamesTable us name)
    (hend : EndsTable ts) (h : Follows p k e ts) :
    Follows p (k + 12) (.rule origin :: e) (.word "FROM" :: (us ++ ts)) := by
  have hrest : Follows p (k + 3) (.rule tableRest :: .rule joined :: .rule joins :: e) ts :=
    h.pass [tableRest, joined, joins] fun r hr => hend r (List.mem_cons_of_mem _ hr)
  have hname := accepts_tableName hu (hend _ List.mem_cons_self) hrest
  -- The first token is a name, whether it is that of a database or not.
  have hfirst : table.chooseAt (us ++ ts) =
      some [.anyName, .rule ofSchema, .rule tableRest, .rule joined] := by
    cases hu with
    | plain ht => exact choose_table ht
    | within ht => exact choose_table ht
  have htable := hname.expand (r := table)
    (a := [.anyName, .rule ofSchema, .rule tableRest, .rule joined]) hfirst
  have hfrom := (htable.take (s := .word "from") (t := .word "FROM") (by decide)).expand
    (r := origin) (a := [.word "from", .rule table, .rule joins]) (Choices.origin chosen)
  exact hfrom.mono (by omega)

/-- A name is accepted as the first item, before more of them or none. -/
theorem accepts_item {name : String} (hn : isColumnName name = true)
    (hname : itemName.chooseAt ts = some []) (h : Follows p k (.rule moreItems :: e) ts) :
    Follows p (k + 4) (.rule items :: e) (.word name :: ts) := by
  have hlike := like_of_isColumnName hn
  have htake := (h.expand (r := itemName) (a := []) hname).take (s := .name) (t := .word name)
    (by rw [hlike _ rfl]; decide)
  have hitem := htake.expand (r := item) (a := [.name, .rule itemName])
    ((Choices.item chosen).chooseAt_of_like hlike _)
  exact hitem.expand (a := [.rule item, .rule moreItems])
    ((Choices.items chosen).chooseAt_of_like hlike _)

/-- Names with commas between them are accepted as items, before the word `FROM`. -/
theorem accepts_names {names : List String} (hne : names ≠ [])
    (hn : ∀ name ∈ names, isColumnName name = true) (h : Follows p k e (.word "FROM" :: ts)) :
    Follows p (k + 7 * (Sentence.nameTokens names).length) (.rule items :: e)
      (Sentence.nameTokens names ++ .word "FROM" :: ts) := by
  induction names with
  | nil => exact absurd rfl hne
  | cons name names ih =>
    have hname := hn name List.mem_cons_self
    have hscan : scan name.toList = [.word name] := tokens_column hname
    -- What comes after a name decides whether more items follow: `FROM` or a comma.
    cases names with
    | nil =>
      have hmore := h.expand (r := moreItems) (a := [])
        (Choices.moreItems_from chosen)
      have hfrom : itemName.chooseAt (.word "FROM" :: ts) = some [] :=
        Choices.itemName chosen (.word "FROM") (by decide)
      have := accepts_item hname hfrom hmore
      simp only [Sentence.nameTokens, List.map_cons, List.map_nil, List.intercalate_singleton,
        hscan]
      exact this.mono (by simp only [List.length_singleton]; omega)
    | cons second names =>
      have hothers := ih (List.cons_ne_nil _ _) fun n hn' => hn n (List.mem_cons_of_mem _ hn')
      have hmore := (hothers.take (s := .sign ",") (t := .sign ",") (by decide)).expand
        (r := moreItems) (a := [.sign ",", .rule items])
        (Choices.moreItems_comma chosen)
      have hcomma (us : List Token) : itemName.chooseAt (.sign "," :: us) = some [] :=
        Choices.itemName chosen (.sign ",") (by decide)
      have := accepts_item hname (hcomma _) hmore
      simp only [Sentence.nameTokens, List.map_cons, List.intercalate_cons_cons, hscan] at this ⊢
      simp only [List.cons_append, List.nil_append]
      refine this.mono ?_
      simp only [List.length_cons]
      omega

/-- A limit, or none, is accepted as the end of a statement. -/
theorem accepts_limit (s : Sentence) :
    Follows Accepted 16 [.rule grouping, .rule having, .rule order, .rule limit, .rule compound]
      s.limitTokens := by
  have hpass {k : Nat} {us : List Token} {rs : List Rule} (h : Follows Accepted k [] us)
      (hrs : ∀ r ∈ rs, r.chooseAt us = some []) :
      Follows Accepted (k + rs.length) (rs.map .rule) us := by
    simpa using h.pass rs hrs
  simp only [Sentence.limitTokens]
  cases s.limit with
  | none =>
    have : Follows Accepted (1 + [grouping, having, order, limit, compound].length)
        ([grouping, having, order, limit, compound].map .rule) [] :=
      hpass accepts_nil (by decide)
    exact this.mono (by decide)
  | some n =>
    have hlike := like_number n
    have hend : Follows Accepted (1 + [tail .wide, limitRest, compound].length)
        ([tail .wide, limitRest, compound].map .rule) [] :=
      hpass accepts_nil (by decide)
    have htake := hend.take (s := .number) (t := .number n) (by rw [hlike _ rfl]; decide)
    have hplain := htake.expand (r := plainPrimary) (a := [.number])
      ((Choices.plainPrimary_number chosen).chooseAt_of_like hlike _)
    have hprimary := hplain.expand (r := primary) (a := [.rule plainPrimary])
      ((Choices.primary chosen _ (by decide)).chooseAt_of_like hlike _)
    have hexpr := hprimary.expand (r := expr .wide) (a := [.rule primary, .rule (tail .wide)])
      ((Choices.expr chosen .wide _ (by decide)).chooseAt_of_like hlike _)
    have hlimit := (hexpr.take (s := .word "limit") (t := .word "LIMIT") (by decide)).expand
      (r := limit) (a := [.word "limit", .rule (expr .wide), .rule limitRest])
      (Choices.limit chosen)
    refine (hlimit.pass [grouping, having, order] ?_).mono (by decide)
    exact fun r hr => Choices.before_limit chosen r (by revert r; decide)

/-- Rules that choose nothing for the end of a statement and for the word `LIMIT` choose
    nothing for a limit or none. -/
theorem chooseAt_limit {r : Rule} (hend : r.chooseEnd = some [])
    (hlimit : r.choose (.word "LIMIT") = some []) (s : Sentence) :
    r.chooseAt s.limitTokens = some [] := by
  simp only [Sentence.limitTokens]
  cases s.limit with
  | none => exact hend
  | some n => exact hlimit

/-- A condition, or none, is accepted before the limit. -/
theorem accepts_condition {s : Sentence}
    (ht : ∀ t ∈ s.condition, t.Rendered (isColumnName · = true)) :
    Follows Accepted (20 + 12 * s.conditionTokens.length)
      [.rule condition, .rule grouping, .rule having, .rule order, .rule limit, .rule compound]
      (s.conditionTokens ++ s.limitTokens) := by
  have hlimit := accepts_limit s
  simp only [Sentence.conditionTokens]
  cases hc : s.condition with
  | none =>
    have := hlimit.expand (r := condition) (a := [])
      (chooseAt_limit rfl (Choices.before_limit chosen _ (by decide)) s)
    exact this.mono (by omega)
  | some t =>
    have htail := hlimit.expand (r := tail .wide) (a := [])
      (chooseAt_limit rfl (Choices.before_limit chosen _ (by decide)) s)
    have hends : Ends s.limitTokens :=
      chooseAt_limit rfl (Choices.before_limit chosen _ (by decide)) s
    have hterm := accepts_term (ht t hc) hends htail
    have hwhere := (hterm.take (s := .word "where") (t := .word "WHERE") (by decide)).expand
      (r := condition) (a := [.word "where", .rule (expr .wide)])
      (Choices.condition chosen)
    refine hwhere.mono ?_
    simp only [List.length_cons]
    omega

/-- After the table of a sentence nothing more is expected of it. -/
theorem endsTable (s : Sentence) : EndsTable (s.conditionTokens ++ s.limitTokens) := by
  have hend : ∀ r ∈ [ofSchema, tableRest, joined, joins], r.chooseEnd = some [] := by decide
  intro r hr
  simp only [Sentence.conditionTokens]
  cases s.condition with
  | none =>
    exact chooseAt_limit (hend r hr) (Choices.before_limit chosen r (by revert r; decide)) s
  | some t => exact Choices.before_where chosen r hr

/-- The tokens of a sentence are a statement, if its columns are names that have no
    meaning in the language, and its table is one. -/
theorem recognise_sentence {s : Sentence} {name : TableName} (hne : s.columns ≠ [])
    (hn : ∀ column ∈ s.columns, isColumnName column = true)
    (htable : NamesTable (scan s.table.toList) name)
    (ht : ∀ t ∈ s.condition, t.Rendered (isColumnName · = true)) :
    ∃ n, recognise s.tokens = .ok n := by
  have horigin := accepts_table htable (endsTable s) (accepts_condition ht)
  have hitems := accepts_names hne hn horigin
  obtain ⟨column, columns, hcolumns⟩ := List.exists_cons_of_ne_nil hne
  -- The first column has no meaning in the language, so that it is not read as `DISTINCT`.
  have hdistinction : distinction.chooseAt (Sentence.nameTokens s.columns ++ .word "FROM" ::
      (scan s.table.toList ++ (s.conditionTokens ++ s.limitTokens))) = some [] := by
    have hfirst := hn column (by rw [hcolumns]; exact List.mem_cons_self)
    have hscan : scan column.toList = [.word column] := tokens_column hfirst
    obtain ⟨us, hus⟩ : ∃ us, Sentence.nameTokens s.columns = .word column :: us := by
      rw [hcolumns, Sentence.nameTokens, List.map_cons, hscan]
      cases columns with
      | nil => exact ⟨_, rfl⟩
      | cons => exact ⟨_, by rw [List.map_cons, List.intercalate_cons_cons]; rfl⟩
    rw [hus, List.cons_append]
    exact (Choices.distinction chosen).chooseAt_of_like (like_of_isColumnName hfirst) _
  have hselect := (hitems.expand (r := distinction) (a := []) hdistinction).take
    (s := .word "select") (t := .word "SELECT") (by decide)
  have hcore := hselect.expand (r := core)
    (a := [.word "select", .rule distinction, .rule items, .rule origin, .rule condition,
      .rule grouping, .rule having, .rule order, .rule limit])
    (Choices.core chosen)
  have hselection := hcore.expand (r := selection) (a := [.rule core, .rule compound])
    (Choices.selection chosen)
  have hcommand := hselection.expand (r := command) (a := [.rule selection])
    (Choices.command chosen)
  -- The recogniser is given more steps by the number of tokens than the sentence takes.
  refine hcommand _ 0 ?_
  simp only [Sentence.tokens, List.length_cons, List.length_append]
  omega

end EntityQuery.Sql
