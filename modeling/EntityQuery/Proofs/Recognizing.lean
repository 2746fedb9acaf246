import EntityQuery.Proofs.Forms

/-!
# Statements that change tables are recognised

The statements that make, drop, fill and count a table are accepted, by their forms alone:
whatever stands for a name where a table or a column is named, the rules take it for one
(`choose_name`).

* `recognise_makesTable`: a definition is recognised if it has a column, and not without;
* `recognise_dropsTable`, `recognise_countsRecords`, `recognise_insertsRecord`: statements of
  these forms are recognised, that of a record if it has a column.
-/

namespace EntityQuery.Sql

open Rule EntityQuery.Sql.Symbol

/-! ## Choices -/

/-- A name is no reserved word. -/
theorem isWord_eq_false_of_anyName? {t : Token} {name w : String} (h : t.anyName? = some name)
    (hw : w ∈ reservedWords) : t.isWord w = false := by
  cases t with
  | word s =>
    have hs : isReserved s = false := by
      simp only [Token.anyName?, Token.name?] at h
      split at h
      · cases h
      · next hr => simpa using hr
    rw [isReserved, List.contains_eq_mem, decide_eq_false_iff_not] at hs
    simp only [Token.isWord, beq_eq_false_iff_ne]
    exact fun he => hs (he ▸ hw)
  | _ => rfl

/-- A rule with one alternative takes it before a name, if a name comes first in it. -/
theorem choose_name {r : Rule} {a : List Symbol} (hr : r.alternatives = [.anyName :: a])
    {t : Token} {name : String} (h : t.anyName? = some name) :
    r.choose t = some (.anyName :: a) := by
  have hname : anyName.fit t ruleDepth = anyName.fitToken t := rfl
  have hfit := fitToken_anyName h
  simp only [choose, hr, List.find?_cons, List.head?_cons, Option.any_some, hname]
  cases hf : anyName.fitToken t with
  | none => exact absurd hf hfit
  | free | exact => rfl

/-- After a comma in a definition, a name starts a column and no rule of the table. -/
theorem choose_columnOrRule {t : Token} {name : String} (h : t.anyName? = some name) :
    columnOrRule.choose t = some [.rule Rule.column, .rule moreColumns] := by
  have hword {w : String} (hw : w ∈ reservedWords) : fitToken t (.word w) = .none := by
    rw [fitToken, isWord_eq_false_of_anyName? h hw]
    rfl
  have htable : (Symbol.rule tableRule).fit t ruleDepth = .none := by
    simp only [fit, ruleDepth, alternatives, List.filterMap_cons, List.head?_cons,
      List.filterMap_nil, List.foldl_cons, List.foldl_nil,
      hword (w := "constraint") (by decide), hword (w := "primary") (by decide),
      hword (w := "unique") (by decide), hword (w := "check") (by decide),
      hword (w := "foreign") (by decide)]
    rfl
  have hcolumn : (Symbol.rule Rule.column).fit t ruleDepth = anyName.fitToken t := by
    have hmax (f : Fit) : Fit.none.max f = f := by cases f <;> rfl
    simp only [fit, ruleDepth, alternatives, List.filterMap_cons, List.head?_cons,
      List.filterMap_nil, List.foldl_cons, List.foldl_nil, hmax]
  have hfit := fitToken_anyName h
  simp only [choose, alternatives, List.find?_cons, List.head?_cons, Option.any_some, htable,
    hcolumn]
  cases hf : anyName.fitToken t with
  | none => exact absurd hf hfit
  | free | exact => rfl

/-- What the rules choose for the tokens of definitions, and of statements that drop tables. -/
@[mk_iff] structure Definitions : Prop where
  create : command.choose (.word "CREATE") =
    some [.word "create", .rule temporary, .word "table", .rule definition]
  temporary : temporary.choose (.word "TABLE") = some []
  definition : definition.choose (.word "IF") =
    some [.word "if", .word "not", .word "exists", .anyName, .rule ofSchema, .rule body]
  body : body.choose (.sign "(") =
    some [.sign "(", .rule Rule.column, .rule moreColumns, .sign ")", .rule options]
  typeWords : ∀ w ∈ ["INTEGER", "REAL", "TEXT", "BLOB"],
    typeWords.choose (.word w) = some [.label, .rule moreType] ∧ label.fitToken (.word w) ≠ .none
  moreType : ∀ u ∈ [.word "PRIMARY", .sign ",", .sign ")"], moreType.choose u = some []
  columnRules_primary : columnRules.choose (.word "PRIMARY") =
    some [.rule columnRule, .rule columnRules]
  columnRule : columnRule.choose (.word "PRIMARY") =
    some [.word "primary", .word "key", .rule ascending, .rule onConflict, .rule counting]
  counting : counting.choose (.word "AUTOINCREMENT") = some [.word "autoincrement"]
  before_counting : ∀ r ∈ [ascending, onConflict], r.choose (.word "AUTOINCREMENT") = some []
  ends : ∀ u ∈ [.sign ",", .sign ")"],
    ∀ r ∈ [ascending, onConflict, Rule.counting, columnRules], r.choose u = some []
  moreColumns_comma : moreColumns.choose (.sign ",") = some [.sign ",", .rule columnOrRule]
  moreColumns_close : moreColumns.choose (.sign ")") = some []
  column_close : Rule.column.choose (.sign ")") = none
  ofSchema : ofSchema.choose (.sign "(") = some []
  drop : command.choose (.word "DROP") =
    some [.word "drop", .word "table", .rule ifPresent, .anyName, .rule Rule.ofSchema]
  ifPresent : ifPresent.choose (.word "IF") = some [.word "if", .word "exists"]

/-- What the rules choose for the tokens of statements that insert records. -/
@[mk_iff] structure Insertions : Prop where
  insert : command.choose (.word "INSERT") = some [.word "insert", .rule orResolution,
    .word "into", .rule target, .rule columnList, .rule source]
  orResolution : orResolution.choose (.word "INTO") = some []
  renamed : renamed.choose (.sign "(") = some []
  columnList : columnList.choose (.sign "(") = some [.sign "(", .rule names, .sign ")"]
  moreNames_comma : moreNames.choose (.sign ",") = some [.sign ",", .anyName, .rule moreNames]
  moreNames_close : moreNames.choose (.sign ")") = some []
  source : source.choose (.word "VALUES") = some [.rule selection]
  selection : selection.choose (.word "VALUES") = some [.rule Rule.core, .rule compound]
  core : core.choose (.word "VALUES") =
    some [.word "values", .sign "(", .rule someExprs, .sign ")", .rule moreRows]
  tail : (tail .wide).choose (.sign ",") = some []
  moreExprs : moreExprs.choose (.sign ",") =
    some [.sign ",", .rule (expr .wide), .rule Rule.moreExprs]

/-- What the rules choose for the tokens of statements that count records. -/
@[mk_iff] structure Counts : Prop where
  distinction : distinction.choose (.word "COUNT") = some []
  items : items.choose (.word "COUNT") = some [.rule item, .rule moreItems]
  item : item.choose (.word "COUNT") = some [.name, .rule Rule.itemName]
  itemName : itemName.choose (.sign "(") = some [.sign "(", .rule callArguments, .sign ")",
    .rule called, .rule (Rule.tail .wide), .rule givenName]
  callArguments : callArguments.choose (.sign "*") = some [.sign "*"]
  before_from : ∀ r ∈ [called, Rule.tail .wide, givenName, moreItems],
    r.choose (.word "FROM") = some []

/-- What the rules choose at the end of a statement. -/
theorem chooseEnd_eq : ∀ r ∈ [options, ofSchema, moreRows, compound, tableRest, joined, joins,
    condition, grouping, having, order, limit], r.chooseEnd = some [] := by
  decide

theorem definitions : Definitions := by
  rw [definitions_iff]
  decide

theorem insertions : Insertions := by
  rw [insertions_iff]
  decide

theorem counts : Counts := by
  rw [counts_iff]
  decide

variable {p : Except Nat Nat → Prop} {k : Nat} {e : List Symbol} {ts us : List Token}

/-! ## Definitions -/

/-- What follows a column in a definition: a comma, or the end of the columns. -/
def EndsColumn (ts : List Token) : Prop := ∃ u ∈ [Token.sign ",", .sign ")"], ts.head? = some u

theorem EndsColumn.chooseAt (h : EndsColumn ts) {r : Rule} {a : List Symbol}
    (hr : ∀ u ∈ [Token.sign ",", .sign ")"], r.choose u = some a) : r.chooseAt ts = some a := by
  obtain ⟨u, hu, h⟩ := h
  obtain ⟨us, rfl⟩ := List.head?_eq_some_iff.1 h
  exact hr u hu

/-- The words that make a column a key are accepted, where the column ends after them. -/
theorem accepts_key {type : Store.ColumnType} {key : Store.KeyRole} (hk : DeclaresKey us type key)
    (hts : EndsColumn ts) (h : Follows p k e ts) :
    Follows p (k + 9) (.rule columnRules :: e) (us ++ ts) := by
  have hends {r : Rule} (hr : r ∈ [ascending, onConflict, Rule.counting, columnRules]) :
      r.chooseAt ts = some [] := hts.chooseAt fun u hu => Definitions.ends definitions u hu r hr
  have hrules := h.expand (r := columnRules) (a := []) (hends (by decide))
  -- The words `PRIMARY KEY` come before what is accepted as the rest of the rule.
  have hprimary {k' : Nat} {vs : List Token}
      (h : Follows p k' (.rule ascending :: .rule onConflict :: .rule Rule.counting ::
        .rule columnRules :: e) vs) :
      Follows p (k' + 4) (.rule columnRules :: e) (.word "PRIMARY" :: .word "KEY" :: vs) := by
    have hwords := (h.take (s := .word "key") (t := .word "KEY") (by decide)).take
      (s := .word "primary") (t := .word "PRIMARY") (by decide)
    have hrule := hwords.expand (r := columnRule) (a := [.word "primary", .word "key",
      .rule ascending, .rule onConflict, .rule Rule.counting]) (Definitions.columnRule definitions)
    exact hrule.expand (r := columnRules) (a := [.rule columnRule, .rule columnRules])
      (Definitions.columnRules_primary definitions)
  cases hk with
  | plain => exact hrules.mono (by omega)
  | unique =>
    have hrest := hrules.pass [ascending, onConflict, Rule.counting]
      fun r hr => hends (List.mem_append_left [columnRules] hr)
    exact (hprimary hrest).mono (by simp only [List.length_cons, List.length_nil]; omega)
  | numbering =>
    have hcounting := (hrules.take (s := .word "autoincrement") (t := .word "AUTOINCREMENT")
      (by decide)).expand (r := Rule.counting) (a := [.word "autoincrement"])
      (Definitions.counting definitions)
    have hrest := hcounting.pass [ascending, onConflict]
      fun r hr => Definitions.before_counting definitions r hr
    exact (hprimary hrest).mono (by simp only [List.length_cons, List.length_nil]; omega)

/-- A column is accepted, where it ends. -/
theorem accepts_columnDefinition {c : Store.ColumnDefinition} (hc : DeclaresColumn us c)
    (hts : EndsColumn ts) (h : Follows p k e ts) :
    Follows p (k + 14) (.rule Rule.column :: e) (us ++ ts) := by
  obtain @⟨t, u, vs, name, type, key, hname, htype, hkey⟩ := hc
  have hrules := accepts_key hkey hts h
  have hmore : moreType.chooseAt (vs ++ ts) = some [] := by
    cases hkey with
    | plain =>
      exact hts.chooseAt fun u hu => Definitions.moreType definitions u (List.mem_cons_of_mem _ hu)
    | unique | numbering => exact Definitions.moreType definitions _ List.mem_cons_self
  obtain ⟨w, hw, rfl⟩ : ∃ w ∈ ["INTEGER", "REAL", "TEXT", "BLOB"], u = .word w := by
    cases htype <;> exact ⟨_, by decide, rfl⟩
  obtain ⟨hchoose, hfit⟩ := Definitions.typeWords definitions w hw
  have htypeWords := ((hrules.expand (r := moreType) (a := []) hmore).take (s := .label)
    (t := .word w) hfit).expand (r := typeWords) (a := [.label, .rule moreType]) hchoose
  have hcolumn := (htypeWords.take (s := .anyName) (fitToken_anyName hname)).expand
    (r := Rule.column) (a := [.anyName, .rule typeWords, .rule columnRules])
    (choose_name rfl hname)
  exact hcolumn.mono (by omega)

/-- Columns are accepted, up to the parenthesis that closes them. -/
theorem accepts_columnDefinitions {c : Store.ColumnDefinition} {cs : List Store.ColumnDefinition}
    (hcs : Listed DeclaresColumn us (c :: cs)) (h : Follows p k e ts) :
    Follows p (k + 20 * us.length) (.rule Rule.column :: .rule moreColumns :: .sign ")" :: e)
      (us ++ .sign ")" :: ts) := by
  have hlength {vs : List Token} {c : Store.ColumnDefinition} (h : DeclaresColumn vs c) :
      2 ≤ vs.length := by
    cases h
    simp
  induction cs generalizing c us with
  | nil =>
    cases hcs with
    | single hc =>
      have hclose := (h.take (s := .sign ")") (t := .sign ")") (by decide)).expand
        (r := moreColumns) (a := []) (Definitions.moreColumns_close definitions)
      have := accepts_columnDefinition hc ⟨.sign ")", by decide, rfl⟩ hclose
      exact this.mono (by have := hlength hc; omega)
  | cons c' cs ih =>
    cases hcs with
    | @cons vs vs' _ _ _ hc hrest =>
      have hfirst : columnOrRule.chooseAt (vs' ++ .sign ")" :: ts) =
          some [.rule Rule.column, .rule moreColumns] := by
        cases hrest with
        | single hc => obtain ⟨hname, -, -⟩ := hc; exact choose_columnOrRule hname
        | cons hc => obtain ⟨hname, -, -⟩ := hc; exact choose_columnOrRule hname
      have hothers := (ih hrest).expand (r := columnOrRule)
        (a := [.rule Rule.column, .rule moreColumns]) hfirst
      have hcomma := (hothers.take (s := .sign ",") (t := .sign ",") (by decide)).expand
        (r := moreColumns) (a := [.sign ",", .rule columnOrRule])
        (Definitions.moreColumns_comma definitions)
      have := accepts_columnDefinition hc ⟨.sign ",", by decide, rfl⟩ hcomma
      rw [List.append_assoc, List.cons_append]
      refine this.mono ?_
      have := hlength hc
      simp only [List.length_append, List.length_cons]
      omega

/-- The recogniser has more steps by the number of tokens than a statement takes. -/
theorem recognise_of_follows {ts : List Token} (h : Follows p k [.rule command] ts)
    (hk : k ≤ 1000 * (ts.length + 1)) : p (recognise ts) :=
  h _ 0 hk

/-- A definition leads where the rest of it does after the name of the table. -/
theorem follows_definition {name : TableName} {vs : List Token} (hnames : NamesTable us name)
    (h : Follows p k [.rule Rule.column, .rule moreColumns, .sign ")", .rule options] vs) :
    Follows p (k + 15) [.rule command] (.word "CREATE" :: .word "TABLE" :: .word "IF" ::
      .word "NOT" :: .word "EXISTS" :: (us ++ .sign "(" :: vs)) := by
  have hbody := (h.take (s := .sign "(") (t := .sign "(") (by decide)).expand (r := body)
    (a := [.sign "(", .rule Rule.column, .rule moreColumns, .sign ")", .rule options])
    (Definitions.body definitions)
  have hend : ofSchema.chooseAt (.sign "(" :: vs) = some [] := Definitions.ofSchema definitions
  have hname := accepts_tableName hnames hend hbody
  have hdefinition := (((hname.take (s := .word "exists") (t := .word "EXISTS") (by decide)).take
    (s := .word "not") (t := .word "NOT") (by decide)).take (s := .word "if") (t := .word "IF")
    (by decide)).expand (r := definition) (a := [.word "if", .word "not", .word "exists",
      .anyName, .rule ofSchema, .rule body]) (Definitions.definition definitions)
  have htable := (hdefinition.take (s := .word "table") (t := .word "TABLE") (by decide)).expand
    (r := temporary) (a := []) (Definitions.temporary definitions)
  have hcommand := (htable.take (s := .word "create") (t := .word "CREATE") (by decide)).expand
    (r := command) (a := [.word "create", .rule temporary, .word "table", .rule definition])
    (Definitions.create definitions)
  exact hcommand.mono (by omega)

/-- The definition of a table is recognised exactly if it has a column. -/
theorem recognise_makesTable {sql : String} {d : Store.TableDefinition}
    (h : MakesTable sql us d) :
    if d.columns = [] then Rejected (recognise (Sql.tokens sql))
    else Accepted (recognise (Sql.tokens sql)) := by
  obtain ⟨⟨database, hnames, -⟩, vs, hcolumns, hsql⟩ := h
  rw [hsql]
  cases hcs : d.columns with
  | nil =>
    rw [hcs] at hcolumns
    cases hcolumns
    -- Where the first column is expected, there is the parenthesis that closes them.
    have hclose : Follows Rejected 1 [.rule Rule.column, .rule moreColumns, .sign ")",
        .rule options] [.sign ")"] := by
      intro fuel taken hk
      obtain ⟨n, rfl⟩ : ∃ n, fuel = n + 1 := ⟨fuel - 1, by omega⟩
      exact ⟨taken, by rw [follow, Definitions.column_close definitions]⟩
    rw [if_pos rfl]
    refine recognise_of_follows (follows_definition hnames hclose) ?_
    simp only [List.length_cons, List.length_append]
    omega
  | cons c cs =>
    rw [hcs] at hcolumns
    have hoptions := accepts_nil.expand (r := options) (a := []) (chooseEnd_eq _ (by decide))
    rw [if_neg (List.cons_ne_nil _ _)]
    refine recognise_of_follows
      (follows_definition hnames (accepts_columnDefinitions hcolumns hoptions)) ?_
    simp only [List.length_cons, List.length_append]
    omega

/-! ## Tables that are dropped, records that are counted -/

theorem recognise_dropsTable {sql name : String} (h : DropsTable sql name) :
    Accepted (recognise (Sql.tokens sql)) := by
  obtain ⟨us, ⟨database, hnames, -⟩, hsql⟩ := h
  have hend : ofSchema.chooseAt [] = some [] := chooseEnd_eq ofSchema (by decide)
  have hname := accepts_tableName hnames hend accepts_nil
  have hpresent := ((hname.take (s := .word "exists") (t := .word "EXISTS") (by decide)).take
    (s := .word "if") (t := .word "IF") (by decide)).expand (r := ifPresent)
    (a := [.word "if", .word "exists"]) (Definitions.ifPresent definitions)
  have hcommand := ((hpresent.take (s := .word "table") (t := .word "TABLE") (by decide)).take
    (s := .word "drop") (t := .word "DROP") (by decide)).expand (r := command)
    (a := [.word "drop", .word "table", .rule ifPresent, .anyName, .rule ofSchema])
    (Definitions.drop definitions)
  rw [List.append_nil] at hcommand
  rw [hsql]
  refine recognise_of_follows hcommand ?_
  simp only [List.length_cons]
  omega

theorem recognise_countsRecords {sql name : String} (h : CountsRecords sql name) :
    Accepted (recognise (Sql.tokens sql)) := by
  obtain ⟨us, ⟨database, hnames, -⟩, hsql⟩ := h
  have hend : Follows Accepted (1 + 6)
      ([condition, grouping, having, order, limit, compound].map .rule ++ []) [] :=
    accepts_nil.pass [condition, grouping, having, order, limit, compound]
      fun r hr => chooseEnd_eq r (by revert r; decide)
  have hendsTable : EndsTable [] := fun r hr => chooseEnd_eq r (by revert r; decide)
  have horigin := accepts_table hnames hendsTable hend
  have hitem := ((horigin.pass [called, Rule.tail .wide, givenName, moreItems]
    (Counts.before_from counts)).take (s := .sign ")") (t := .sign ")") (by decide)).take
    (s := .sign "*") (t := .sign "*") (by decide)
  have hcall := ((hitem.expand (r := callArguments) (a := [.sign "*"])
    (Counts.callArguments counts)).take (s := .sign "(") (t := .sign "(") (by decide)).expand
    (r := Rule.itemName) (a := [.sign "(", .rule callArguments, .sign ")", .rule called,
      .rule (Rule.tail .wide), .rule givenName]) (Counts.itemName counts)
  have hitems := ((hcall.take (s := .name) (t := .word "COUNT") (by decide)).expand
    (r := item) (a := [.name, .rule Rule.itemName]) (Counts.item counts)).expand (r := items)
    (a := [.rule item, .rule moreItems]) (Counts.items counts)
  have hselect := (hitems.expand (r := distinction) (a := []) (Counts.distinction counts)).take
    (s := .word "select") (t := .word "SELECT") (by decide)
  have hcommand := ((hselect.expand (r := core) (a := [.word "select", .rule distinction,
    .rule items, .rule origin, .rule condition, .rule grouping, .rule having, .rule order,
    .rule limit]) (Choices.core chosen)).expand (r := selection)
    (a := [.rule core, .rule compound]) (Choices.selection chosen)).expand (r := command)
    (a := [.rule selection]) (Choices.command chosen)
  rw [List.append_nil] at hcommand
  rw [hsql]
  refine recognise_of_follows hcommand ?_
  simp only [List.length_cons, List.length_nil]
  omega

/-! ## Records that are inserted -/

/-- Names with commas between them are accepted, up to the parenthesis that closes them. -/
theorem accepts_columnList {c : String} {cs : List String} (hcs : Listed IsNameToken us (c :: cs))
    (h : Follows p k e ts) :
    Follows p (k + 6 * us.length) (.rule names :: .sign ")" :: e) (us ++ .sign ")" :: ts) := by
  -- After the first name, the others come each after a comma.
  have hmore (cs : List String) : ∀ {c us}, Listed IsNameToken us (c :: cs) →
      Follows p (k + 1 + 4 * us.length) (.anyName :: .rule moreNames :: .sign ")" :: e)
        (us ++ .sign ")" :: ts) := by
    have hclose := (h.take (s := .sign ")") (t := .sign ")") (by decide)).expand
      (r := moreNames) (a := []) (Insertions.moreNames_close insertions)
    induction cs with
    | nil =>
      rintro c us (_ | ⟨t, rfl, ht⟩)
      exact (hclose.take (s := .anyName) (fitToken_anyName ht)).mono
        (by simp only [List.length_singleton]; omega)
    | cons c' cs ih =>
      rintro c us (_ | _ | ⟨⟨t, rfl, ht⟩, hrest⟩)
      have hcomma := ((ih hrest).take (s := .sign ",") (t := .sign ",") (by decide)).expand
        (r := moreNames) (a := [.sign ",", .anyName, .rule moreNames])
        (Insertions.moreNames_comma insertions)
      refine (hcomma.take (s := .anyName) (fitToken_anyName ht)).mono ?_
      simp only [List.length_append, List.length_cons, List.length_nil]
      omega
  have hfirst : names.chooseAt (us ++ .sign ")" :: ts) = some [.anyName, .rule moreNames] := by
    cases hcs with
    | single h => obtain ⟨t, rfl, ht⟩ := h; exact choose_name rfl ht
    | cons h => obtain ⟨t, rfl, ht⟩ := h; exact choose_name rfl ht
  have hlength : 1 ≤ us.length := by
    cases hcs with
    | single h => obtain ⟨t, rfl, ht⟩ := h; simp
    | cons h => obtain ⟨t, rfl, ht⟩ := h; simp
  exact ((hmore cs hcs).expand (r := names) (a := [.anyName, .rule moreNames]) hfirst).mono
    (by omega)

/-- Parameters with commas between them are accepted as expressions, up to the parenthesis
    that closes them. -/
theorem accepts_values {name : String} {names : List String}
    (hnames : Listed IsParameterToken us (name :: names)) (h : Follows p k e ts) :
    Follows p (k + 7 * us.length) (.rule (expr .wide) :: .rule moreExprs :: .sign ")" :: e)
      (us ++ .sign ")" :: ts) := by
  induction names generalizing name us with
  | nil =>
    obtain _ | ⟨⟨rfl, hn⟩⟩ := hnames
    refine (accepts_parameter hn h.close).mono ?_
    simp only [List.length_singleton]
    omega
  | cons name' names ih =>
    obtain _ | _ | ⟨⟨rfl, hn⟩, hrest⟩ := hnames
    have hcomma := (((ih hrest).take (s := .sign ",") (t := .sign ",") (by decide)).expand
      (r := moreExprs) (a := [.sign ",", .rule (expr .wide), .rule moreExprs])
      (Insertions.moreExprs insertions)).expand (r := Rule.tail .wide) (a := [])
      (Insertions.tail insertions)
    refine (accepts_parameter hn hcomma).mono ?_
    simp only [List.length_append, List.length_cons, List.length_nil]
    omega

/-- A record with a column and a parameter is recognised. -/
theorem recognise_insertsRecord {sql name : String} {columns parameters : List String}
    (h : InsertsRecord sql name columns parameters) (hcolumns : columns ≠ [])
    (hparameters : parameters ≠ []) : Accepted (recognise (Sql.tokens sql)) := by
  obtain ⟨us, vs, ws, ⟨database, hnames, -⟩, hcs, hps, hsql⟩ := h
  obtain ⟨c, cs, rfl⟩ := List.exists_cons_of_ne_nil hcolumns
  obtain ⟨q, qs, rfl⟩ := List.exists_cons_of_ne_nil hparameters
  have hrows : Follows Accepted (1 + 2) ([moreRows, compound].map .rule ++ []) [] :=
    accepts_nil.pass [moreRows, compound] fun r hr => chooseEnd_eq r (by revert r; decide)
  have hvalues := accepts_values hps hrows
  obtain ⟨hq, ws, rfl⟩ : q.toList.head? = some '@' ∧ ∃ ws', ws = .parameter q :: ws' := by
    cases hps with
    | single h => obtain ⟨rfl, hq⟩ := h; exact ⟨hq, _, rfl⟩
    | cons h => obtain ⟨rfl, hq⟩ := h; exact ⟨hq, _, rfl⟩
  have hexprs := (hvalues.expand (r := someExprs) (a := [.rule (expr .wide), .rule moreExprs])
    ((Choices.someExprs chosen _ (by decide)).chooseAt_of_like (like_parameter hq) _)).take
    (s := .sign "(") (t := .sign "(") (by decide)
  have hselection := ((hexprs.take (s := .word "values") (t := .word "VALUES") (by decide)).expand
    (r := core) (a := [.word "values", .sign "(", .rule someExprs, .sign ")", .rule moreRows])
    (Insertions.core insertions)).expand (r := selection) (a := [.rule core, .rule compound])
    (Insertions.selection insertions)
  have hsource := hselection.expand (r := source) (a := [.rule selection])
    (Insertions.source insertions)
  have hlist := ((accepts_columnList hcs hsource).take (s := .sign "(") (t := .sign "(")
    (by decide)).expand (r := columnList) (a := [.sign "(", .rule names, .sign ")"])
    (Insertions.columnList insertions)
  have hend : ofSchema.chooseAt (.sign "(" :: (vs ++ .sign ")" :: .word "VALUES" :: .sign "(" ::
      (.parameter q :: ws ++ [.sign ")"]))) = some [] := Definitions.ofSchema definitions
  have hname := accepts_tableName hnames hend
    (hlist.expand (r := renamed) (a := []) (Insertions.renamed insertions))
  have hfirst (rest : List Token) :
      target.chooseAt (us ++ rest) = some [.anyName, .rule ofSchema, .rule renamed] := by
    cases hnames with
    | plain ht => exact choose_name rfl ht
    | within ht => exact choose_name rfl ht
  have hinto := (hname.expand (r := target) (a := [.anyName, .rule ofSchema, .rule renamed])
    (hfirst _)).take (s := .word "into") (t := .word "INTO") (by decide)
  have hcommand := ((hinto.expand (r := orResolution) (a := [])
    (Insertions.orResolution insertions)).take (s := .word "insert") (t := .word "INSERT")
      (by decide)).expand (r := command)
    (a := [.word "insert", .rule orResolution, .word "into", .rule target, .rule columnList,
      .rule source]) (Insertions.insert insertions)
  rw [hsql]
  refine recognise_of_follows hcommand ?_
  simp only [List.length_cons, List.length_append]
  omega

end EntityQuery.Sql
