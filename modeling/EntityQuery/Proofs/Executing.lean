import EntityQuery.Proofs.Databases
import EntityQuery.Proofs.Recognizing

/-!
# Statements about a table are carried out

What the statements that drop a table, insert a record into it and count its records do to a
database in memory, read from their forms (`Sql.DropsTable`, `Sql.InsertsRecord`,
`Sql.CountsRecords`):

* `execute_dropsTable`: the table of the name is dropped;
* `executeWith_insertsRecord`: a record is refused, or another table is put in place of its table;
* `number_countsRecords`: the records of a table are counted, in whatever order they are visited.
-/

namespace EntityQuery

namespace Sql

/-! ## Items -/

/-- A parameter is read as an item where nothing goes on with it. -/
theorem Select.readItem_parameter (p : String) {rest : List Token} (hrest : Leaves rest)
    (halias : readAlias rest = some (none, rest)) :
    readItem (.parameter p :: rest) = some (.term (.parameter p) none, rest) := by
  have hparse : Term.parse (.parameter p :: rest) = some (.parameter p, rest) := by
    rw [Term.parse, Term.read]
    exact Term.readOperators_leaves hrest.operator? (by simp) _ _
  unfold readItem
  split
  · next h => cases h
  · next h =>
    cases h
    exact absurd rfl hrest.point
  · simp only [hparse, halias, Option.map_some]

/-- Parameters with commas between them are read as items, up to a parenthesis. -/
theorem Select.readItems_parameters {ps : List String} {us : List Token}
    (hps : Listed IsParameterToken us ps) (hne : ps ≠ []) {n : Nat} (hn : us.length ≤ n)
    (ts : List Token) :
    readItems n (us ++ .sign ")" :: ts) =
      some (ps.map fun p => .term (.parameter p) none, .sign ")" :: ts) := by
  induction hps generalizing n with
  | nil => exact absurd rfl hne
  | @single _ p hp =>
    obtain ⟨rfl, -⟩ := hp
    obtain ⟨n, rfl⟩ : ∃ k, n = k + 1 := ⟨n - 1, by simp at hn; omega⟩
    have hleaves : Leaves (.sign ")" :: ts) := leaves_cons (by decide) (by decide)
    have hitem := readItem_parameter p hleaves rfl
    rw [List.cons_append, List.nil_append, readItems, hitem]
    rfl
  | @cons _ us p p' ps hp _ ih =>
    obtain ⟨rfl, -⟩ := hp
    obtain ⟨n, rfl⟩ : ∃ k, n = k + 1 := ⟨n - 1, by simp at hn; omega⟩
    have hleaves : Leaves (.sign "," :: (us ++ .sign ")" :: ts)) :=
      leaves_cons (by decide) (by decide)
    have hitem := readItem_parameter p hleaves rfl
    have ih := ih (List.cons_ne_nil _ _) (n := n) (by simp at hn; omega)
    rw [List.append_assoc, List.cons_append, List.cons_append, List.nil_append]
    simp only [readItems, hitem, ih, List.map_cons]

/-- Without a parameter no items are read. -/
theorem Select.readItems_close (n : Nat) : readItems n [.sign ")"] = none := by
  have hitem : readItem [.sign ")"] = none := by decide
  cases n with
  | zero => rfl
  | succ n => rw [readItems, hitem]

theorem Listed.parameter_mem {ps : List String} {us : List Token}
    (h : Listed IsParameterToken us ps) {p : String} (hp : p ∈ ps) : .parameter p ∈ us := by
  induction h with
  | nil => cases hp
  | single hq =>
    obtain ⟨rfl, -⟩ := hq
    rw [List.mem_singleton.1 hp]
    exact List.mem_cons_self
  | cons hq _ ih =>
    obtain ⟨rfl, -⟩ := hq
    obtain rfl | hp := List.mem_cons.1 hp
    · exact List.mem_cons_self
    · exact List.mem_append_right _ (List.mem_cons_of_mem _ (ih hp))

/-- The names among listed ones are these. -/
theorem Listed.filterMap_anyName? {names : List String} {us : List Token}
    (h : Listed IsNameToken us names) : us.filterMap Token.anyName? = names := by
  induction h with
  | nil => rfl
  | single hn =>
    obtain ⟨t, rfl, ht⟩ := hn
    simp [ht]
  | @cons _ us _ _ _ hn _ ih =>
    obtain ⟨t, rfl, ht⟩ := hn
    have hcomma : (Token.sign ",").anyName? = none := rfl
    simp [ht, hcomma, ih]

end Sql

namespace Store.Database

open Sql (Listed IsParameterToken IsNameToken)

variable {sql name : String} {db : Database} {t t' : Table}

/-! ## Tables that are dropped -/

/-- A table is dropped by its name. -/
theorem execute_dropsTable (h : Sql.DropsTable sql name) : ∃ n : Sql.TableName,
    n.name = name ∧ isMain n.database = true ∧ ∀ db : Database, db.execute sql =
      match db.drop n with
      | .error f => (.error f, db)
      | .ok after => (.ok (), after) := by
  obtain ⟨m, hm⟩ := Sql.recognise_dropsTable h
  obtain ⟨ts, hname, hsql⟩ := h
  have hsemicolon : .sign ";" ∉ ts := hname.sign_not_mem (by decide)
  obtain ⟨database, hnames, hmain⟩ := hname
  have hwords : ∀ w ∈ [("drop", "DROP"), ("table", "TABLE"), ("if", "IF"), ("exists", "EXISTS")],
      (Sql.Token.word w.2).isWord w.1 = true := by decide
  have hcreate : (Sql.Token.word "DROP").isWord "create" = false := by decide
  simp only [List.forall_mem_cons] at hwords
  have htable : Sql.Select.readTableName (ts ++ []) = some (⟨database, name⟩, []) :=
    Sql.Select.readTableName_append hnames nofun
  rw [List.append_nil] at htable
  have htokens : (Sql.lexemes sql).map (·.token) = Sql.tokens sql := rfl
  refine ⟨⟨database, name⟩, rfl, hmain, fun db => ?_⟩
  rw [execute_eq (by rw [hsql]; exact List.cons_ne_nil _ _) (by simp [hsql, hsemicolon])]
  have hexecute : db.executeOne sql (Sql.lexemes sql) [] = db.drop ⟨database, name⟩ := by
    rw [executeOne, htokens, hm, hsql]
    simp [Definition.startsWith, hcreate, hwords, dropTokens, htable]
  cases hdrop : db.drop ⟨database, name⟩ <;> simp only [hexecute, hdrop]

/-! ## Records that are counted -/

/-- Without a condition there is no search, and nothing is visited part by part. -/
theorem ways_nil (o : Outlook) (fuel : Nat) :
    o.keySearches [] [] = [] ∧ o.unions fuel [] [] = [] := by
  constructor
  · rw [Outlook.keySearches, List.flatMap_eq_nil_iff]
    intro place _
    simp [Outlook.searchesBy, Outlook.boundsAt]
  · cases fuel <;> rfl

/-- Without a condition, the records of a table are visited once, in some order. -/
theorem exists_passes_nil (o : Outlook) (fuel : Nat) :
    ∃ order, o.passes fuel [] = [⟨[], order⟩] := by
  cases fuel with
  | zero => exact ⟨none, rfl⟩
  | succ n =>
    obtain ⟨hsearches, hunions⟩ := ways_nil o (Outlook.depth [])
    -- What is left are the scans of the table and of its indices, of which one is chosen.
    have hchoose (k : Nat) : o.choose [] ≠ .union k := by
      rw [Outlook.choose, hsearches, hunions, List.nil_append, List.append_nil]
      refine List.foldlRecOn (motive := fun best : Path × Cost => best.1 ≠ .union k) _ _ nofun ?_
      intro best hbest w hw
      obtain ⟨i, -, rfl⟩ := List.mem_map.1 hw
      dsimp only
      split
      · exact nofun
      · exact hbest
    rw [Outlook.passes]
    split
    · exact ⟨none, rfl⟩
    · exact ⟨none, rfl⟩
    · next i _ => exact ⟨some i, rfl⟩
    · next k hk => exact absurd hk (hchoose k)

/-- In a table without an index, they are visited in the order in which they are stored. -/
theorem passes_nil_of_unindexed {o : Outlook} (h : ∀ c ∈ o.table.columns, c.key ≠ .unique)
    (fuel : Nat) : o.passes fuel [] = [⟨[], none⟩] := by
  cases fuel with
  | zero => rfl
  | succ n =>
    obtain ⟨hsearches, hunions⟩ := ways_nil o (Outlook.depth [])
    have hindexed : o.indexed = [] := by
      rw [Outlook.indexed, List.map_eq_nil_iff, List.filter_eq_nil_iff]
      rintro ⟨c, i⟩ hc
      simpa using h c (List.fst_mem_of_mem_zipIdx hc)
    have hchoose : o.choose [] = .scan := by
      rw [Outlook.choose, hsearches, hunions, Outlook.indexScans, hindexed]
      rfl
    rw [Outlook.passes, hchoose]

/-- Records that are visited once are all there. -/
theorem length_visit_once (order : Option Nat) (holds : Record → Sql.Term → Bool) :
    (t.visit holds [⟨[], order⟩]).length = t.records.length := by
  have hvisit : t.visit holds [⟨[], order⟩] = t.ordered order := by
    simp [Table.visit]
  rw [hvisit]
  cases order with
  | none => rfl
  | some i => exact List.length_mergeSort t.records

/-- The selection of all records of a table. -/
def everything (n : Sql.TableName) : Sql.Select := ⟨[.all none], some ⟨n, none⟩, none, none⟩

/-- All records of a table make a row each. -/
theorem length_run_everything (n : Sql.TableName) (texts : List String)
    (ps : List (String × Datum)) :
    ((Prepared.mk (everything n) (some t) texts).run ps).length = t.records.length := by
  generalize hp : Prepared.mk (everything n) (some t) texts = p
  have hconditions : p.conditions = [] := by rw [← hp]; rfl
  have hlength : (p.environments ps).length = t.records.length := by
    obtain ⟨order, hpasses⟩ : ∃ order, p.passes t = [⟨[], order⟩] := by
      rw [Prepared.passes, hconditions]
      exact exists_passes_nil _ _
    have htable : p.table = some t := by rw [← hp]
    simp only [Prepared.environments, htable, List.length_map, Prepared.visited, hpasses]
    exact length_visit_once _ _
  have hcondition : p.select.condition = none := by rw [← hp]; rfl
  have hlimit : p.select.limit = none := by rw [← hp]; rfl
  have hkept : ((p.environments ps).filter fun _ => true) = p.environments ps :=
    List.filter_eq_self.2 fun _ _ => rfl
  simp only [Prepared.run, hcondition, hlimit, Option.all_none, List.length_map, hkept, hlength]

/-- The records of a table are counted. -/
theorem number_countsRecords (h : Sql.CountsRecords sql name) (hdb : db.entry name = .table t) :
    db.number sql = .ok t.records.length := by
  obtain ⟨m, hm⟩ := Sql.recognise_countsRecords h
  obtain ⟨ts, ⟨database, hnames, hmain⟩, hsql⟩ := h
  have hsyntax : checkSyntax sql = .ok () := by rw [checkSyntax, hm]
  have hselect : Sql.Select.ofTokens? (.word "SELECT" :: .sign "*" :: (Sql.tokens sql).drop 5) =
      some (everything ⟨database, name⟩) := by
    have hfrom : Sql.Token.isWord "from" (.word "FROM") = true := by decide
    have hsource : Sql.Select.readSource (ts ++ []) = some (⟨⟨database, name⟩, none⟩, []) :=
      Sql.Select.readSource_table hnames ⟨Sql.leaves_nil.point, rfl⟩
    rw [List.append_nil] at hsource
    rw [hsql]
    refine Sql.Select.ofTokens?_eq_some_iff.2 ⟨by decide, .word "FROM" :: ts, [], [], [],
      rfl, ?_, rfl, rfl, rfl⟩
    simp only [Sql.Select.readAfter, hfrom, if_true, hsource, Option.map_some]
    rfl
  have hprepared : db.resolve sql (everything ⟨database, name⟩) =
      .ok ⟨everything ⟨database, name⟩, some t, textsOf sql⟩ := by
    have hfound : db.table? ⟨database, name⟩ = some t := table?_of_entry hmain hdb
    simp only [resolve_eq, everything, found, hfound]
    rfl
  simp only [number, hsyntax, hselect, hprepared]
  rw [← length_run_everything (t := t) ⟨database, name⟩ (textsOf sql) []]
  rfl

/-! ## Records that are inserted -/

/-- A datum is that of its parameter. -/
theorem map_parameter_zip {ps : List String} {data : List Datum} (hps : ps.Nodup)
    (hlength : data.length = ps.length) : ps.map (Prepared.parameter (ps.zip data)) = data := by
  refine List.ext_getElem (by rw [List.length_map, hlength]) fun i hi hi' => ?_
  have hi : i < ps.length := by rwa [List.length_map] at hi
  have hmem : (ps[i], data[i]) ∈ (ps.zip data).reverse := by
    rw [List.mem_reverse, List.mem_iff_getElem]
    exact ⟨i, by rw [List.length_zip]; omega, List.getElem_zip⟩
  have hfind : (ps.zip data).reverse.find? (·.1 == ps[i]) = some (ps[i], data[i]) := by
    refine find?_of_unique hmem (beq_self_eq_true _) fun e he hname => ?_
    obtain ⟨j, hj, rfl⟩ := List.getElem_of_mem (List.mem_reverse.1 he)
    rw [List.getElem_zip] at hname ⊢
    have hij : j = i := (List.getElem_inj hps).1 (beq_iff_eq.1 hname)
    subst hij
    rfl
  rw [List.getElem_map, Prepared.parameter, hfind]

/-- What inserting a record comes to: the table that takes the place of its table, or why it is
    refused. -/
def replacement (columns : List String) (data : List Datum) (n : Sql.TableName) (t : Table) :
    Except Fault Table :=
  match checkColumns n t columns with
  | .error f => .error f
  | .ok () => t.insert (columns.zip data)

variable {columns parameters : List String} {data : List Datum}

/-- A list of values is read as the parameters in it. -/
theorem readRows_parameters {us : List Sql.Token} (hps : Listed IsParameterToken us parameters) :
    readRows (us.length + 3) (.sign "(" :: (us ++ [.sign ")"])) =
      if parameters = [] then ([], .sign "(" :: (us ++ [.sign ")"]))
      else ([parameters.map .parameter], []) := by
  split
  · next h =>
    subst h
    cases hps
    rw [readRows]
    simp only [List.nil_append, Sql.Select.readItems_close]
  · next hne =>
    have hlength : us.length ≤ (us ++ [Sql.Token.sign ")"]).length + 1 := by
      rw [List.length_append]
      omega
    have hterms : (parameters.map fun p => Sql.SelectItem.term (.parameter p) none).filterMap
        (·.term?) = parameters.map .parameter := by
      rw [List.filterMap_map]
      exact congrFun List.filterMap_eq_map parameters
    rw [readRows, Sql.Select.readItems_parameters hps hne hlength []]
    simp [hterms]

/-- The names of columns in parentheses are read. -/
theorem readColumns_names {us : List Sql.Token} (hcolumns : Listed IsNameToken us columns)
    (ts : List Sql.Token) :
    readColumns (.sign "(" :: (us ++ .sign ")" :: ts)) = (some columns, ts) := by
  have hclose : .sign ")" ∉ us := hcolumns.sign_not_mem (by decide) fun _ _ h hmem => by
    obtain ⟨t, rfl, ht⟩ := h
    exact Sql.sign_ne_of_anyName? ht (List.mem_singleton.1 hmem).symm
  have hus : ∀ t ∈ us, (t != .sign ")") = true :=
    fun t ht => bne_iff_ne.2 fun h => hclose (h ▸ ht)
  have htake : (us ++ .sign ")" :: ts).takeWhile (· != .sign ")") = us := by
    rw [List.takeWhile_append_of_pos hus]
    simp
  have hdrop : (us ++ .sign ")" :: ts).dropWhile (· != .sign ")") = .sign ")" :: ts := by
    rw [List.dropWhile_append_of_pos hus]
    simp
  simp only [readColumns, htake, hdrop, hcolumns.filterMap_anyName?]
  rfl

/-- A row of parameters is inserted with their data. -/
theorem insertRow_parameters {n : Sql.TableName} (hmain : isMain n.database = true)
    (hdb : db.entry n.name = .table t) (hps : parameters.Nodup)
    (hcolumns : columns.length = parameters.length) (hdata : data.length = parameters.length) :
    db.insertRow n (some columns) (parameters.zip data) (parameters.map .parameter) =
      (replacement columns data n t).map fun t' => db.replace t' := by
  have hchanged := changed_of_entry hmain hdb
  have hvalues : (parameters.map Sql.Term.parameter).map (valueOf (parameters.zip data)) =
      data := by
    rw [List.map_map]
    exact map_parameter_zip hps hdata
  have hnames : (columns.zip data).map (·.1) = columns :=
    List.map_fst_zip (by rw [hcolumns, hdata])
  simp only [insertRow, insert, hchanged, hvalues, hnames, replacement, Option.getD_some,
    List.length_map, hcolumns, bind, Except.bind, ne_eq, not_true_eq_false, if_false]
  cases hcheck : checkColumns n t columns with
  | error f => rfl
  | ok =>
    dsimp only
    cases t.insert (columns.zip data) <;> rfl

/-- The statement of a record inserts a row of its parameters, if it has any. -/
theorem insertTokens_parameters {ts us vs : List Sql.Token} {n : Sql.TableName}
    (hts : Sql.NamesTable ts n) (hus : Listed IsNameToken us columns)
    (hvs : Listed IsParameterToken vs parameters) (ps : List (String × Datum)) :
    db.insertTokens sql (ts ++ .sign "(" :: (us ++ .sign ")" :: .word "VALUES" :: .sign "(" ::
      (vs ++ [.sign ")"]))) ps =
        if parameters = [] then .error (.unsupported sql)
        else db.insertRow n (some columns) ps (parameters.map .parameter) := by
  have hvalues : (Sql.Token.word "VALUES").isWord "values" = true := by decide
  have htable : Sql.Select.readTableName (ts ++ .sign "(" :: (us ++ .sign ")" :: .word "VALUES" ::
      .sign "(" :: (vs ++ [.sign ")"]))) = some (n, _) :=
    Sql.Select.readTableName_append hts (by simp)
  have hlength : (.sign "(" :: (vs ++ [Sql.Token.sign ")"])).length + 1 = vs.length + 3 := by
    simp
  simp only [insertTokens, htable, readColumns_names hus, hvalues, hlength,
    readRows_parameters hvs]
  by_cases hne : parameters = []
  · simp only [if_pos hne]
  · simp only [if_neg hne, Sql.Select.atEnd, if_true, List.foldlM_cons, List.foldlM_nil,
      bind_pure]

/-- A statement that is recognised as that of a record is carried out as such. -/
theorem executeOne_insertsRecord (h : Sql.InsertsRecord sql name columns parameters) :
    ∃ n : Sql.TableName, n.name = name ∧ isMain n.database = true ∧
      ∀ (db : Database) (ps : List (String × Datum)),
        db.executeOne sql (Sql.lexemes sql) ps =
          match Sql.recognise (Sql.tokens sql) with
          | .error n => .error (syntaxFault sql n)
          | .ok _ =>
            if parameters = [] then .error (.unsupported sql)
            else db.insertRow n (some columns) ps (parameters.map .parameter) := by
  obtain ⟨us, vs, ws, ⟨database, hnames, hmain⟩, hvs, hws, hsql⟩ := h
  have hword : (Sql.Token.word "INSERT").isWord "create" = false ∧
      (Sql.Token.word "INSERT").isWord "drop" = false := by decide
  have hwords : (Sql.Token.word "INSERT").isWord "insert" = true ∧
      (Sql.Token.word "INTO").isWord "into" = true := by decide
  have htokens : (Sql.lexemes sql).map (·.token) = Sql.tokens sql := rfl
  have hcreate : Definition.startsWith ["create"] (Sql.tokens sql) = false := by
    simp [Definition.startsWith, hsql, hword]
  have hdrop : Definition.startsWith ["drop", "table"] (Sql.tokens sql) = false := by
    simp [Definition.startsWith, hsql, hword]
  have hinsert : Definition.startsWith ["insert", "into"] (Sql.tokens sql) = true := by
    simp [Definition.startsWith, hsql, hwords]
  refine ⟨⟨database, name⟩, rfl, hmain, fun db ps => ?_⟩
  simp only [executeOne, htokens, hcreate, hdrop, hinsert, Bool.false_eq_true, if_false, if_true]
  cases Sql.recognise (Sql.tokens sql) with
  | error n => rfl
  | ok =>
    rw [hsql]
    exact insertTokens_parameters hnames hvs hws ps

/-- A record without a column is refused for one reason. -/
theorem exists_executeWith_nil (h : Sql.InsertsRecord sql name columns []) :
    ∃ f, ∀ db : Database, db.executeWith sql [] = .error f := by
  obtain ⟨n, -, -, hexecute⟩ := executeOne_insertsRecord h
  cases hrecognise : Sql.recognise (Sql.tokens sql) with
  | error n => exact ⟨_, fun db => by simp only [executeWith, hexecute, hrecognise]; rfl⟩
  | ok n => exact ⟨_, fun db => by simp only [executeWith, hexecute, hrecognise]; rfl⟩

/-- A record with a column is refused by its table, or another one is put in place of it. -/
theorem executeWith_insertsRecord (h : Sql.InsertsRecord sql name columns parameters)
    (hne : columns ≠ []) (hps : parameters.Nodup) (hcolumns : columns.length = parameters.length)
    (hdata : data.length = parameters.length) :
    ∃ n : Sql.TableName, ∀ (db : Database) (t : Table), db.entry name = .table t →
      db.executeWith sql (parameters.zip data) =
        (replacement columns data n t).map fun t' => db.replace t' := by
  have hne' : parameters ≠ [] := by
    rintro rfl
    exact hne (List.length_eq_zero_iff.1 hcolumns)
  obtain ⟨m, hm⟩ := Sql.recognise_insertsRecord h hne hne'
  obtain ⟨n, hname, hmain, hexecute⟩ := executeOne_insertsRecord h
  simp only [hm, if_neg hne'] at hexecute
  -- All parameters occur in the statement.
  have hfind : ((parameters.zip data).find? fun p => !(Sql.tokens sql).contains (.parameter p.1)) =
      none := by
    obtain ⟨us, vs, ws, -, -, hws, hsql⟩ := h
    rw [List.find?_eq_none]
    intro e he
    have hmem : .parameter e.1 ∈ ws := hws.parameter_mem (List.of_mem_zip he).1
    simp [hsql, hmem]
  refine ⟨n, fun db t hdb => ?_⟩
  have hrow := insertRow_parameters hmain (hname ▸ hdb) hps hcolumns hdata
  simp only [executeWith, hexecute, hrow, hfind]
  cases replacement columns data n t <;> rfl

end Store.Database

end EntityQuery
