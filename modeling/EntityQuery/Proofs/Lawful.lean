import EntityQuery.Proofs.Answering
import EntityQuery.Proofs.Exactness
import EntityQuery.Proofs.Executing
import EntityQuery.Proofs.Making

/-!
# Databases in memory are lawful engines

The engine of databases in memory obeys the laws of engines (`Database.lawful`). What it does
with a definition is in `EntityQuery.Proofs.Making`, and with a statement about a table in
`EntityQuery.Proofs.Executing`; here a record that is inserted is followed through a
transaction, and a statement that asks for rows through its preparation.
-/

namespace EntityQuery.Store

/-! ## Data -/

/-- A column of floating-point numbers gives back an equal number. -/
theorem ColumnType.exists_store_real {x : Binary64} (hx : x.isNaN = false) :
    ∃ y, real.store (.real x) = .real y ∧ y.equals x = true := by
  have hself : x.equals x = true := by rw [Binary64.equals_self, hx]; rfl
  have hstore : real.store (.real x) = (Datum.toWhole (.real x)).toReal := rfl
  rw [hstore, Datum.toWhole]
  cases h : x.toInt? with
  | none => exact ⟨x, rfl, hself⟩
  | some n =>
    dsimp only
    split
    · next hn =>
      -- The integer has its place among those of 64 bits, and is read as it was.
      have hlow : -2 ^ 63 ≤ n := Int.le_of_lt hn.1
      have hhigh : n < 2 ^ 63 := Int.lt_trans hn.2 (by decide)
      rw [Datum.toReal, Int64.toInt_ofInt_of_le hlow hhigh]
      exact ⟨_, rfl, Binary64.equals_ofInt h⟩
    · exact ⟨x, rfl, hself⟩

theorem Datum.truth_ofTruth (b : Option Bool) : (Datum.ofTruth b).truth = b := by
  cases b with
  | none => rfl
  | some b => cases b <;> rfl

/-! ## Records that are inserted -/

namespace Table

variable {t t' : Table} {given : List (String × Datum)}

/-- One record more leaves the definition of a table. -/
theorem definition_extend {store : ColumnType → Datum → Datum}
    (h : t.extend store given = .ok t') : t'.definition = t.definition := by
  obtain ⟨n, rfl, -⟩ := extend_eq_ok h
  rw [placeNumbered]
  split <;> rfl

/-- A record that is inserted extends the table. -/
theorem extend_of_insert (h : t.insert given = .ok t') :
    t.extend ColumnType.store given = .ok t' := by
  rw [insert] at h
  split at h
  · cases h
  · next after hextend =>
    split at h
    · cases h
    · cases h
      exact hextend

/-- In a table without a unique key, whatever extends it is inserted. -/
theorem insert_of_extend (hunique : ∀ c ∈ t.columns, c.key ≠ .unique)
    (h : t.extend ColumnType.store given = .ok t') : t.insert given = .ok t' := by
  have hrepeated (data : List Datum) : t.repeated? data = none := by
    rw [repeated?, Option.map_eq_none_iff, List.find?_eq_none]
    rintro ⟨c, i⟩ hc
    have hkey : (c.key == .unique) = false :=
      beq_eq_false_iff_ne.2 (hunique c (List.fst_mem_of_mem_zipIdx hc))
    simp [hkey]
  simp only [insert, h, hrepeated]

end Table

namespace Database

variable {sql name : String} {n : Sql.TableName} {t t' : Table} {columns parameters : List String}
  {data : List Datum}

theorem checkColumns_eq_ok_iff :
    checkColumns n t columns = .ok () ↔ ∀ c ∈ columns, (t.place? c).isSome = true := by
  rw [checkColumns]
  cases hfind : columns.find? fun c => (t.place? c).isNone with
  | none =>
    refine iff_of_true rfl fun c hc => ?_
    rw [Option.isSome_iff_ne_none]
    simpa using List.find?_eq_none.1 hfind c hc
  | some c =>
    have hnone : (t.place? c).isNone = true :=
      List.find?_some (p := fun c => (t.place? c).isNone) hfind
    refine iff_of_false nofun fun h => ?_
    rw [← Option.not_isSome, h c (List.mem_of_find?_eq_some hfind)] at hnone
    cases hnone

/-- A record that takes the place of its table is one that extends it. -/
theorem replacement_eq_ok (h : replacement columns data n t = .ok t') :
    (∀ c ∈ columns, (t.place? c).isSome = true) ∧
      t.extend ColumnType.store (columns.zip data) = .ok t' := by
  rw [replacement] at h
  split at h
  · cases h
  · next hcheck => exact ⟨checkColumns_eq_ok_iff.1 hcheck, Table.extend_of_insert h⟩

/-- A record that its table refuses is refused by every transaction that the table is in, and
    one that extends the table extends it in each of them. -/
theorem rejects_or_extends (t : Table) (h : Sql.InsertsRecord sql name columns parameters)
    (hne : columns ≠ []) (hps : parameters.Nodup) (hcolumns : columns.length = parameters.length)
    (hdata : data.length = parameters.length) : ∃ n : Sql.TableName,
      match replacement columns data n t with
      | .error _ => view.Rejects sql (parameters.zip data) name t
      | .ok t' => view.Extends sql (parameters.zip data) name t t' := by
  obtain ⟨n, hexecute⟩ := executeWith_insertsRecord h hne hps hcolumns hdata
  refine ⟨n, ?_⟩
  cases hreplace : replacement columns data n t with
  | error f =>
    refine ⟨f, fun x hx => ⟨x, ?_, rfl⟩⟩
    show Pending.execute sql _ x = _
    rw [Pending.execute, hexecute _ _ hx, hreplace]
    rfl
  | ok t' =>
    have hdefinition := Table.definition_extend (replacement_eq_ok hreplace).2
    refine fun x hx => ⟨{ x with after := Database.replace t' x.after }, ?_, rfl,
      puts_replace hx hdefinition⟩
    show Pending.execute sql _ x = _
    rw [Pending.execute, hexecute _ _ hx, hreplace]
    rfl

/-- A record without a column is refused. -/
theorem rejects_nil (t : Table) (h : Sql.InsertsRecord sql name columns []) :
    view.Rejects sql [] name t := by
  obtain ⟨f, hf⟩ := exists_executeWith_nil h
  refine ⟨f, fun x _ => ⟨x, ?_, rfl⟩⟩
  show Pending.execute sql _ x = _
  rw [Pending.execute, hf]

/-! ## Statements that ask for rows -/

/-- A statement without a semicolon refers to the parameters among its tokens. -/
theorem mem_parameters_iff {db : Database} {q : Query} (hsemicolon : .sign ";" ∉ Sql.tokens sql)
    (h : db.query sql = .ok q) (p : String) :
    p ∈ q.parameters ↔ .parameter p ∈ Sql.tokens sql := by
  rw [query] at h
  split at h
  · next hempty =>
    cases h
    rw [List.isEmpty_iff.1 hempty]
    exact iff_of_false nofun nofun
  · next hempty =>
    have hne : Sql.tokens sql ≠ [] := fun h => hempty (by rw [h]; rfl)
    cases hprepare : db.prepare sql with
    | error f =>
      rw [hprepare] at h
      cases h
    | ok prepared =>
      rw [hprepare] at h
      cases h
      have hselect := select_of_prepare hne hprepare
      show p ∈ prepared.select.parameters ↔ _
      rw [Sql.Select.parameters_of_parse? hselect hsemicolon, Sql.mem_parametersOf]

variable {s : Sql.Sentence} {db : Database} {q : Query}

/-- What the statement of a sentence is, where its table is found. -/
theorem query_sentence (h : Sql.AsksTable sql s name t) :
    ∃ n : Sql.TableName, n.name = name ∧ Sql.Select.parse? sql = some (s.select n) ∧
      ∀ db : Database, db.entry name = .table t → db.query sql =
        if (s.select n).terms.any (fun u => decide (greatestDepth < u.depth)) then .error .tooDeep
        else .ok ⟨(prepared sql s n t).select.parameters, (prepared sql s n t).columnNames,
          fun ps => ((prepared sql s n t).run ps).map .ok⟩ := by
  obtain ⟨database, hnames, hmain⟩ := h.table
  have hne : (Sql.tokens sql).isEmpty = false := by rw [h.tokens]; rfl
  refine ⟨⟨database, name⟩, rfl, parse?_sentence h hnames, fun db hdb => ?_⟩
  have hfound : db.table? ⟨database, name⟩ = some t := table?_of_entry hmain hdb
  rw [query, hne, prepare_eq_prepared h hnames hfound, if_neg Bool.false_ne_true]
  split <;> rfl

/-- A statement that is within the limit of depth is prepared. -/
theorem query_of_admits (h : Sql.AsksTable sql s name t) {db : Database}
    (hdb : db.entry name = .table t) (hadmits : view.Admits sql data) :
    ∃ q, db.query sql = .ok q := by
  obtain ⟨n, -, hparse, hquery⟩ := query_sentence h
  have hdepth : (s.select n).terms.any (fun u => decide (greatestDepth < u.depth)) = false := by
    rw [List.any_eq_false]
    intro u hu
    simpa using hadmits _ hparse u hu
  exact ⟨_, by rw [hquery db hdb, hdepth]; rfl⟩

/-- What a statement that was prepared has to do with its table. -/
theorem exists_prepared (h : Sql.AsksTable sql s name t) (hdb : db.entry name = .table t)
    (hq : db.query sql = .ok q) : ∃ n : Sql.TableName, n.name = name ∧
      Sql.Select.parse? sql = some (s.select n) ∧ q.columns = (prepared sql s n t).columnNames ∧
        q.rows = fun ps => ((prepared sql s n t).run ps).map .ok := by
  obtain ⟨n, hname, hparse, hquery⟩ := query_sentence h
  rw [hquery db hdb] at hq
  split at hq
  · cases hq
  · cases hq
    exact ⟨n, hname, hparse, rfl, rfl⟩

/-- Without a condition and an index, records are visited as they are stored. -/
theorem scans_of_unindexed (h : Sql.AsksTable sql s name t) (hs : s.condition = none)
    (hunique : ∀ c ∈ t.columns, c.key ≠ .unique) : view.Scans sql t := by
  obtain ⟨n, -, hparse, -⟩ := query_sentence h
  intro select hselect
  rw [hparse] at hselect
  cases hselect
  have hconditions : (prepared sql s n t).conditions = [] := by
    show (s.condition.map _).getD [] = []
    rw [hs]
    rfl
  show (prepared sql s n t).passes t = _
  rw [Prepared.passes, hconditions]
  exact passes_nil_of_unindexed hunique _

/-- Databases in memory are a lawful engine. -/
theorem lawful : view.Lawful where
  fresh name hreserved := by
    show entry [] name = .absent
    rw [entry_eq_absent_iff hreserved]
    rfl
  reserved db name t hreserved h := by
    rw [(entry_eq_table_iff.1 h).1] at hreserved
    cases hreserved
  make := refuses_or_makes
  makes h hne hapart hreserved hif _ :=
    (makes_or_refuses_of_columns h hne).resolve_right fun hrefuses =>
      hrefuses.2 ⟨hapart, hreserved, hif⟩
  drop {_ _ db} h hdb := by
    obtain ⟨n, rfl, hmain, hexecute⟩ := execute_dropsTable h
    obtain ⟨hdrop, habsent⟩ := drop_eq hmain hdb
    refine ⟨db.others n.name, ?_, habsent, keeps_others n.name db⟩
    show db.execute _ = _
    rw [hexecute, hdrop]
  drop_reserved {_ _ db} h hreserved hdb := by
    obtain ⟨n, rfl, hmain, hexecute⟩ := execute_dropsTable h
    obtain ⟨f, hf⟩ := drop_eq_error hmain hreserved hdb
    refine ⟨f, ?_⟩
    show db.execute _ = _
    rw [hexecute, hf]
  count := number_countsRecords
  begin db := ⟨⟨db, db⟩, rfl, rfl, rfl⟩
  commit _ := rfl
  rollback _ := rfl
  insert {_ _ columns parameters _} t h hps hcolumns hdata := by
    by_cases hne : columns = []
    · subst hne
      obtain rfl := List.length_eq_zero_iff.1 hcolumns.symm
      exact .inl (rejects_nil t h)
    · obtain ⟨n, hn⟩ := rejects_or_extends t h hne hps hcolumns hdata
      split at hn
      · exact .inl hn
      · next t' ht' =>
        obtain ⟨hplaces, hextend⟩ := replacement_eq_ok ht'
        exact .inr ⟨hne, hplaces, t', hextend, hn⟩
  inserts {_ _ _ _ _ t _} h hps hcolumns hdata hne hplaces hunique hextend _ := by
    obtain ⟨n, hn⟩ := rejects_or_extends t h hne hps hcolumns hdata
    rw [replacement, checkColumns_eq_ok_iff.2 hplaces] at hn
    simp only [Table.insert_of_extend hunique hextend] at hn
    exact hn
  parameters := mem_parameters_iff
  prepare_congr {_ _ _ _ db db'} h hdb hdb' := by
    obtain ⟨n, -, -, hquery⟩ := query_sentence h
    show db.query _ = db'.query _
    rw [hquery db hdb, hquery db' hdb']
  prepares h hdb hadmits := query_of_admits h hdb hadmits
  columns h hdb hq := by
    obtain ⟨n, rfl, -, hcolumns, -⟩ := exists_prepared h hdb hq
    rw [hcolumns, Prepared.columnNames_prepared h]
  rows h hdb hq hscans _ := by
    obtain ⟨n, rfl, hparse, -, hrows⟩ := exists_prepared h hdb hq
    rw [hrows]
    exact congrArg (List.map Except.ok) (Prepared.run_prepared h (hscans _ hparse) _)
  scans h hs _ hunique := scans_of_unindexed h hs hunique
  store_null t := by cases t <;> rfl
  store_integer _ := rfl
  store_real _ hx := ColumnType.exists_store_real hx
  store_text _ := rfl
  store_blob _ := rfl
  truth := Datum.truth_ofTruth
  and _ _ _ := rfl

end Database

end EntityQuery.Store
