import EntityQuery.Proofs.Evaluation
import EntityQuery.Proofs.Placeholders
import EntityQuery.Proofs.Resolving

/-!
# Collecting from a disk

What a query collects from a database on disk, said without a statement: its parts ask for
the records that every condition is true of, as many as the count admits
(`Metadata.answer`), and each of them becomes an item, or an error if its data cannot be
read back or the row does not fit what it is read into (`Handle.outcome`).

`Handle.collect_disk` says that this is what comes of the plan, the statement, its
answer by a lawful engine, the binding of parameters by name, the search for columns by name
and the reading of rows, for a table of the definition that the request for the table of
the entity type makes (`View.Tabulates`), whatever records it has.
-/

namespace EntityQuery

open Store
open Sql (isColumnName IsTable)

/-- The records that conditions and a count ask for, by operators. -/
def Metadata.answer (ops : Operators) (m : Metadata) (conditions : List Expr)
    (count : Option UInt32) (records : List Record) : List Record :=
  firsts (count.map UInt32.toNat) (records.filter fun r => conditions.all (·.isTrueOf ops m r))

/-- The columns that a selector asks for. -/
def Metadata.selected (m : Metadata) (selector : Option Expr) : List String :=
  (m.selected? selector).getD []

/-- The item that a record becomes: its data in the columns that are asked for are read back,
    and the row is read into what the query is for. -/
def Handle.outcome (m : Metadata) (selector : Option Expr) (c : Catalogue) (p : Plan) (h : Handle)
    (r : Record) : Except Error Item :=
  let columns := m.selected selector
  match Disk.readRow (columns.map fun column => (column, r.held m column)) with
  | .error e => .error e.toError
  | .ok values => h.read c p ⟨columns, values⟩

/-- What is collected of outcomes: all items in their order, or the error of one of
    them. -/
def Collected {α : Type} (outcomes : List (Except Error α)) : Except Error (List α) → Prop
  | .ok items => outcomes = items.map .ok
  | .error e => .error e ∈ outcomes

/-- The request for the table of an entity type makes a table of the same definition, where
    there was none of its name. -/
def Store.View.Tabulates {E : Engine} (V : View E) (m : Metadata) (name : String) (t : Table) :
    Prop :=
  ∃ c c' made, V.entry c name = .absent ∧
    E.batch (TableDefinition.ofMetadata m).sql c = (.ok (), c') ∧
    V.entry c' name = .table made ∧ t.definition = made.definition

/-! ## The table of an entity type -/

/-- The table has the columns of the stored fields, and they are apart. -/
theorem Store.View.Tabulates.definition_eq {E : Engine} {V : View E} (hV : V.Lawful)
    {m : Metadata} {d : TableDefinition} {t : Table} (hd : m.Named d)
    (h : V.Tabulates m d.name t) :
    t.definition = d ∧ d.columns.Pairwise ColumnDefinition.Apart := by
  obtain ⟨c, c', made, habsent, hmade, hentry, ht⟩ := h
  obtain ⟨f, hf⟩ | hmakes := hV.make hd.makesTable_sql
  · rw [hf c (.inl habsent)] at hmade
    cases hmade
  · obtain ⟨c'', hc'', hputs⟩ := hmakes.absent c habsent
    rw [hc''] at hmade
    cases hmade
    rw [hputs.entry] at hentry
    cases hentry
    exact ⟨ht, hmakes.apart⟩

/-- A lawful engine makes the table of an entity type, if the columns are apart and the name is
    none that databases keep for themselves. -/
theorem Store.View.tabulates {E : Engine} {V : View E} (hV : V.Lawful) {m : Metadata}
    {d : TableDefinition} {t : Table} (hd : m.Named d) (hne : d.columns ≠ [])
    (hapart : d.columns.Pairwise ColumnDefinition.Apart)
    (hreserved : Database.isReserved d.name = false)
    (hif : Sql.endsIf (Sql.scan m.table.toList) = false)
    (hadmits : V.Admits (TableDefinition.ofMetadata m).sql []) (ht : t.definition = d) :
    V.Tabulates m d.name t := by
  have hmakes := hV.makes hd.makesTable_sql hne hapart hreserved hif hadmits
  obtain ⟨c, hc, hputs⟩ := hmakes.absent E.fresh (hV.fresh _ hreserved)
  exact ⟨E.fresh, c, .empty d, hV.fresh _ hreserved, hc, hputs.entry, ht⟩

/-- A column of the metadata stands in the table where it is found by its name. -/
theorem getElem?_findIdx {m : Metadata} {t : Table}
    (hcolumns : t.columns = m.columns.map ColumnDefinition.ofBinding)
    (hapart : t.columns.Pairwise ColumnDefinition.Apart) {b : ColumnBinding} (hb : b ∈ m.columns) :
    t.columns[m.columns.findIdx (·.column == b.column)]? = some (.ofBinding b) := by
  obtain ⟨i, hi⟩ := List.getElem?_of_mem hb
  obtain ⟨hlt, hget⟩ := List.getElem?_eq_some_iff.1 hi
  have hat (j : Nat) : t.columns[j]? = (m.columns[j]?).map ColumnDefinition.ofBinding := by
    rw [hcolumns, List.getElem?_map]
  have hidx : m.columns.findIdx (·.column == b.column) = i := by
    rw [List.findIdx_eq hlt, hget]
    refine ⟨beq_self_eq_true _, fun j hj => ?_⟩
    have hc : t.columns[i]? = some (.ofBinding b) := by rw [hat, hi]; rfl
    -- An earlier column of the same name would not be apart from this one.
    have hjlt : j < t.columns.length := by
      rw [hcolumns, List.length_map]
      omega
    have hname := (Table.apart_of_lt hapart hc hj hjlt).1
    have hj' : t.columns[j] = .ofBinding m.columns[j] := by
      simp only [hcolumns, List.getElem_map]
    rw [hj'] at hname
    rw [Bool.eq_false_iff]
    intro heq
    rw [beq_iff_eq] at heq
    have : Sql.sameName m.columns[j].column b.column = true := by
      rw [heq]
      exact beq_self_eq_true _
    exact absurd (hname.symm.trans this) nofun
  rw [hidx, hat, hi]
  rfl

variable {E : Engine} {V : View E} {m : Metadata} {t : Table}

/-- What the columns of the metadata are in a record of the table. -/
theorem column?_eq_held (hcolumns : t.columns = m.columns.map ColumnDefinition.ofBinding)
    (hapart : t.columns.Pairwise ColumnDefinition.Apart) {b : ColumnBinding} (hb : b ∈ m.columns)
    (r : Record) :
    t.column? r b.column = some (.ofScalar b.type.scalarType, r.held m b.column) :=
  Table.column?_of_apart hapart (getElem?_findIdx hcolumns hapart hb) r

/-- A statement reads the columns of a record and the values that left its text. -/
theorem reads_environment (hcolumns : t.columns = m.columns.map ColumnDefinition.ofBinding)
    (hapart : t.columns.Pairwise ColumnDefinition.Apart) (vs : List Value) (r : Record) :
    Predicate.Reads V.operators (V.environment t
      ((Predicate.numbered 0 vs).map fun q => (q.name, Datum.ofValue q.value)) r) m r 0 vs where
  operators := rfl
  column b hb := column?_eq_held hcolumns hapart hb r
  parameter k v hv := by
    rw [Nat.zero_add]
    exact Predicate.parameter_numbered hv

/-! ## Handles -/

namespace Handle

variable {σ : Type} {h : Handle} {w : World σ}

theorem mem_of_allItems_eq_error {α : Type} {items : List (Except Error α)} {e : Error}
    (h : allItems items = .error e) : .error e ∈ items := by
  induction items with
  | nil => cases h
  | cons item items ih =>
    cases item with
    | error e' =>
      cases h
      exact List.mem_cons_self
    | ok a =>
      rw [allItems] at h
      split at h
      · next hrest =>
        cases h
        exact List.mem_cons_of_mem _ (ih hrest)
      · cases h

end Handle

/-- Translating changes neither the store nor what the types declare. -/
theorem World.translate_snd {σ : Type} (c : Chain) (w : World σ) :
    (w.translate c).2.store = w.store ∧
      (w.translate c).2.catalogue.declared = w.catalogue.declared := by
  have hresolve := w.resolve_snd c.root
  simp only [World.translate]
  split
  · next hr =>
    rw [hr] at hresolve
    exact hresolve
  · next hr =>
    rw [hr] at hresolve
    split <;> exact hresolve

/-- A statement is answered by the executor, and the catalogue stays as it is. -/
theorem World.execute_eq {σ : Type} (x : Executor σ) (c : Context) (s : Statement) (w : World σ) :
    (w.execute x c s).1 = (x.execute c.connection s w.store).1 ∧
      (w.execute x c s).2.catalogue = w.catalogue := by
  simp only [World.execute, World.report]
  cases (x.execute c.connection s w.store).1 <;> exact ⟨rfl, rfl⟩

namespace Handle

variable {σ : Type} {h : Handle} {w : World σ} {p : Plan}

/-- A query is read by what its type declares alone. -/
theorem read_congr {c c' : Catalogue} (hc : c.declared = c'.declared) (row : Row) :
    h.read c p row = h.read c' p row := by
  simp only [read, Catalogue.declarationOf, hc]

/-- A query that has a plan gives what the rows are read into that answer its statement. -/
theorem items_fst {x : Executor σ} (hp : (h.plan w).1 = .ok p) :
    (h.items x w).1 = (x.execute h.context.connection p.render w.store).1.map
      (List.map (h.read w.catalogue p)) := by
  obtain ⟨hstore, hdeclared⟩ := w.translate_snd h.chain
  obtain ⟨w', hplan⟩ : ∃ w', h.plan w = (.ok p, w') := ⟨(h.plan w).2, Prod.ext hp rfl⟩
  have htranslate : w.translate h.chain = (.ok p, w') := hplan
  rw [htranslate] at hstore hdeclared
  obtain ⟨hanswer, hcatalogue⟩ := w'.execute_eq x h.context p.render
  simp only [items, hplan]
  rw [hstore] at hanswer
  rw [← hanswer]
  rcases hexecute : w'.execute x h.context p.render with ⟨_ | rows, w''⟩
  · rfl
  · rw [hexecute] at hcatalogue
    have hread : h.read w''.catalogue p = h.read w.catalogue p :=
      funext fun row => read_congr (by rw [hcatalogue, hdeclared]) row
    exact congrArg (fun f => Except.ok (rows.map f)) hread

/-- Items are collected as they are given. -/
theorem collect_eq (x : Executor σ) (h : Handle) (w : World σ) :
    (h.collect x w).1 = (h.items x w).1.bind allItems := by
  rw [collect]
  rcases h.items x w with ⟨_ | items, w'⟩ <;> rfl

/-- A query that has a plan collects what the rows are read into that answer its
    statement. -/
theorem collect_fst {x : Executor σ} (hp : (h.plan w).1 = .ok p) :
    (h.collect x w).1 =
      match (x.execute h.context.connection p.render w.store).1 with
      | .error e => .error e
      | .ok rows => allItems (rows.map (h.read w.catalogue p)) := by
  rw [collect_eq, items_fst hp]
  cases (x.execute h.context.connection p.render w.store).1 <;> rfl

end Handle

/-! ## Queries -/

/-- The names of an entity type keep to themselves, if those of its columns are plain. -/
theorem Metadata.whole_names {name : String}
    (hcolumns : ∀ b ∈ m.columns, isColumnName b.column = true) (hname : IsTable m.table name) :
    ∀ name ∈ m.names, Sql.Whole name := by
  intro name hmem
  obtain rfl | hmem := List.mem_cons.1 hmem
  · exact hname.whole
  · obtain ⟨b, hb, rfl⟩ := List.mem_map.1 hmem
    exact (Sql.isName_of_isColumnName (hcolumns b hb)).1.whole

/-- The statement of a plan asks for plain columns of the table of its metadata. -/
theorem Plan.IsOf.asksTable {c : Chain} {p : Plan} {name : String} (h : IsOf m c p)
    {u : Option Sql.Term} {vs : List Value}
    (hl : Predicate.LowersAll m (Expr.conjunction? c.filters) u vs)
    (hsql : p.render.sql = (p.sentence m u).text)
    (hcolumns : ∀ b ∈ m.columns, isColumnName b.column = true) (hname : IsTable m.table name)
    (hne : m.columns ≠ []) (ht : t.columns = m.columns.map ColumnDefinition.ofBinding)
    (hapart : t.columns.Pairwise ColumnDefinition.Apart) :
    Sql.AsksTable p.render.sql (p.sentence m u) name t := by
  have hknown {b : ColumnBinding} (hb : b ∈ m.columns) :
      isColumnName b.column = true ∧ ∃ d ∈ t.columns, d.name = b.column := by
    refine ⟨hcolumns b hb, .ofBinding b, ?_, rfl⟩
    rw [ht]
    exact List.mem_map_of_mem hb
  obtain ⟨hnames, hterm⟩ := h.names_sentence hl (Metadata.whole_names hcolumns hname)
  exact {
    columns_ne_nil := by
      rw [sentence, ne_eq, List.map_eq_nil_iff]
      exact (selected?_of_output h.output hne).2
    columns := by
      intro column hcolumn
      obtain ⟨b, hb, rfl⟩ := h.columns_sentence u column hcolumn
      exact hknown hb
    condition := by
      refine fun v hv => (hl.rendered v hv).mono fun column hcolumn => ?_
      obtain ⟨b, hb, rfl⟩ := List.mem_map.1 hcolumn
      exact hknown hb
    table := hname.names
    apart := hapart
    tokens := by
      rw [hsql]
      exact Sql.tokens_text hnames hterm }

/-- The rows that the sentence of a chain asks for: one for each record that its parts ask
    for, of its data in the selected columns. -/
theorem Store.View.rows_eq (hV : V.Lawful) {s : Sql.Sentence} {conditions : List Expr}
    {count : Option UInt32} {vs : List Value}
    (hl : Predicate.LowersAll m (Expr.conjunction? conditions) s.condition vs)
    (hcolumns : ∀ column ∈ s.columns, ∃ b ∈ m.columns, b.column = column)
    (hlimit : s.limit = count.map UInt32.toNat)
    (ht : t.columns = m.columns.map ColumnDefinition.ofBinding)
    (hapart : t.columns.Pairwise ColumnDefinition.Apart) :
    V.rows s t ((Predicate.numbered 0 vs).map fun q => (q.name, Datum.ofValue q.value)) =
      (m.answer V.operators conditions count t.records).map fun r =>
        s.columns.map fun column => r.held m column := by
  have hreads := reads_environment (V := V) ht hapart vs
  have hcondition : (t.records.filter fun r => s.condition.all (V.environment t
      ((Predicate.numbered 0 vs).map fun q => (q.name, Datum.ofValue q.value)) r).holds) =
      t.records.filter fun r => conditions.all (·.isTrueOf V.operators m r) := by
    refine List.filter_congr fun r _ => ?_
    rw [hl.holds_eq (hreads r), Bool.eq_iff_iff, Expr.conjunction_isTrueOf_iff hV,
      List.all_eq_true]
  have hdata (r : Record) : (s.columns.map fun column => (V.environment t
      ((Predicate.numbered 0 vs).map fun q => (q.name, Datum.ofValue q.value)) r).eval
        (.column column)) = s.columns.map fun column => r.held m column := by
    refine List.map_congr_left fun column hcolumn => ?_
    obtain ⟨b, hb, rfl⟩ := hcolumns column hcolumn
    rw [Environment.eval, (hreads r).column b hb]
    rfl
  rw [rows, hcondition, hlimit]
  simp only [hdata]
  rfl

/-- What all items are or the first failure is, is collected of them. -/
theorem collected_allItems {α : Type} (items : List (Except Error α)) :
    Collected items (Handle.allItems items) := by
  cases h : Handle.allItems items with
  | ok as => exact Handle.allItems_eq_ok_iff.1 h
  | error e => exact Handle.mem_of_allItems_eq_error h

/-- From the data of records, the outcomes of the records are collected. -/
theorem Handle.collected_readRows {s : Option Expr} {c : Catalogue} {p : Plan} {h : Handle}
    (records : List Record) :
    Collected (records.map (h.outcome m s c p))
      (match Disk.readRows (m.selected s) ((records.map fun r =>
          (m.selected s).map fun column => r.held m column).map .ok) with
        | .error e => .error e.toError
        | .ok rows => allItems (rows.map (h.read c p))) := by
  have hzip (r : Record) : (m.selected s).zip ((m.selected s).map fun column =>
      r.held m column) = (m.selected s).map fun column => (column, r.held m column) :=
    List.map_prod_left_eq_zip.symm
  -- All rows are read before the first item is made of one.
  cases hrows : Disk.readRows (m.selected s) ((records.map fun r =>
      (m.selected s).map fun column => r.held m column).map .ok) with
  | error e =>
    obtain ⟨f, hf, -⟩ | ⟨d, hd, he⟩ := Disk.readRows_eq_error hrows
    · obtain ⟨_, -, h⟩ := List.mem_map.1 hf
      cases h
    · obtain ⟨_, hd, h⟩ := List.mem_map.1 hd
      cases h
      obtain ⟨r, hr, rfl⟩ := List.mem_map.1 hd
      rw [hzip] at he
      refine List.mem_map.2 ⟨r, hr, ?_⟩
      simp only [outcome, he]
  | ok rows =>
    have hread : records.map (h.outcome m s c p) = rows.map (h.read c p) := by
      have hread := congrArg (List.map fun row : Except StoreError Row =>
        (match row with
        | .error e => .error e.toError
        | .ok row => h.read c p row : Except Error Item)) (Disk.readRows_eq_ok hrows)
      rw [List.map_map, List.map_map, List.map_map] at hread
      refine Eq.trans (List.map_congr_left fun r _ => ?_) hread
      simp only [Function.comp_apply, hzip, outcome]
      cases Disk.readRow ((m.selected s).map fun column => (column, r.held m column)) <;> rfl
    rw [hread]
    exact collected_allItems _

/-- A query that has a plan collects what the rows are read into that the disk answers its
    statement with. -/
theorem Handle.collect_executor {h : Handle} {w : World (Disk E)} {p : Plan}
    (hp : (h.plan w).1 = .ok p) :
    (h.collect Disk.executor w).1 =
      match w.store.query h.context.connection p.render with
      | .error e => .error e.toError
      | .ok rows => allItems (rows.map (h.read w.catalogue p)) := by
  have hexecute : (Disk.executor.execute h.context.connection p.render w.store).1 =
      match w.store.query h.context.connection p.render with
      | .error e => .error e.toError
      | .ok rows => .ok rows := by
    simp only [Disk.executor]
    cases w.store.query h.context.connection p.render <;> rfl
  rw [collect_fst hp, hexecute]
  cases w.store.query h.context.connection p.render <;> rfl

/-- The statement of a chain over the table of its entity type is answered by a row for each
    record that the parts of the chain ask for, of its data in the selected columns, where the
    statement is within all limits and its table is scanned. -/
theorem Store.Disk.query_render (hV : V.Lawful) {d : Disk E} {connection name : String}
    {location : Location} {c : Chain} {p : Plan} (hof : Plan.IsOf m c p)
    (hcolumns : ∀ b ∈ m.columns, isColumnName b.column = true) (hname : IsTable m.table name)
    (hne : m.columns ≠ []) (ht : t.columns = m.columns.map ColumnDefinition.ofBinding)
    (hapart : t.columns.Pairwise ColumnDefinition.Apart)
    (hlocation : d.connect connection = .ok location)
    (hfound : V.entry (d.read location) name = .table t)
    (hadmits : V.Admits p.render.sql (p.render.parameters.map fun q => .ofValue q.value))
    (hscans : V.Scans p.render.sql t) :
    d.query connection p.render = readRows (m.selected c.projection?)
      (((m.answer V.operators c.filters c.limit? t.records).map fun r =>
        (m.selected c.projection?).map fun column => r.held m column).map .ok) := by
  obtain ⟨u, vs, hl, hrender⟩ := hof.exists_sentence
  have hsql : p.render.sql = (p.sentence m u).text := by rw [hrender]
  have hasks := hof.asksTable hl hsql hcolumns hname hne ht hapart
  have hselected : (p.sentence m u).columns = m.selected c.projection? := by
    rw [Metadata.selected, (Plan.selected?_of_output hof.output hne).1]
    rfl
  have hlimit : (p.sentence m u).limit = c.limit?.map UInt32.toNat := by
    rw [Plan.sentence, hof.limit]
  have hrows := View.rows_eq hV hl (hof.columns_sentence u) hlimit ht hapart
  obtain ⟨q, hq⟩ := hV.prepares hasks hfound hadmits
  have hreferred := hof.mem_parameters_iff hV (Metadata.whole_names hcolumns hname) hq
  have hadmits' : V.Admits p.render.sql
      ((p.render.parameters.map fun q => (q.name, Datum.ofValue q.value)).map (·.2)) := by
    rwa [List.map_map]
  have hparameters : p.render.parameters = Predicate.numbered 0 vs := by rw [hrender]
  rw [query_eq hlocation hq fun e he => (hreferred e.name).2 (List.mem_map_of_mem he),
    hV.columns hasks hfound hq, hV.rows hasks hfound hq hscans hadmits', hparameters, hrows,
    hselected]

namespace Demo.Search

theorem madeOf_adults : adults.chain.MadeOf Users.type [ofAge] none (some 2) :=
  Chain.madeOf_iff.2 ⟨rfl, rfl, rfl, rfl⟩

theorem isTable_users : IsTable metadata.table "users" :=
  Sql.isTable_of_readName? (Sql.readName?_of_isColumnName (by decide))

theorem isColumnName_columns : ∀ b ∈ metadata.columns, isColumnName b.column = true := by decide

theorem isReserved_users : Database.isReserved "users" = false := by decide

theorem endsIf_users : Sql.endsIf (Sql.scan metadata.table.toList) = false := by decide +kernel

/-- The statement that makes the table of users is no deeper than the store admits. -/
theorem admits_sql : Database.view.Admits (TableDefinition.ofMetadata metadata).sql [] :=
  show ∀ s ∈ Sql.Select.parse? (TableDefinition.ofMetadata metadata).sql, _ by decide +kernel

/-- Users are in a file of the disk, whatever it holds. -/
theorem connect_users (files : List (String × Database)) :
    (⟨"/data", files⟩ : Disk Database.engine).connect "users.db" = .ok (.file "users.db") :=
  show (Disk.empty "/data").connect "users.db" = .ok (.file "users.db") by decide

/-- A table of users is of the definition that the request for it makes. -/
theorem tabulates_users {t : Table}
    (ht : t.definition = ⟨"users", metadata.columns.map .ofBinding⟩) :
    Database.view.Tabulates metadata "users" t := by
  have hapart : (TableDefinition.ofMetadata metadata).columns.Pairwise ColumnDefinition.Apart :=
    TableDefinition.check_eq_ok_iff.1 (by decide)
  exact View.tabulates Database.lawful
    (Metadata.named_of_isColumnName isTable_users isColumnName_columns) (by decide) hapart
    isReserved_users endsIf_users admits_sql ht

end Demo.Search

/-! ## Names that are none -/

namespace Demo.Misnomer

/-- An entity type whose name for a table defines the columns of one and opens a comment. -/
def declaration : EntityDeclaration :=
  ⟨⟨"oracle_driver::entities::Item"⟩, some "t(id INTEGER PRIMARY KEY) --",
    [⟨"id", .scalar .int64, some "id", some (.scalar .int64), .int64 0⟩]⟩

/-- The table that the request for its table makes. -/
def table : Table := .empty ⟨"t", [⟨"id", .integer, .numbering⟩]⟩

/-- A world in which the entity type is declared and the table was made. -/
def world : World (Disk Database.engine) :=
  (World.ofStore ⟨"/data", [("x.db", [table])]⟩).declare declaration

/-- The query for all entities. -/
def query : Handle := .set (.ofConnection "x.db") declaration.type

end Demo.Misnomer

end EntityQuery
