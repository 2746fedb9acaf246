import EntityQuery.Proofs.Naming
import EntityQuery.Store.Seeding

/-!
# Forms of statements

The statements that make, drop, fill and count a table, by the tokens that they consist of,
and what such a statement is about: a table of the main database, whose name may stand in
quotes or after that of the database; columns with their types and keys; parameters. None
of this depends on how the statements are written.

The texts that are sent to a database have these forms, if every name in them keeps to
itself (`Whole`) and is one (`IsTable`, `IsName`):

* `Metadata.makesTable_sql`: the definition of the table of an entity type;
* `dropsTable_dropSql`, `countsRecords_countSql`: a table is dropped, its records are counted;
* `insertsRecord_insertSql`: a record is inserted, with a parameter for each column.
-/

namespace EntityQuery.Sql

open Store (ColumnType ColumnDefinition KeyRole TableDefinition)

/-! ## Names -/

/-- The name that a text is. -/
def nameOf (s : String) : String := ((scan s.toList).head?.bind Token.anyName?).getD ""

/-- A text that is a name where it stands in a statement. -/
structure IsName (s : String) : Prop where
  whole : Whole s
  token : ∃ t, scan s.toList = [t] ∧ t.anyName? = some (nameOf s)

/-- Tokens that are the name of a table of the main database. -/
def NamesMain (ts : List Token) (name : String) : Prop :=
  ∃ database, NamesTable ts ⟨database, name⟩ ∧ Store.Database.isMain database = true

/-- A text that is the name of a table of the main database where it stands in a statement. -/
structure IsTable (s name : String) : Prop where
  whole : Whole s
  names : NamesMain (scan s.toList) name

/-- The word `IF` where the name of a table ends. Databases keep no such definition, since the
    word would be read as the start of a condition. -/
def endsIf (ts : List Token) : Bool := ts.getLast?.any (·.isWord "if")

theorem isName_of_token {s name : String} {t : Token} (hwhole : Whole s)
    (ht : scan s.toList = [t]) (hn : t.anyName? = some name) : IsName s ∧ nameOf s = name := by
  have hname : nameOf s = name := by
    rw [nameOf, ht, List.head?_cons, Option.bind_some, hn]
    rfl
  exact ⟨⟨hwhole, t, ht, hname ▸ hn⟩, hname⟩

/-- What is read as a name is one. -/
theorem isName_of_readName? {s name : String} (h : readName? s = some name) :
    IsName s ∧ nameOf s = name := by
  obtain ⟨t, ht, hn⟩ := exists_token_of_readName? h
  refine isName_of_token (whole_of_readName? h) ht ?_
  cases t with
  | text => cases hn
  | _ => exact hn

/-- A plain name is one. -/
theorem isName_of_isColumnName {s : String} (h : isColumnName s = true) :
    IsName s ∧ nameOf s = s :=
  isName_of_readName? (readName?_of_isColumnName h)

/-- What is a name is that of a table. -/
theorem IsName.isTable {s : String} (h : IsName s) : IsTable s (nameOf s) := by
  obtain ⟨t, ht, hn⟩ := h.token
  exact ⟨h.whole, none, ht ▸ .plain hn, rfl⟩

/-- What is read as a name, in quotes or not, is that of a table. -/
theorem isTable_of_readName? {s name : String} (h : readName? s = some name) :
    IsTable s name := by
  obtain ⟨hname, rfl⟩ := isName_of_readName? h
  exact hname.isTable

/-! ## Statements -/

/-- Tokens of elements one after the other, with commas between them. -/
inductive Listed {α : Type} (p : List Token → α → Prop) : List Token → List α → Prop
  | nil : Listed p [] []
  | single {ts : List Token} {a : α} : p ts a → Listed p ts [a]
  | cons {ts us : List Token} {a b : α} {as : List α} :
    p ts a → Listed p us (b :: as) → Listed p (ts ++ .sign "," :: us) (a :: b :: as)

/-- A single token that is a name. -/
def IsNameToken (ts : List Token) (name : String) : Prop :=
  ∃ t, ts = [t] ∧ t.anyName? = some name

/-- A single token that is a parameter, marked by `@`. -/
def IsParameterToken (ts : List Token) (name : String) : Prop :=
  ts = [.parameter name] ∧ name.toList.head? = some '@'

/-- The words that declare the types of columns. -/
inductive DeclaresType : Token → ColumnType → Prop
  | integer : DeclaresType (.word "INTEGER") .integer
  | real : DeclaresType (.word "REAL") .real
  | text : DeclaresType (.word "TEXT") .text
  | blob : DeclaresType (.word "BLOB") .blob

/-- The words after the type of a column that make it a key, or none. -/
inductive DeclaresKey : List Token → ColumnType → KeyRole → Prop
  | plain {type : ColumnType} : DeclaresKey [] type .plain
  | unique {type : ColumnType} : type ≠ .integer →
    DeclaresKey [.word "PRIMARY", .word "KEY"] type .unique
  | numbering :
    DeclaresKey [.word "PRIMARY", .word "KEY", .word "AUTOINCREMENT"] .integer .numbering

/-- The declaration of a column: its name, its type and its role. -/
inductive DeclaresColumn : List Token → ColumnDefinition → Prop
  | mk {t u : Token} {ts : List Token} {name : String} {type : ColumnType} {key : KeyRole} :
    t.anyName? = some name → DeclaresType u type → DeclaresKey ts type key →
      DeclaresColumn (t :: u :: ts) ⟨name, type, key⟩

/-- A statement that makes a table, whose name consists of the given tokens, if there is
    none of the name. -/
def MakesTable (sql : String) (name : List Token) (d : TableDefinition) : Prop :=
  NamesMain name d.name ∧ ∃ ts, Listed DeclaresColumn ts d.columns ∧
    Sql.tokens sql = .word "CREATE" :: .word "TABLE" :: .word "IF" :: .word "NOT" ::
      .word "EXISTS" :: (name ++ .sign "(" :: (ts ++ [.sign ")"]))

/-- A statement that drops a table, if there is one of the name. -/
def DropsTable (sql name : String) : Prop :=
  ∃ ts, NamesMain ts name ∧
    Sql.tokens sql = .word "DROP" :: .word "TABLE" :: .word "IF" :: .word "EXISTS" :: ts

/-- A statement that counts the records of a table. -/
def CountsRecords (sql name : String) : Prop :=
  ∃ ts, NamesMain ts name ∧
    Sql.tokens sql = .word "SELECT" :: .word "COUNT" :: .sign "(" :: .sign "*" :: .sign ")" ::
      .word "FROM" :: ts

/-- A statement that inserts a record into columns of a table, with the data of parameters. -/
def InsertsRecord (sql name : String) (columns parameters : List String) : Prop :=
  ∃ ts us vs, NamesMain ts name ∧ Listed IsNameToken us columns ∧
    Listed IsParameterToken vs parameters ∧
    Sql.tokens sql = .word "INSERT" :: .word "INTO" :: (ts ++ .sign "(" :: (us ++ .sign ")" ::
      .word "VALUES" :: .sign "(" :: (vs ++ [.sign ")"])))

/-- What is joined with commas is listed. -/
theorem listed_intercalate {α β : Type} {p : List Token → β → Prop} {f : α → List Token}
    {g : α → β} {as : List α} (h : ∀ a ∈ as, p (f a) (g a)) :
    Listed p ([.sign ","].intercalate (as.map f)) (as.map g) := by
  induction as with
  | nil => exact .nil
  | cons a as ih =>
    have ha := h a List.mem_cons_self
    have ih := ih fun b hb => h b (List.mem_cons_of_mem _ hb)
    cases as with
    | nil =>
      rw [List.map_singleton, List.map_singleton, List.intercalate_singleton]
      exact .single ha
    | cons b as =>
      rw [List.map_cons, List.map_cons, List.intercalate_cons_cons, List.append_assoc]
      exact .cons ha ih

/-- Between elements without a sign, there are only commas. -/
theorem Listed.sign_not_mem {α : Type} {p : List Token → α → Prop} {ts : List Token} {as : List α}
    (h : Listed p ts as) {s : String} (hs : s ≠ ",") (hp : ∀ ts a, p ts a → .sign s ∉ ts) :
    .sign s ∉ ts := by
  induction h with
  | nil => exact nofun
  | single ha => exact hp _ _ ha
  | cons ha _ ih =>
    simp only [List.mem_append, List.mem_cons, Token.sign.injEq, not_or]
    exact ⟨hp _ _ ha, hs, ih⟩

theorem sign_ne_of_anyName? {t : Token} {name s : String} (h : t.anyName? = some name) :
    t ≠ .sign s := by
  rintro rfl
  cases h

/-- The tokens of a column have no sign. -/
theorem DeclaresColumn.sign_not_mem {ts : List Token} {c : ColumnDefinition}
    (h : DeclaresColumn ts c) (s : String) : .sign s ∉ ts := by
  obtain ⟨hname, htype, hkey⟩ := h
  intro hs
  obtain rfl | hs := List.mem_cons.1 hs
  · exact sign_ne_of_anyName? hname rfl
  · obtain rfl | hs := List.mem_cons.1 hs
    · cases htype
    · cases hkey <;> simp at hs

/-- In the name of a table, there is no sign but a point. -/
theorem NamesMain.sign_not_mem {ts : List Token} {name s : String} (h : NamesMain ts name)
    (hs : s ≠ ".") : .sign s ∉ ts := by
  obtain ⟨database, hnames, -⟩ := h
  cases hnames with
  | plain ht => simp [(sign_ne_of_anyName? ht).symm]
  | within ht hu => simp [(sign_ne_of_anyName? ht).symm, (sign_ne_of_anyName? hu).symm, hs]

end EntityQuery.Sql

namespace EntityQuery.Store

open Sql

/-! ## Texts of definitions -/

namespace ColumnDefinition

/-- The name of a column keeps to itself, and its type is a word. -/
structure IsWhole (c : ColumnDefinition) : Prop where
  name : Whole c.name
  type : isIdentifier c.type.sql = true

/-- The tokens of the mark of a key. -/
def keyTokens (c : ColumnDefinition) : List Token :=
  match c.key with
  | .plain => []
  | .unique => [.word "PRIMARY", .word "KEY"]
  | .numbering => [.word "PRIMARY", .word "KEY", .word "AUTOINCREMENT"]

/-- The tokens of a column in a definition. -/
def tokens (c : ColumnDefinition) : List Token :=
  scan c.name.toList ++ .word c.type.sql :: c.keyTokens

variable {c : ColumnDefinition} {rest : List Char}

/-- The mark of a key, which ends what stands before it. -/
theorem scan_keyText (hr : Separated rest) :
    Separated (c.keyText.toList ++ rest) ∧
      scan (c.keyText.toList ++ rest) = c.keyTokens ++ scan rest := by
  rw [keyText, keyTokens]
  cases c.key with
  | plain => exact ⟨hr, rfl⟩
  | unique =>
    refine ⟨separated_cons.2 rfl, ?_⟩
    show scan (' ' :: ("PRIMARY".toList ++ ' ' :: ("KEY".toList ++ rest))) = _
    rw [scan_blank_keyword rfl, scan_blank_word rfl hr]
    rfl
  | numbering =>
    refine ⟨separated_cons.2 rfl, ?_⟩
    show scan (' ' :: ("PRIMARY".toList ++
      ' ' :: ("KEY".toList ++ ' ' :: ("AUTOINCREMENT".toList ++ rest)))) = _
    rw [scan_blank_keyword rfl, scan_blank_keyword rfl, scan_blank_word rfl hr]
    rfl

theorem toList_sql (c : ColumnDefinition) (rest : List Char) : c.sql.toList ++ rest =
    c.name.toList ++ ' ' :: (c.type.sql.toList ++ (c.keyText.toList ++ rest)) := by
  simp [sql]

/-- A column has the tokens that it shows, after a blank or nothing. -/
theorem scan_sql (hc : c.IsWhole) (hr : Separated rest) :
    scan (c.sql.toList ++ rest) = c.tokens ++ scan rest ∧
      scan (' ' :: (c.sql.toList ++ rest)) = c.tokens ++ scan rest := by
  obtain ⟨hkey, hkeyText⟩ := scan_keyText (c := c) hr
  have hrest : scan (' ' :: (c.type.sql.toList ++ (c.keyText.toList ++ rest))) =
      .word c.type.sql :: (c.keyTokens ++ scan rest) := by
    rw [scan_blank_word hc.type hkey, hkeyText]
  rw [toList_sql, hc.name.scan_append (separated_cons.2 rfl),
    hc.name.scan_blank_append (separated_cons.2 rfl), hrest, tokens, List.append_assoc]
  exact ⟨rfl, rfl⟩

theorem nul_not_mem_sql (hc : c.IsWhole) : '\x00' ∉ c.sql.toList := by
  have htype := (whole_of_isIdentifier hc.type).nul_not_mem
  have hkey : '\x00' ∉ c.keyText.toList := by
    rw [keyText]
    cases c.key <;> decide
  simp [sql, hc.name.nul_not_mem, htype, hkey]

end ColumnDefinition

namespace TableDefinition

/-- The tokens of columns, with commas between them. -/
def columnTokens (columns : List ColumnDefinition) : List Token :=
  [.sign ","].intercalate (columns.map (·.tokens))

/-- The tokens of a definition. -/
def tokens (d : TableDefinition) : List Token :=
  .word "CREATE" :: .word "TABLE" :: .word "IF" :: .word "NOT" :: .word "EXISTS" ::
    (scan d.name.toList ++ .sign "(" :: (columnTokens d.columns ++ [.sign ")"]))

variable {columns : List ColumnDefinition}

theorem columnTokens_singleton (c : ColumnDefinition) : columnTokens [c] = c.tokens :=
  List.intercalate_singleton

theorem columnTokens_cons_cons (c c' : ColumnDefinition) (columns : List ColumnDefinition) :
    columnTokens (c :: c' :: columns) =
      c.tokens ++ .sign "," :: columnTokens (c' :: columns) := by
  simp only [columnTokens, List.map_cons, List.intercalate_cons_cons, List.append_assoc,
    List.singleton_append]

/-- The text of columns, with commas between them. -/
def columnText (columns : List ColumnDefinition) : List Char :=
  [',', ' '].intercalate (columns.map (·.sql.toList))

theorem columnText_singleton (c : ColumnDefinition) : columnText [c] = c.sql.toList :=
  List.intercalate_singleton

theorem columnText_cons_cons (c c' : ColumnDefinition) (columns : List ColumnDefinition) :
    columnText (c :: c' :: columns) =
      c.sql.toList ++ ',' :: ' ' :: columnText (c' :: columns) := by
  simp only [columnText, List.map_cons, List.intercalate_cons_cons, List.append_assoc,
    List.cons_append, List.nil_append]

/-- Columns with commas between them are read one after the other. -/
theorem scan_columnText (hcolumns : ∀ c ∈ columns, c.IsWhole) {rest : List Char}
    (hr : Separated rest) :
    scan (columnText columns ++ rest) = columnTokens columns ++ scan rest ∧
      scan (' ' :: (columnText columns ++ rest)) = columnTokens columns ++ scan rest := by
  induction columns with
  | nil => exact ⟨rfl, scan_blank (hr.stops (by decide))⟩
  | cons c columns ih =>
    have hc := hcolumns c List.mem_cons_self
    cases columns with
    | nil =>
      rw [columnText_singleton, columnTokens_singleton]
      exact c.scan_sql hc hr
    | cons c' columns =>
      -- The other columns stand after a comma and a blank.
      have ih := (ih fun d hd => hcolumns d (List.mem_cons_of_mem _ hd)).2
      have hcomma : Separated (',' :: ' ' :: (columnText (c' :: columns) ++ rest)) :=
        separated_cons.2 rfl
      obtain ⟨hfirst, hblank⟩ := c.scan_sql hc hcomma
      rw [columnText_cons_cons, columnTokens_cons_cons, List.append_assoc, List.append_assoc,
        List.cons_append, List.cons_append, List.cons_append, hfirst, hblank, scan_comma, ih]
      exact ⟨rfl, rfl⟩

theorem toList_sql (d : TableDefinition) :
    d.sql.toList = "CREATE".toList ++ ' ' :: ("TABLE".toList ++ ' ' ::
      ("IF".toList ++ ' ' :: ("NOT".toList ++ ' ' :: ("EXISTS".toList ++ ' ' :: (d.name.toList ++
        ' ' :: '(' :: (columnText d.columns ++ [')'])))))) := by
  have hhead : "CREATE TABLE IF NOT EXISTS ".toList = "CREATE".toList ++ ' ' :: ("TABLE".toList ++
      ' ' :: ("IF".toList ++ ' ' :: ("NOT".toList ++ ' ' :: ("EXISTS".toList ++ [' '])))) := by
    decide
  have hcolumns : (", ".intercalate (d.columns.map (·.sql))).toList = columnText d.columns := by
    rw [String.toList_intercalate, List.map_map]
    rfl
  show ("CREATE TABLE IF NOT EXISTS " ++ d.name ++ " (" ++
    ", ".intercalate (d.columns.map (·.sql)) ++ ")").toList = _
  simp only [String.toList_append, hhead, hcolumns, List.append_assoc, List.cons_append]
  rfl

/-- A definition of whole names has the tokens that its text shows. -/
theorem tokens_sql {d : TableDefinition} (hname : Whole d.name)
    (hcolumns : ∀ c ∈ d.columns, c.IsWhole) : Sql.tokens d.sql = d.tokens := by
  have hscan : scan d.sql.toList = d.tokens := by
    rw [toList_sql, scan_keyword rfl, scan_blank_keyword rfl, scan_blank_keyword rfl,
      scan_blank_keyword rfl, scan_blank_keyword rfl,
      hname.scan_blank_append (separated_cons.2 rfl), scan_blank (stops_cons.2 rfl), scan_open,
      (scan_columnText hcolumns (separated_cons.2 rfl)).1, scan_close, scan_nil]
    rfl
  have hnul : '\x00' ∉ d.sql.toList := by
    have hall : '\x00' ∉ columnText d.columns :=
      not_mem_intercalate_map (by decide) fun c hc => c.nul_not_mem_sql (hcolumns c hc)
    rw [toList_sql]
    simp [hname.nul_not_mem, hall]
  exact tokens_of_scan hnul hscan nofun

end TableDefinition

end EntityQuery.Store

namespace EntityQuery

open Store Sql

/-! ## Tables of entity types -/

/-- The column of a stored field, by the name that a database reads. -/
def ColumnBinding.readColumn (b : ColumnBinding) : ColumnDefinition :=
  { ColumnDefinition.ofBinding b with name := nameOf b.column }

/-- A database reads the names of a table and of its columns as names, which are those of a
    definition. -/
structure Metadata.Named (m : Metadata) (d : TableDefinition) : Prop where
  table : IsTable m.table d.name
  names : ∀ b ∈ m.columns, IsName b.column
  columns : d.columns = m.columns.map ColumnBinding.readColumn

/-- A plain name is read as itself. -/
theorem ColumnBinding.readColumn_eq {b : ColumnBinding} (h : isColumnName b.column = true) :
    b.readColumn = .ofBinding b := by
  rw [readColumn, (isName_of_isColumnName h).2]
  rfl

/-- The names of an entity type are names if those of its columns are plain. -/
theorem Metadata.named_of_isColumnName {m : Metadata} {name : String} (h : IsTable m.table name)
    (hcolumns : ∀ b ∈ m.columns, isColumnName b.column = true) :
    m.Named ⟨name, m.columns.map .ofBinding⟩ where
  table := h
  names b hb := (isName_of_isColumnName (hcolumns b hb)).1
  columns := List.map_congr_left fun b hb => (ColumnBinding.readColumn_eq (hcolumns b hb)).symm

/-- Every scalar type has a column of a type that is declared by a word. -/
theorem declaresType_ofScalar (t : ScalarType) :
    DeclaresType (.word (ColumnType.ofScalar t).sql) (.ofScalar t) := by
  cases t with
  | bool | int32 | int64 => exact .integer
  | float64 => exact .real
  | string => exact .text
  | bytes => exact .blob

theorem Store.ColumnDefinition.isWhole_ofBinding {b : ColumnBinding} (h : Whole b.column) :
    (ColumnDefinition.ofBinding b).IsWhole where
  name := h
  type := by
    show isIdentifier (ColumnType.ofScalar b.type.scalarType).sql = true
    cases b.type.scalarType <;> decide

/-- The column of a stored field is declared with its type and its role. -/
theorem ColumnBinding.declaresColumn {b : ColumnBinding} (h : IsName b.column) :
    DeclaresColumn (ColumnDefinition.ofBinding b).tokens b.readColumn := by
  obtain ⟨t, ht, hname⟩ := h.token
  have hkey : DeclaresKey (ColumnDefinition.ofBinding b).keyTokens
      (ColumnType.ofScalar b.type.scalarType) (ColumnDefinition.ofBinding b).key := by
    by_cases hid : (Text.lower b.field == "id") = true
    · by_cases htype : ColumnType.ofScalar b.type.scalarType = .integer
      · simp only [ColumnDefinition.keyTokens, ColumnDefinition.ofBinding,
          ColumnDefinition.roleOfKey, hid, htype, if_true]
        exact .numbering
      · simp only [ColumnDefinition.keyTokens, ColumnDefinition.ofBinding,
          ColumnDefinition.roleOfKey, hid, htype, if_true, if_false]
        exact .unique htype
    · simp only [ColumnDefinition.keyTokens, ColumnDefinition.ofBinding, hid]
      exact .plain
  have htokens : (ColumnDefinition.ofBinding b).tokens =
      t :: .word (ColumnType.ofScalar b.type.scalarType).sql ::
        (ColumnDefinition.ofBinding b).keyTokens := by
    rw [ColumnDefinition.tokens]
    show scan b.column.toList ++ _ = _
    rw [ht]
    rfl
  rw [htokens]
  exact .mk hname (declaresType_ofScalar _) hkey

namespace Metadata

variable {m : Metadata} {d : TableDefinition}

/-- The statement for the table of an entity type makes it. -/
theorem Named.makesTable_sql (h : m.Named d) :
    MakesTable (TableDefinition.ofMetadata m).sql (scan m.table.toList) d := by
  refine ⟨h.table.names, TableDefinition.columnTokens (TableDefinition.ofMetadata m).columns, ?_,
    ?_⟩
  · rw [h.columns, TableDefinition.columnTokens, TableDefinition.ofMetadata, List.map_map]
    exact listed_intercalate fun b hb => ColumnBinding.declaresColumn (h.names b hb)
  · refine TableDefinition.tokens_sql (d := .ofMetadata m) h.table.whole fun c hc => ?_
    obtain ⟨b, hb, rfl⟩ := List.mem_map.1 hc
    exact ColumnDefinition.isWhole_ofBinding (h.names b hb).whole

end Metadata

/-! ## Texts of other statements -/

namespace Store

variable {table name : String}

theorem dropsTable_dropSql (h : IsTable table name) : DropsTable (Schema.dropSql table) name := by
  have htext : (Schema.dropSql table).toList = "DROP".toList ++ ' ' :: ("TABLE".toList ++
      ' ' :: ("IF".toList ++ ' ' :: ("EXISTS".toList ++ ' ' :: (table.toList ++ [])))) := by
    have hhead : "DROP TABLE IF EXISTS ".toList = "DROP".toList ++ ' ' :: ("TABLE".toList ++
        ' ' :: ("IF".toList ++ ' ' :: ("EXISTS".toList ++ [' ']))) := by
      decide
    have hsql : Schema.dropSql table = "DROP TABLE IF EXISTS " ++ table := rfl
    simp only [hsql, String.toList_append, hhead, List.append_assoc, List.cons_append,
      List.nil_append, List.append_nil]
  have hnul : '\x00' ∉ (Schema.dropSql table).toList := by
    rw [htext]
    simp [h.whole.nul_not_mem]
  have hscan : scan (Schema.dropSql table).toList =
      .word "DROP" :: .word "TABLE" :: .word "IF" :: .word "EXISTS" :: scan table.toList := by
    rw [htext, scan_keyword rfl, scan_blank_keyword rfl, scan_blank_keyword rfl,
      scan_blank_keyword rfl, h.whole.scan_blank_append separated_nil, scan_nil, List.append_nil]
  exact ⟨_, h.names, tokens_of_scan hnul hscan nofun⟩

theorem countsRecords_countSql (h : IsTable table name) :
    CountsRecords (Seeding.countSql table) name := by
  have htext : (Seeding.countSql table).toList = "SELECT".toList ++ ' ' :: ("COUNT".toList ++
      '(' :: '*' :: ')' :: ' ' :: ("FROM".toList ++ ' ' :: (table.toList ++ []))) := by
    have hhead : "SELECT COUNT(*) FROM ".toList = "SELECT".toList ++ ' ' :: ("COUNT".toList ++
        '(' :: '*' :: ')' :: ' ' :: ("FROM".toList ++ [' '])) := by
      decide
    have hsql : Seeding.countSql table = "SELECT COUNT(*) FROM " ++ table := rfl
    simp only [hsql, String.toList_append, hhead, List.append_assoc, List.cons_append,
      List.nil_append, List.append_nil]
  have hcount (cs : List Char) :
      scan (' ' :: ("COUNT".toList ++ '(' :: '*' :: ')' :: cs)) =
        .word "COUNT" :: .sign "(" :: .sign "*" :: .sign ")" :: scan cs := by
    have hblank : Stops (· == '\x0b') ("COUNT".toList ++ '(' :: '*' :: ')' :: cs) :=
      stops_cons.2 rfl
    have hword : scan ("COUNT".toList ++ '(' :: '*' :: ')' :: cs) =
        .word "COUNT" :: scan ('(' :: '*' :: ')' :: cs) :=
      scan_identifier rfl (stops_cons.2 rfl) (stops_cons.2 rfl)
    have hstar : scan ('*' :: ')' :: cs) = .sign "*" :: scan (')' :: cs) := scan_of_read rfl rfl
    rw [scan_blank hblank, hword, scan_open, hstar, scan_close]
  have hnul : '\x00' ∉ (Seeding.countSql table).toList := by
    rw [htext]
    simp [h.whole.nul_not_mem]
  have hscan : scan (Seeding.countSql table).toList = .word "SELECT" :: .word "COUNT" ::
      .sign "(" :: .sign "*" :: .sign ")" :: .word "FROM" :: scan table.toList := by
    rw [htext, scan_keyword rfl, hcount, scan_blank_keyword rfl,
      h.whole.scan_blank_append separated_nil, scan_nil, List.append_nil]
  exact ⟨_, h.names, tokens_of_scan hnul hscan nofun⟩

/-- The tokens of placeholders with commas between them. -/
theorem scan_placeholders (ns : List Nat) {rest : List Char} (hr : Separated rest) :
    scan ([',', ' '].intercalate (ns.map fun n => (Predicate.placeholder n).toList) ++ rest) =
      [.sign ","].intercalate (ns.map fun n => [.parameter (Predicate.placeholder n)]) ++
        scan rest := by
  induction ns with
  | nil => rfl
  | cons n ns ih =>
    cases ns with
    | nil =>
      simp only [List.map_cons, List.map_nil, List.intercalate_singleton]
      exact scan_placeholder n hr
    | cons k ns =>
      have hblank : Stops (· == '\x0b') ([',', ' '].intercalate
          ((k :: ns).map fun n => (Predicate.placeholder n).toList) ++ rest) := by
        rw [List.map_cons, intercalate_cons_eq_flatMap, toList_placeholder]
        exact stops_cons.2 rfl
      simp only [List.map_cons, List.intercalate_cons_cons, List.append_assoc, List.cons_append,
        List.nil_append] at ih hblank ⊢
      rw [scan_placeholder n (separated_cons.2 rfl), scan_comma, scan_blank hblank, ih]

/-- Names with commas between them, right after a parenthesis. -/
theorem scan_columnList {names : List String} (hn : ∀ name ∈ names, Whole name) {rest : List Char}
    (hr : Separated rest) :
    scan ([',', ' '].intercalate (names.map String.toList) ++ rest) =
      Sentence.nameTokens names ++ scan rest := by
  cases names with
  | nil => rfl
  | cons name names =>
    have hw := hn name List.mem_cons_self
    cases names with
    | nil =>
      simp only [Sentence.nameTokens, List.map_cons, List.map_nil, List.intercalate_singleton]
      exact hw.scan_append hr
    | cons name' names =>
      have hnames : ∀ n ∈ name' :: names, Whole n := fun n h => hn n (List.mem_cons_of_mem _ h)
      have hothers := scan_names hnames hr
      simp only [Sentence.nameTokens, List.map_cons, List.intercalate_cons_cons,
        List.append_assoc, List.cons_append, List.nil_append] at hothers ⊢
      rw [hw.scan_append (separated_cons.2 rfl), scan_comma, hothers]

section Insertion

variable {columns : List String}

theorem toList_insertSql (table : String) (columns : List String) :
    (Seeding.insertSql table columns).toList = "INSERT".toList ++ ' ' ::
      ("INTO".toList ++ ' ' :: (table.toList ++ ' ' :: '(' ::
        ([',', ' '].intercalate (columns.map String.toList) ++ ')' :: ' ' :: ("VALUES".toList ++
          ' ' :: '(' :: ([',', ' '].intercalate ((List.range columns.length).map fun n =>
            (Predicate.placeholder n).toList) ++ [')']))))) := by
  have hinsert : "INSERT INTO ".toList = "INSERT".toList ++ ' ' :: ("INTO".toList ++ [' ']) := by
    decide
  have hvalues : ") VALUES (".toList = ')' :: ' ' :: ("VALUES".toList ++ [' ', '(']) := by
    decide
  have hcomma : ", ".toList = [',', ' '] := by decide
  have hsql : Seeding.insertSql table columns = "INSERT INTO " ++ table ++ " (" ++
      ", ".intercalate columns ++ ") VALUES (" ++
        ", ".intercalate ((List.range columns.length).map Predicate.placeholder) ++ ")" := rfl
  simp only [hsql, String.toList_append, String.toList_intercalate, hinsert, hvalues, hcomma,
    List.map_map, List.append_assoc, List.cons_append, List.nil_append]
  rfl

theorem nul_not_mem_insertSql (htable : Whole table) (hcolumns : ∀ c ∈ columns, Whole c) :
    '\x00' ∉ (Seeding.insertSql table columns).toList := by
  have hnames : '\x00' ∉ [',', ' '].intercalate (columns.map String.toList) :=
    not_mem_intercalate_map (by decide) fun c hc => (hcolumns c hc).nul_not_mem
  have hmarks : '\x00' ∉ [',', ' '].intercalate ((List.range columns.length).map fun n =>
      (Predicate.placeholder n).toList) :=
    not_mem_intercalate_map (by decide) fun n _ => nul_not_mem_placeholder n
  rw [toList_insertSql]
  simp [htable.nul_not_mem, hnames, hmarks]

theorem scan_insertSql (htable : Whole table) (hcolumns : ∀ c ∈ columns, Whole c) :
    scan (Seeding.insertSql table columns).toList = .word "INSERT" :: .word "INTO" ::
      (scan table.toList ++ .sign "(" :: (Sentence.nameTokens columns ++ .sign ")" ::
        .word "VALUES" :: .sign "(" :: ([.sign ","].intercalate ((List.range columns.length).map
          fun n => [.parameter (Predicate.placeholder n)]) ++ [.sign ")"]))) := by
  have hopen (cs : List Char) : scan (' ' :: '(' :: cs) = .sign "(" :: scan cs := by
    rw [scan_blank (stops_cons.2 rfl), scan_open]
  rw [toList_insertSql, scan_keyword rfl, scan_blank_keyword rfl,
    htable.scan_blank_append (separated_cons.2 rfl), hopen,
    scan_columnList hcolumns (separated_cons.2 rfl), scan_close, scan_blank_keyword rfl, hopen,
    scan_placeholders _ (separated_cons.2 rfl), scan_close, scan_nil]

theorem insertsRecord_insertSql (h : IsTable table name) (hcolumns : ∀ c ∈ columns, IsName c) :
    InsertsRecord (Seeding.insertSql table columns) name (columns.map nameOf)
      ((List.range columns.length).map Predicate.placeholder) := by
  have hwhole : ∀ c ∈ columns, Whole c := fun c hc => (hcolumns c hc).whole
  exact ⟨_, _, _, h.names, listed_intercalate fun c hc => (hcolumns c hc).token,
    listed_intercalate fun n _ => ⟨rfl, by rw [toList_placeholder]; rfl⟩,
    tokens_of_scan (nul_not_mem_insertSql h.whole hwhole) (scan_insertSql h.whole hwhole) nofun⟩

end Insertion

end Store

end EntityQuery
