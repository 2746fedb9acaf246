import EntityQuery.Proofs.Creation
import EntityQuery.Proofs.Forms

/-!
# Lawful engines

What is relied on of an engine. A `View` says what stands under a name in a database, what a
transaction has done so far and what is left if it is rolled back, how columns convert what
is stored in them, and how terms are evaluated. The laws of a view (`View.Lawful`) tie it to
what the engine answers:

* the definition of a table makes it, without records, or is refused whatever else there is;
* a table is dropped, its records are counted, or it gets one record more, and the other
  tables stay as they are;
* what a transaction did is there after it was committed, and was never done if it is rolled
  back;
* a statement that asks for columns of a table has a row for each record that its condition
  holds of, in the order in which they are stored where the table is scanned, as many as its
  limit admits; and it refers to the parameters that stand in its text.

The laws are about the forms of statements (`Sql.MakesTable` and the others), whatever wrote
them. Limits on the size of statements and data are admitted (`View.Admits`): within them, what
makes sense is not refused.
-/

namespace EntityQuery

namespace Sql

open Store

/-- A sentence asks for plain columns of a table, which goes by a name. -/
structure Sentence.Asks (s : Sentence) (name : String) (t : Table) : Prop where
  columns_ne_nil : s.columns ≠ []
  columns : ∀ c ∈ s.columns, isColumnName c = true ∧ ∃ d ∈ t.columns, d.name = c
  condition : ∀ u ∈ s.condition,
    u.Rendered fun c => isColumnName c = true ∧ ∃ d ∈ t.columns, d.name = c
  table : NamesMain (scan s.table.toList) name
  apart : t.columns.Pairwise ColumnDefinition.Apart

/-- A statement that consists of the tokens of such a sentence. -/
structure AsksTable (sql : String) (s : Sentence) (name : String) (t : Table) : Prop extends
  s.Asks name t where
  tokens : Sql.tokens sql = s.tokens

end Sql

namespace Store

open Sql (Sentence)

/-- The first of a list, as many as a limit admits. -/
def firsts {α : Type} (limit : Option Nat) (l : List α) : List α :=
  match limit with
  | some n => l.take n
  | none => l

/-- What stands under a name. -/
inductive Entry where
  | absent
  | table (t : Table)
  /-- Something that no definition of a table made. -/
  | other

/-- The table that stands under a name, if one does. -/
def Entry.table? : Entry → Option Table
  | table t => some t
  | absent | other => none

theorem Entry.eq_table {e : Entry} {t : Table} (h : e.table? = some t) : e = .table t := by
  cases e with
  | table => rw [Option.some.inj h]
  | absent | other => cases h

/-- How an engine is looked at. -/
structure View (E : Engine) where
  entry : E.Content → String → Entry
  /-- What a database is for the statements in a transaction. -/
  inside : E.Transaction → E.Content
  /-- What it is if the transaction is rolled back. -/
  outside : E.Transaction → E.Content
  /-- What a column of a type makes of a datum. -/
  store : ColumnType → Datum → Datum
  operators : Operators
  /-- Whether a statement, with the data of its parameters, is within all limits of size. -/
  Admits : String → List Datum → Prop
  /-- Whether a statement visits the records of its table in the order in which they are
      stored. -/
  Scans : String → Table → Prop

namespace View

variable {E : Engine} (V : View E)

/-- What stands under other names is as it was, but for what databases keep for themselves. -/
def Keeps (name : String) (c c' : E.Content) : Prop :=
  ∀ other, Sql.sameName other name = false → Database.isReserved other = false →
    V.entry c' other = V.entry c other

/-- A table stands under a name, and other names are as they were. -/
structure Puts (name : String) (t : Table) (c c' : E.Content) : Prop where
  entry : V.entry c' name = .table t
  others : V.Keeps name c c'

/-- Nothing has a name, or nothing but what databases keep for themselves may have it. -/
def Vacant (name : String) (c : E.Content) : Prop :=
  V.entry c name = .absent ∨ Database.isReserved name = true

/-- A definition is refused where its name is vacant, for one reason. -/
def Refuses (sql name : String) : Prop :=
  ∃ f, ∀ c, V.Vacant name c → E.batch sql c = (.error f, c)

/-- A definition makes its table where nothing has its name, and leaves a table that has. -/
structure Makes (sql : String) (d : TableDefinition) : Prop where
  columns_ne_nil : d.columns ≠ []
  apart : d.columns.Pairwise ColumnDefinition.Apart
  unreserved : Database.isReserved d.name = false
  absent : ∀ c, V.entry c d.name = .absent →
    ∃ c', E.batch sql c = (.ok (), c') ∧ V.Puts d.name (.empty d) c c'
  present : ∀ c t, V.entry c d.name = .table t → E.batch sql c = (.ok (), c)

/-- A statement is refused in every transaction that a table is in, for one reason. -/
def Rejects (sql : String) (ps : List (String × Datum)) (name : String) (t : Table) : Prop :=
  ∃ f, ∀ x, V.entry (V.inside x) name = .table t →
    ∃ x', E.execute sql ps x = (.error f, x') ∧ V.outside x' = V.outside x

/-- In every transaction that a table is in, a statement puts another one in its place. -/
def Extends (sql : String) (ps : List (String × Datum)) (name : String) (t t' : Table) : Prop :=
  ∀ x, V.entry (V.inside x) name = .table t →
    ∃ x', E.execute sql ps x = (.ok (), x') ∧ V.outside x' = V.outside x ∧
      V.Puts name t' (V.inside x) (V.inside x')

/-- What the terms of a statement refer to in a record, and what they are evaluated by. -/
def environment (t : Table) (ps : List (String × Datum)) (r : Record) : Environment :=
  Prepared.environment V.operators t ps r

/-- The rows that a sentence asks for: of the first records that its condition holds of. -/
def rows (s : Sentence) (t : Table) (ps : List (String × Datum)) : List (List Datum) :=
  (firsts s.limit (t.records.filter fun r => s.condition.all (V.environment t ps r).holds)).map
    fun r => s.columns.map fun c => (V.environment t ps r).eval (.column c)

/-- The laws of an engine, as it is looked at. -/
structure Lawful : Prop where
  -- tables that are made and dropped
  fresh : ∀ name, Database.isReserved name = false → V.entry E.fresh name = .absent
  reserved : ∀ c name t, Database.isReserved name = true → V.entry c name ≠ .table t
  make : ∀ {sql ts d}, Sql.MakesTable sql ts d → V.Refuses sql d.name ∨ V.Makes sql d
  makes : ∀ {sql ts d}, Sql.MakesTable sql ts d → d.columns ≠ [] →
    d.columns.Pairwise ColumnDefinition.Apart → Database.isReserved d.name = false →
    Sql.endsIf ts = false → V.Admits sql [] → V.Makes sql d
  drop : ∀ {sql name c}, Sql.DropsTable sql name → V.entry c name ≠ .other →
    ∃ c', E.batch sql c = (.ok (), c') ∧ V.entry c' name = .absent ∧ V.Keeps name c c'
  drop_reserved : ∀ {sql name c}, Sql.DropsTable sql name → Database.isReserved name = true →
    V.entry c name = .other → ∃ f, E.batch sql c = (.error f, c)
  count : ∀ {sql name c t}, Sql.CountsRecords sql name → V.entry c name = .table t →
    E.number sql c = .ok t.records.length
  -- transactions
  begin : ∀ c, ∃ x, E.begin c = .ok x ∧ V.inside x = c ∧ V.outside x = c
  commit : ∀ x, E.commit x = .ok (V.inside x)
  rollback : ∀ x, E.rollback x = V.outside x
  insert : ∀ {sql name columns parameters data} (t : Table),
    Sql.InsertsRecord sql name columns parameters → parameters.Nodup →
    columns.length = parameters.length → data.length = parameters.length →
    V.Rejects sql (parameters.zip data) name t ∨
      columns ≠ [] ∧ (∀ c ∈ columns, (t.place? c).isSome = true) ∧
        ∃ t', t.extend V.store (columns.zip data) = .ok t' ∧
          V.Extends sql (parameters.zip data) name t t'
  inserts : ∀ {sql name columns parameters data t t'},
    Sql.InsertsRecord sql name columns parameters → parameters.Nodup →
    columns.length = parameters.length → data.length = parameters.length →
    columns ≠ [] → (∀ c ∈ columns, (t.place? c).isSome = true) →
    (∀ c ∈ t.columns, c.key ≠ .unique) → t.extend V.store (columns.zip data) = .ok t' →
    V.Admits sql data → V.Extends sql (parameters.zip data) name t t'
  -- statements that ask for rows
  parameters : ∀ {sql c q}, .sign ";" ∉ Sql.tokens sql → E.prepare sql c = .ok q →
    ∀ name, name ∈ q.parameters ↔ .parameter name ∈ Sql.tokens sql
  prepare_congr : ∀ {sql s name t c c'}, Sql.AsksTable sql s name t →
    V.entry c name = .table t → V.entry c' name = .table t → E.prepare sql c = E.prepare sql c'
  prepares : ∀ {sql s name t c data}, Sql.AsksTable sql s name t →
    V.entry c name = .table t → V.Admits sql data → ∃ q, E.prepare sql c = .ok q
  columns : ∀ {sql s name t c q}, Sql.AsksTable sql s name t →
    V.entry c name = .table t → E.prepare sql c = .ok q → q.columns = s.columns
  rows : ∀ {sql s name t c q ps}, Sql.AsksTable sql s name t →
    V.entry c name = .table t → E.prepare sql c = .ok q → V.Scans sql t →
    V.Admits sql (ps.map (·.2)) → q.rows ps = (V.rows s t ps).map .ok
  scans : ∀ {sql s name t}, Sql.AsksTable sql s name t → s.condition = none →
    t.keyIndex?.isSome = true → (∀ c ∈ t.columns, c.key ≠ .unique) → V.Scans sql t
  -- data in columns
  store_null : ∀ t, V.store t .null = .null
  store_integer : ∀ n, V.store .integer (.integer n) = .integer n
  store_real : ∀ x : Binary64, x.isNaN = false →
    ∃ y, V.store .real (.real x) = .real y ∧ y.equals x = true
  store_text : ∀ bytes, V.store .text (.text bytes) = .text bytes
  store_blob : ∀ bytes, V.store .blob (.blob bytes) = .blob bytes
  -- operators
  truth : ∀ b, V.operators.truth (.ofTruth b) = b
  and : ∀ types a b, V.operators.operate .and types a b =
    kleeneAnd (V.operators.truth a) (V.operators.truth b)

end View

end Store

end EntityQuery
