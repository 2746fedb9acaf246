import EntityQuery.Store.Access
import EntityQuery.Store.Database
import EntityQuery.Store.Evaluation

/-!
# Prepared statements

Rows are asked for by the text of a statement. `Database.prepare` reads it and
finds its table and columns, and `Prepared.run` gives the data of the result: for
the records of the table in the order in which they are visited, those for which
the condition holds, as many as the limit admits. Without a table there is one row.
-/

namespace EntityQuery.Sql

/-- A column that a term refers to, with what it belongs to. -/
structure Reference where
  owners : List String
  name : String
  deriving DecidableEq, Repr

/-- A reference in messages. -/
def Reference.text (r : Reference) : String := ".".intercalate (r.owners ++ [r.name])

namespace Term

/-- The columns that a term has to refer to, in the order in which they are looked for:
    those of a pattern before those of the text. -/
def references : Term → List Reference
  | .column name => [⟨[], name⟩]
  | .member owners name => [⟨owners, name⟩]
  | .binary _ l r => l.references ++ r.references
  | .like t p => p.references ++ t.references
  | .castText t => t.references
  | .row t u => t.references ++ u.references
  | .columnOrText _ | .parameter _ | .integer _ | .decimal _ | .text _ | .null => []

/-- The names in a term that may stand for columns. -/
def names : Term → List String
  | .column name | .columnOrText name | .member _ name => [name]
  | .binary _ l r => l.names ++ r.names
  | .like t p => t.names ++ p.names
  | .castText t => t.names
  | .row t u => t.names ++ u.names
  | .parameter _ | .integer _ | .decimal _ | .text _ | .null => []

/-- How deeply the parts of a term are nested. -/
def depth : Term → Nat
  | .binary _ l r => max l.depth r.depth + 1
  | .like t p => max t.depth p.depth + 1
  | .castText t => t.depth + 1
  | .row t u => max t.depth u.depth + 1
  | _ => 1

end Term

/-- The text from a place on up to another, without blanks around it. -/
def between (start stop : List Char) : String :=
  let blank (c : Char) : Bool := Token.isSpace c || c == '\x0b'
  String.ofList
    ((((Token.before start stop).dropWhile blank).reverse.dropWhile blank).reverse)

/-- The words after which no operand starts, although they are reserved. -/
def namingWords : List String := ["as", "collate", "null"]

/-- The operators that are words, and not reserved. -/
def operatorWords : List String := ["glob", "like", "match", "regexp"]

/-- Whether no operand starts after a token. -/
def Token.endsOperand : Token → Bool
  | .word s =>
    namingWords.contains (folded s) || !(isReserved s || operatorWords.contains (folded s))
  | .sign s => s == ")" || s == "."
  | _ => true

/-- The columns to which tokens refer, with the lexemes where they do, given the token
    before. -/
def referencesIn (previous : Token) : List Lexeme → List (Reference × Lexeme)
  | [] => []
  | l :: ls =>
    let tokens := ls.map (·.token)
    let here :=
      if previous.endsOperand || tokens.head? == some (.sign "(") then []
      else ((Term.readMembers l.token tokens).map fun read => read.1.references).getD []
    here.map (fun r => (r, l)) ++ referencesIn l.token ls

/-- The texts of the items of a selection, of which the first starts at a place. -/
def itemTexts : (depth : Nat) → (start : List Char) → List Lexeme → List String
  | _, start, [] => [between start []]
  | depth, start, l :: ls =>
    if depth = 0 && (l.token.isWord "from" || l.token == .sign ";") then [between start l.start]
    else if depth = 0 && l.token == .sign "," then
      between start l.start :: itemTexts 0 ((ls.head?.map (·.start)).getD []) ls
    else if l.token == .sign "(" then itemTexts (depth + 1) start ls
    else if l.token == .sign ")" then itemTexts (depth - 1) start ls
    else itemTexts depth start ls

end EntityQuery.Sql

namespace EntityQuery.Store

/-- A statement whose table was found. -/
structure Prepared where
  select : Sql.Select
  table : Option Table
  /-- The texts of the items. -/
  texts : List String

/-- The greatest depth of a term. -/
def greatestDepth : Nat := 1000

/-- The first table that a statement draws on, by its tokens. -/
def firstTable? (ts : List Sql.Token) : Option (Sql.TableName × List Sql.Token) :=
  match (ts.takeWhile (· != .sign ";")).dropWhile (!·.isWord "from") with
  | _ :: ts => Sql.Select.readTableName (ts.dropWhile (· == .sign "("))
  | [] => none

namespace Database

/-- Whether the names before a column are those of the table that rows come from. -/
def owns (s : Sql.Source) : List String → Bool
  | [] => true
  | [table] => Sql.sameName table (s.name.getD s.table.name)
  | [database, table] =>
    isMain (some database) && s.name.isNone && Sql.sameName table s.table.name
  | _ => false

/-- Checks that there is a table of which an item asks for all columns. -/
def checkItem (source : Option Sql.Source) : Sql.SelectItem → Except Fault Unit
  | .all none => if source.isNone then .error .noTables else .ok ()
  | .all (some owner) =>
    if source.any (owns · [owner]) then .ok () else .error (.noSuchTable owner)
  | .term .. => .ok ()

/-- Whether a reference leads to a column. -/
def leads (source : Option (Sql.Source × Table)) (r : Sql.Reference) : Bool :=
  match source with
  | some (s, t) =>
    (owns s r.owners && (t.place? r.name).isSome) ||
      (r.owners.isEmpty && (truthOfWord? r.name).isSome)
  | none => r.owners.isEmpty && (truthOfWord? r.name).isSome

/-- The parts of a statement that refer to columns: its items, and its condition. -/
def clauses (sql : String) : List Sql.Lexeme × List Sql.Lexeme :=
  let ls := (Sql.lexemes sql).takeWhile (·.token != .sign ";")
  let isFrom (l : Sql.Lexeme) : Bool := l.token.isWord "from"
  (ls.takeWhile (!isFrom ·),
    ((ls.dropWhile (!isFrom ·)).dropWhile (!·.token.isWord "where")).drop 1)

/-- The fault of the first reference of a statement that leads nowhere, if there is
    one. -/
def lostReference? (sql : String) (source : Option (Sql.Source × Table)) : Option Fault :=
  let (items, condition) := clauses sql
  let start : Sql.Token := .sign ";"
  let references := Sql.referencesIn start items ++ Sql.referencesIn start condition
  (references.find? fun r => !leads source r.1).map fun (r, l) =>
    .noSuchColumn r.text sql (l.offset sql)

/-- Checks that the references of terms lead somewhere, which are in the given part of
    a statement. -/
def checkReferences (sql : String) (source : Option (Sql.Source × Table))
    (part : List Sql.Lexeme) (ts : List Sql.Term) : Except Fault Unit :=
  match (ts.flatMap (·.references)).find? (!leads source ·) with
  | none => .ok ()
  | some r =>
    let place := (Sql.referencesIn (.sign ";") part).find? (·.1 == r)
    .error (.noSuchColumn r.text sql ((place.map (·.2.offset sql)).getD 0))

/-- Why a statement that is no plain selection is refused: for a table or a column that
    is not there, or else because it asks for more than this store does. -/
def refusal (sql : String) (db : Database) : Fault :=
  match firstTable? (Sql.tokens sql) with
  | some (name, rest) =>
    match db.table? name with
    | none => .noSuchTable name.text
    | some t =>
      if rest.head? = some (.sign "(") then .noFunction name.name
      else (lostReference? sql (some (⟨name, none⟩, t))).getD (.unsupported sql)
  | none => (lostReference? sql none).getD (.unsupported sql)

/-- Finds the table and the columns of a selection that was read from a statement. -/
def resolve (sql : String) (select : Sql.Select) (db : Database) : Except Fault Prepared := do
  if select.terms.any fun t => greatestDepth < t.depth then throw .tooDeep
  let source ← match select.source with
    | none => pure none
    | some s =>
      match db.table? s.table with
      | some t => pure (some (s, t))
      | none => throw (.noSuchTable s.table.text)
  for item in select.items do checkItem (source.map (·.1)) item
  let (items, condition) := clauses sql
  checkReferences sql source items (select.items.filterMap (·.term?))
  checkReferences sql source condition select.condition.toList
  if select.terms.any (·.hasRow) then throw .rowMisused
  let ls := (Sql.lexemes sql).drop 1
  return ⟨select, source.map (·.2), Sql.itemTexts 0 ((ls.head?.map (·.start)).getD []) ls⟩

/-- Reads a statement that asks for rows, and finds its table and columns. -/
def prepare (sql : String) (db : Database) : Except Fault Prepared := do
  if (Sql.tokens sql).isEmpty then throw .nothing
  checkSyntax sql
  match Sql.Select.parse? sql with
  | some select => db.resolve sql select
  | none => throw (db.refusal sql)

end Database

namespace Prepared

/-- The columns of the table. -/
def columns (p : Prepared) : List ColumnDefinition := (p.table.map (·.columns)).getD []

/-- What a column of the table is called in the result. -/
def columnName? (p : Prepared) (name : String) : Option String :=
  p.table.bind fun t =>
    match t.place? name with
    | some .number => some t.numberName
    | some (.column i) => t.columns[i]?.map (·.name)
    | none => none

/-- The name of a column of the result: what the item is called, or else the name
    of its column in the table, or else its text. -/
def itemName (p : Prepared) (text : String) (term : Sql.Term) (name : Option String) : String :=
  match name, term with
  | some name, _ => name
  | none, .column name | none, .columnOrText name | none, .member _ name =>
    (p.columnName? name).getD text
  | none, _ => text

/-- The terms of the result, with their names. -/
def items (p : Prepared) : List (Sql.Term × String) :=
  (p.select.items.zip p.texts).flatMap fun (item, text) =>
    match item with
    | .all _ => p.columns.map fun c => (.column c.name, c.name)
    | .term term name => [(term, p.itemName text term name)]

/-- The names of the columns of the result. -/
def columnNames (p : Prepared) : List String := p.items.map (·.2)

/-- The datum of a parameter: of several with a name the last counts, and one that
    is not given is null. -/
def parameter (parameters : List (String × Datum)) (name : String) : Datum :=
  match parameters.reverse.find? (·.1 == name) with
  | some (_, d) => d
  | none => .null

/-- What the terms refer to in a record, and what they are evaluated by. -/
def environment (operators : Operators) (t : Table) (parameters : List (String × Datum))
    (r : Record) : Environment :=
  ⟨t.column? r, parameter parameters, operators⟩

/-- The conditions that all have to hold. -/
def conditions (p : Prepared) : List Sql.Term := (p.select.condition.map (·.conjuncts)).getD []

/-- The passes in which the records of the table are visited. -/
def passes (p : Prepared) (t : Table) : List Pass :=
  let used := (p.items.map (·.1) ++ p.conditions).flatMap (·.names)
  (Outlook.mk t (used.filterMap t.place?)).passes (Outlook.depth p.conditions) p.conditions

/-- The records that the statement draws on, in the order in which they are visited. -/
def visited (p : Prepared) (t : Table) (parameters : List (String × Datum)) : List Record :=
  t.visit (fun r condition => (environment .standard t parameters r).holds condition)
    (p.passes t)

/-- What the terms refer to in each row that the statement draws on. -/
def environments (p : Prepared) (parameters : List (String × Datum)) : List Environment :=
  match p.table with
  | none => [⟨fun _ => none, parameter parameters, .standard⟩]
  | some t => (p.visited t parameters).map (environment .standard t parameters)

/-- The data of the result, row by row. -/
def run (p : Prepared) (parameters : List (String × Datum)) : List (List Datum) :=
  let kept := (p.environments parameters).filter fun env => p.select.condition.all env.holds
  let taken := match p.select.limit with
    | some n => kept.take n
    | none => kept
  taken.map fun env => p.items.map fun item => env.eval item.1

end Prepared

end EntityQuery.Store
