import EntityQuery.Store.Definition
import EntityQuery.Store.Path
import EntityQuery.Store.Prepared

/-!
# Commands

What is asked of a database is a text. `Database.execute` carries out the statements of
a text one after the other, up to the first that is refused, and what was done before
remains: those that make and drop tables, insert records and delete them. `Database.number`
counts, and `Database.query` prepares a statement that asks for rows.

`Database.engine` is the engine that databases are for the layer around them.
-/

namespace EntityQuery.Store

namespace Database

/-- The datum of a value in a list of values. -/
def valueOf (parameters : List (String × Datum)) (t : Sql.Term) : Datum :=
  (Environment.mk (fun _ => none) (Prepared.parameter parameters) .standard).eval t

/-- Reads the lists of values that follow, and what is left. -/
def readRows : (fuel : Nat) → List Sql.Token → List (List Sql.Term) × List Sql.Token
  | 0, ts => ([], ts)
  | n + 1, .sign "(" :: ts =>
    match Sql.Select.readItems (ts.length + 1) ts with
    | some (items, .sign ")" :: rest) =>
      let row := items.filterMap (·.term?)
      match rest with
      | .sign "," :: rest =>
        let (rows, rest) := readRows n rest
        (row :: rows, rest)
      | rest => ([row], rest)
    | _ => ([], .sign "(" :: ts)
  | _ + 1, ts => ([], ts)

/-- Reads the names of columns in parentheses, if they come next. -/
def readColumns (ts : List Sql.Token) : Option (List String) × List Sql.Token :=
  match ts with
  | .sign "(" :: rest =>
    (some ((rest.takeWhile (· != .sign ")")).filterMap (·.anyName?)),
      (rest.dropWhile (· != .sign ")")).drop 1)
  | ts => (none, ts)

/-- Inserts a list of values. -/
def insertRow (name : Sql.TableName) (columns : Option (List String))
    (parameters : List (String × Datum)) (row : List Sql.Term) (db : Database) :
    Except Fault Database := do
  let t ← db.changed name
  checkColumns name t (columns.getD [])
  match columns with
  | some columns =>
    if columns.length ≠ row.length then throw (.valueCount row.length columns.length)
  | none =>
    if t.columns.length ≠ row.length then
      throw (.tableValueCount name.text t.columns.length row.length)
  let columns := columns.getD (t.columns.map (·.name))
  db.insert name (columns.zip (row.map (valueOf parameters)))

/-- Carries out a statement that inserts lists of values, of which the tokens after the
    word `INTO` are given. -/
def insertTokens (sql : String) (ts : List Sql.Token) (parameters : List (String × Datum))
    (db : Database) : Except Fault Database :=
  match Sql.Select.readTableName ts with
  | none => .error (.unsupported sql)
  | some (name, ts) =>
    let (columns, ts) := readColumns ts
    match ts with
    | t :: ts =>
      match t.isWord "values", readRows (ts.length + 1) ts with
      | true, (row :: rows, rest) =>
        if Sql.Select.atEnd rest then
          (row :: rows).foldlM (fun db row => db.insertRow name columns parameters row) db
        else .error (.unsupported sql)
      | _, _ => .error (.unsupported sql)
    | [] => .error (.unsupported sql)

/-- Carries out a statement that drops a table, of which the tokens after the word
    `TABLE` are given. -/
def dropTokens (sql : String) (ts : List Sql.Token) (db : Database) : Except Fault Database :=
  let ifPresent := Definition.startsWith ["if", "exists"] ts
  match Sql.Select.readTableName (if ifPresent then ts.drop 2 else ts) with
  | none => .error (.unsupported sql)
  | some (name, _) =>
    if !ifPresent && (db.table? name).isNone then .error (.noSuchTable name.text)
    else db.drop name

/-- Carries out a statement that deletes the records of a table that meet a condition,
    or all of them, of which the tokens after the word `FROM` are given. -/
def deleteTokens (sql : String) (ts : List Sql.Token) (db : Database) :
    Except Fault Database := do
  let some (name, ts) := Sql.Select.readTableName ts | throw (.unsupported sql)
  let t ← db.changed name
  let some (condition, ts) := Sql.Select.readAfter "where" Sql.Term.parse ts
    | throw (.unsupported sql)
  if !Sql.Select.atEnd ts then throw (.unsupported sql)
  checkReferences sql (some (⟨name, none⟩, t)) (clauses sql).2 condition.toList
  let meets (r : Record) : Bool := condition.all (Prepared.environment .standard t [] r).holds
  return db.replace { t with records := t.records.filter (!meets ·) }

/-- Carries out a single statement. -/
def executeOne (sql : String) (ls : List Sql.Lexeme) (parameters : List (String × Datum))
    (db : Database) : Except Fault Database :=
  let ts := ls.map (·.token)
  match Sql.recognise ts with
  | .error n =>
    if Definition.startsWith ["create"] ts then Definition.make sql ls (some n) db
    else .error (syntaxFault sql n)
  | .ok _ =>
    if Definition.startsWith ["create"] ts then Definition.make sql ls none db
    else if Definition.startsWith ["drop", "table"] ts then db.dropTokens sql (ts.drop 2)
    else if Definition.startsWith ["insert", "into"] ts then
      db.insertTokens sql (ts.drop 2) parameters
    else if Definition.startsWith ["delete", "from"] ts then db.deleteTokens sql (ts.drop 2)
    else (db.prepare sql).map fun _ => db

/-- Carries out the statements of a text, of which there are at most so many, up to the
    first that is refused. -/
def executeAll : (fuel : Nat) → (sql : String) → Database → Except Fault Unit × Database
  | 0, _, db => (.ok (), db)
  | n + 1, sql, db =>
    match Sql.lexemes sql with
    | [] => (.ok (), db)
    | ls =>
      match db.executeOne sql ls [] with
      | .error f => (.error f, db)
      | .ok db =>
        match ls.dropWhile (·.token != .sign ";") with
        | l :: _ => executeAll n (l.after sql) db
        | [] => (.ok (), db)

/-- Carries out the statements of a text. -/
def execute (sql : String) (db : Database) : Except Fault Unit × Database :=
  executeAll (sql.length + 1) sql db

/-- How many rows a statement counts. -/
def number (sql : String) (db : Database) : Except Fault Int := do
  checkSyntax sql
  match Sql.Select.ofTokens? (.word "SELECT" :: .sign "*" :: (Sql.tokens sql).drop 5) with
  | some s => return ((← db.resolve sql s).run []).length
  | none => throw (db.refusal sql)

/-- What a text asks for. Nothing comes of a text without a statement. -/
def query (sql : String) (db : Database) : Except Fault Query :=
  if (Sql.tokens sql).isEmpty then .ok ⟨[], [], fun _ => [.error .nothing]⟩
  else (db.prepare sql).map fun p =>
    ⟨p.select.parameters, p.columnNames, fun parameters => (p.run parameters).map .ok⟩

/-- Carries out a single statement whose parameters are given; it refers to all of them. -/
def executeWith (sql : String) (parameters : List (String × Datum)) (db : Database) :
    Except Fault Database := do
  let db ← db.executeOne sql (Sql.lexemes sql) parameters
  match parameters.find? fun p => !(Sql.tokens sql).contains (.parameter p.1) with
  | some p => throw (.stated ("Invalid parameter name: " ++ p.1))
  | none => return db

end Database

/-- A database in a transaction: as it was, and as it will be. -/
structure Pending where
  before : Database
  after : Database

namespace Pending

/-- Carries out a statement; one that is refused changes nothing. -/
def execute (sql : String) (parameters : List (String × Datum)) (p : Pending) :
    Except Fault Unit × Pending :=
  match p.after.executeWith sql parameters with
  | .error f => (.error f, p)
  | .ok after => (.ok (), { p with after })

end Pending

/-- The engine of databases in memory. -/
@[reducible] def Database.engine : Engine where
  Content := Database
  Transaction := Pending
  fresh := []
  locate := Path.locate
  batch := Database.execute
  number := Database.number
  prepare := Database.query
  begin db := .ok ⟨db, db⟩
  execute := Pending.execute
  commit p := .ok p.after
  rollback := Pending.before

end EntityQuery.Store
