import EntityQuery.Store.Database

/-!
# Definitions read from statements

The statement that makes a table is read clause by clause: a column with its type, or
what it says of a key. Each `Clause` takes effect at the token after it
(`Clause.after`). So, of a clause that is refused and a later token that does not
fit, the clause is the fault. `Definition.make` carries out the clauses up to the
first fault of the text, then checks the words after the columns.

A type is any number of words, of which parts of words decide
(`ColumnType.ofDeclared`). Only the type `INTEGER` itself makes a key the number of
the record. A definition has to make sense again from the name of the table on, since
that is what a database keeps of it (`Definition.checkKept`).
-/

namespace EntityQuery.Store

/-- Whether a text has another in it. -/
def hasPart (s part : String) : Bool :=
  (List.range (s.length + 1)).any fun n => part.toList.isPrefixOf (s.toList.drop n)

/-- The type that a declaration stands for. -/
def ColumnType.ofDeclared (declared : String) : ColumnType :=
  let s := Sql.folded declared
  if s.isEmpty then .untyped
  else if hasPart s "int" then .integer
  else if hasPart s "char" || hasPart s "clob" || hasPart s "text" then .text
  else if hasPart s "blob" then .blob
  else if hasPart s "real" || hasPart s "floa" || hasPart s "doub" then .real
  else .integer

/-- A part of the definition of a table. -/
inductive ClauseKind where
  | column (name declared : String)
  /-- The last column is the key; the keys may be counted, or in descending order. -/
  | key (counting descending : Bool)
  | unique
  /-- The texts of the last column are compared by a rule of the given name. -/
  | collation (name : String)
  /-- Columns are the key together. -/
  | tableKey (columns : List String)
  | tableUnique (columns : List String)

/-- A part of the definition of a table, and the number of tokens before the first
    after it. -/
structure Clause where
  kind : ClauseKind
  after : Nat

/-- The beginning of a statement that makes a table. -/
structure DefinitionHead where
  ifAbsent : Bool
  name : Sql.TableName
  /-- The number of tokens before the name. -/
  nameAt : Nat
  /-- The number of tokens before the first after the name. -/
  after : Nat

/-- The columns of a definition so far, each with whether its type is that of integer
    keys, and whether there is a key. -/
structure Draft where
  columns : List (ColumnDefinition × Bool)
  hasKey : Bool

/-- A lexeme with the number of those before it. -/
abbrev Numbered := Sql.Lexeme × Nat

namespace Definition

/-- Whether tokens start with words. -/
def startsWith (words : List String) (ts : List Sql.Token) : Bool :=
  words.length ≤ ts.length && (words.zip ts).all fun (w, t) => t.isWord w

/-- Reads the beginning of a statement that makes a table. -/
def readHead? (ts : List Sql.Token) : Option DefinitionHead :=
  let ifAbsent := startsWith ["create", "table", "if", "not", "exists"] ts
  let nameAt := if ifAbsent then 5 else 2
  if startsWith ["create", "table"] ts then
    (Sql.Select.readTableName (ts.drop nameAt)).map fun (name, rest) =>
      ⟨ifAbsent, name, nameAt, ts.length - rest.length⟩
  else none

/-- The lexemes in parentheses of which so many are open, split at the commas outside
    of further ones; each part with the number of lexemes before its end. -/
def parts : (depth : Nat) → List Numbered → List Numbered → List (List Numbered × Nat)
  | _, part, [] => [(part.reverse, part.head?.elim 0 (·.2 + 1))]
  | depth, part, (l, i) :: ls =>
    if l.token == .sign "(" then parts (depth + 1) ((l, i) :: part) ls
    else if l.token == .sign ")" then
      if depth = 0 then [(part.reverse, i)] else parts (depth - 1) ((l, i) :: part) ls
    else if l.token == .sign "," && depth = 0 then (part.reverse, i) :: parts 0 [] ls
    else parts depth ((l, i) :: part) ls

/-- The lexemes after those in parentheses of which so many are open. -/
def afterParentheses : (depth : Nat) → List Numbered → List Numbered
  | _, [] => []
  | depth, (l, i) :: ls =>
    if l.token == .sign "(" then afterParentheses (depth + 1) ls
    else if l.token == .sign ")" then if depth ≤ 1 then ls else afterParentheses (depth - 1) ls
    else if depth = 0 then (l, i) :: ls
    else afterParentheses depth ls

/-- Where lexemes start, if there are any. -/
def placeOf (ls : List Numbered) (stop : Nat) : Nat := ls.head?.elim stop (·.2)

/-- The lexemes after a word, if they start with it. -/
def afterWord? (w : String) : List Numbered → Option (List Numbered)
  | (l, _) :: ls => if l.token.isWord w then some ls else none
  | [] => none

/-- The lexemes after an optional word. -/
def passWord (w : String) (ls : List Numbered) : List Numbered := (afterWord? w ls).getD ls

/-- The clause on a key that follows the words for one. -/
def keyClause (ls : List Numbered) (stop : Nat) : Clause :=
  let descending := (afterWord? "desc" ls).isSome
  let ls := passWord "desc" (passWord "asc" ls)
  let ls := match afterWord? "on" ls with
    | some rest => rest.drop 2
    | none => ls
  let counting := (afterWord? "autoincrement" ls).isSome
  ⟨.key counting descending, placeOf (passWord "autoincrement" ls) stop⟩

/-- The clauses that say of a column that it is a key, that no value occurs twice, or how
    its texts are compared. -/
def columnClauses (stop : Nat) : (depth : Nat) → List Numbered → List Clause
  | _, [] => []
  | depth, (l, _) :: ls =>
    if l.token == .sign "(" then columnClauses stop (depth + 1) ls
    else if l.token == .sign ")" then columnClauses stop (depth - 1) ls
    else if depth = 0 && l.token.isWord "primary" then
      keyClause (ls.drop 1) stop :: columnClauses stop depth ls
    else if depth = 0 && l.token.isWord "unique" then
      ⟨.unique, placeOf ls stop⟩ :: columnClauses stop depth ls
    else if depth = 0 && l.token.isWord "collate" then
      match ls.head?.bind (·.1.token.anyName?) with
      | some name => ⟨.collation name, placeOf (ls.drop 1) stop⟩ :: columnClauses stop depth ls
      | none => columnClauses stop depth ls
    else columnClauses stop depth ls

/-- Whether a token may be a word of a type. -/
def isTypeWord (t : Sql.Token) : Bool := Sql.Symbol.label.fitToken t != .none

/-- The names in parentheses that come next. -/
def namesIn (ls : List Numbered) : List String :=
  (ls.takeWhile fun l => l.1.token != .sign ")").filterMap fun l => l.1.token.anyName?

/-- The clauses of a rule for the whole table, or of a column. -/
def clausesOf (part : List Numbered) (stop : Nat) : List Clause :=
  match part with
  | [] => []
  | (l, _) :: ls =>
    match afterWord? "primary" part, afterWord? "unique" part, l.token.anyName? with
    | some rest, _, _ => [⟨.tableKey (namesIn rest), stop⟩]
    | none, some rest, _ => [⟨.tableUnique (namesIn rest), stop⟩]
    | none, none, none => []
    | none, none, some name =>
      let words := ls.takeWhile fun w => isTypeWord w.1.token
      let rest := ls.drop words.length
      let after := if words.isEmpty then rest else afterParentheses 0 rest
      let declared := " ".intercalate (words.map fun w => w.1.text)
      ⟨.column name declared, placeOf after stop⟩ :: columnClauses stop 0 after

/-- The rules by which texts may be compared. -/
def collations : List String := ["binary", "nocase", "rtrim"]

/-- The column with another role. -/
def withRole (key : KeyRole) : ColumnDefinition × Bool → ColumnDefinition × Bool
  | (c, whole) => ({ c with key }, whole)

/-- The draft with another role for the columns of a name. -/
def giveRole (d : Draft) (name : String) (key : KeyRole) : Draft :=
  { d with columns := d.columns.map fun c =>
      if Sql.sameName c.1.name name then withRole key c else c }

/-- What a clause makes of a draft of the definition of a table. -/
def extend (table : String) (d : Draft) : ClauseKind → Except Fault Draft
  | .column name declared =>
    if TableDefinition.hasColumn (d.columns.map (·.1)) name then .error (.repeatedColumn name)
    else
      let column := ⟨name, .ofDeclared declared, .plain⟩
      .ok { d with columns := d.columns ++ [(column, Sql.sameName declared "integer")] }
  | .key counting descending =>
    match d.columns.getLast? with
    | none => .ok d
    | some (c, whole) =>
      if d.hasKey then .error (.severalKeys table)
      else if whole && !descending then
        .ok { giveRole d c.name .numbering with hasKey := true }
      else if counting then .error .countingMisused
      else .ok { giveRole d c.name .unique with hasKey := true }
  | .unique =>
    match d.columns.getLast? with
    | some (c, _) => .ok (if c.isKey then d else giveRole d c.name .unique)
    | none => .ok d
  | .collation name =>
    if collations.contains (Sql.folded name) then .ok d else .error (.noCollation name)
  | .tableKey columns =>
    if d.hasKey then .error (.severalKeys table)
    else
      let d := { d with hasKey := true }
      match columns with
      | [name] =>
        let whole := d.columns.any fun c => c.2 && Sql.sameName c.1.name name
        .ok (giveRole d name (if whole then .numbering else .unique))
      | _ => .ok d
  | .tableUnique columns =>
    match columns with
    | [name] =>
      let isKey := d.columns.any fun c => c.1.isKey && Sql.sameName c.1.name name
      .ok (if isKey then d else giveRole d name .unique)
    | _ => .ok d

/-- What clauses make of a draft, up to the first that is refused. -/
def extendAll (table : String) (d : Draft) : List Clause → Except Fault Draft
  | [] => .ok d
  | c :: cs =>
    match extend table d c.kind with
    | .error f => .error f
    | .ok d => extendAll table d cs

/-- The clauses after the beginning of a statement. -/
def clauses (ls : List Numbered) : List Clause :=
  match ls with
  | (l, _) :: ls =>
    if l.token == .sign "(" then (parts 0 [] ls).flatMap fun (part, stop) => clausesOf part stop
    else []
  | [] => []

/-- Whether what takes effect after so many tokens does so before the first fault. -/
def precedes (n : Nat) (faultAt : Option Nat) : Bool := faultAt.all (n < ·)

/-- Checks the words after the columns of a table, of which those count that take effect
    before the first fault. -/
def checkOptions (faultAt : Option Nat) : List Numbered → Except Fault Unit
  | [] => .ok ()
  | (l, i) :: ls =>
    let known := l.token.anyName?.any fun w => ["rowid", "strict"].contains (Sql.folded w)
    if known || l.token == .sign "," || l.token.isWord "without" then checkOptions faultAt ls
    else if l.token != .sign ";" && precedes (i + 1) faultAt then .error (.unknownOption l.text)
    else .ok ()

/-- What is wrong with the name of a new table, which a statement gives at a place. -/
def checkName (sql : String) (ls : List Sql.Lexeme) (head : DefinitionHead) (db : Database) :
    Except Fault Unit := do
  let place := ((ls[head.nameAt]?).map (·.offset sql)).getD 0
  if let some database := head.name.database then
    unless ["main", "temp"].contains (Sql.folded database) do
      let text := ((ls[head.nameAt]?).map (·.text)).getD database
      throw (.unknownDatabase text sql place)
  if Database.isReserved head.name.name then throw (.reservedName head.name.name)
  if !head.ifAbsent && (db.table? head.name).isSome then
    throw (.tableExists head.name.name sql place)

/-- Checks that a definition can be read again from the name on, which is how the
    database keeps it: `IF` would go on there with the words of a condition. -/
def checkKept (ls : List Sql.Lexeme) (head : DefinitionHead) : Except Fault Unit :=
  match ls.drop (head.after - 1) with
  | name :: next :: _ =>
    if name.token.isWord "if" then .error (.malformedSchema head.name.name next.text) else .ok ()
  | _ => .ok ()

/-- Makes the table that a statement defines, whose first fault comes after so many
    tokens, if it has one. A table of a connection's own does not outlast it. -/
def make (sql : String) (ls : List Sql.Lexeme) (faultAt : Option Nat) (db : Database) :
    Except Fault Database := do
  let checkText : Except Fault Unit :=
    match faultAt with
    | some n => .error (syntaxFault sql n)
    | none => .ok ()
  let some head := readHead? (ls.map (·.token)) | do
    checkText
    return db
  unless precedes head.after faultAt do checkText
  checkName sql ls head db
  let body := ls.zipIdx.drop head.after
  let options := if body.head?.any (·.1.token == .sign "(") then afterParentheses 0 body else []
  if (db.table? head.name).isSome then
    checkOptions faultAt options
    checkText
    return db
  let cs := (clauses body).filter fun c => precedes c.after faultAt
  let d ← extendAll head.name.name ⟨[], false⟩ cs
  checkOptions faultAt options
  checkText
  checkKept ls head
  if Database.isMain head.name.database then return db.add ⟨head.name.name, d.columns.map (·.1)⟩
  return db

end Definition

end EntityQuery.Store
