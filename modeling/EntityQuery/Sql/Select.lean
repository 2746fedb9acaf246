import EntityQuery.Sql.Term
import EntityQuery.Sql.Token

/-!
# Selecting statements

A `Select` is a statement that asks for rows: the items, the table if there is
one, the condition on its rows and their greatest number. `Select.parse?` reads one
from a text. It does not read every statement that the grammar has
(`Sql.recognise`): of the operators only those of terms, and of the tables one.

A term is read by the strength of its operators: comparisons of order bind
tightest, then those of equality and with a pattern, then `AND`, then `OR`. An
operator on the left of another of its own strength is applied first.
-/

namespace EntityQuery.Sql

/-- A selected item. -/
inductive SelectItem where
  /-- All columns, of the table or of one that is named. -/
  | all (owner : Option String)
  /-- A term, and the name it is given. -/
  | term (term : Term) (name : Option String)
  deriving DecidableEq, Repr

/-- The term of an item, if it is one. -/
def SelectItem.term? : SelectItem → Option Term
  | .all _ => none
  | .term t _ => some t

/-- The name of a table, with the name of the database that it is in. -/
structure TableName where
  database : Option String
  name : String
  deriving DecidableEq, Repr

namespace TableName

/-- The name as it is written in messages. -/
def text (t : TableName) : String :=
  match t.database with
  | some database => database ++ "." ++ t.name
  | none => t.name

end TableName

/-- A table that rows come from, and the name it is given. -/
structure Source where
  table : TableName
  name : Option String
  deriving DecidableEq, Repr

/-- A statement that asks for rows. -/
structure Select where
  items : List SelectItem
  source : Option Source
  condition : Option Term
  limit : Option Nat
  deriving DecidableEq, Repr

/-- What a reader gives: something and the tokens left. -/
abbrev Read (α : Type) := Option (α × List Token)

/-- The strength of an operator, and what it makes of two terms. -/
def Token.operator? (t : Token) : Option (Nat × (Term → Term → Term)) :=
  match t with
  | .sign "<" => some (4, .binary .lt)
  | .sign "<=" => some (4, .binary .le)
  | .sign ">" => some (4, .binary .gt)
  | .sign ">=" => some (4, .binary .ge)
  | .sign "=" => some (3, .binary .eq)
  | .sign "==" => some (3, .binary .eq)
  | .sign "<>" => some (3, .binary .ne)
  | .sign "!=" => some (3, .binary .ne)
  | t =>
    if t.isWord "like" then some (3, .like)
    else if t.isWord "and" then some (2, .binary .and)
    else if t.isWord "or" then some (1, .binary .or)
    else none

/-- The words that are no columns, although they are names elsewhere: those that
    start a term, and those of the time. -/
def termWords : List String :=
  ["cast", "raise", "current_date", "current_time", "current_timestamp"]

namespace Term

/-- The column that a token names where a term is expected. -/
def ofName? : Token → Option Term
  | .quoted '"' s => some (.columnOrText s)
  | .word s => if isReserved s || termWords.contains (folded s) then none else some (.column s)
  | t => t.name?.map .column

/-- Reads the names after points, of which there are two at most. -/
def readMembers (t : Token) : List Token → Read Term
  | .sign "." :: u :: .sign "." :: v :: ts =>
    match t.anyName?, u.anyName?, v.anyName? with
    | some a, some b, some c => some (.member [a, b] c, ts)
    | _, _, _ => none
  | .sign "." :: u :: ts =>
    match t.anyName?, u.anyName? with
    | some a, some b => some (.member [a] b, ts)
    | _, _ => none
  | ts =>
    match t with
    | .text s => some (.text s, ts)
    | t => (ofName? t).map fun term => (term, ts)

mutual

/-- Reads a term whose operators have at least the given strength. -/
def read : (fuel strength : Nat) → List Token → Read Term
  | 0, _, _ => none
  | n + 1, strength, ts =>
    match readOperand n ts with
    | none => none
    | some (left, ts) => readOperators n strength left ts

/-- Reads the operators of at least the given strength that follow a term. -/
def readOperators : (fuel strength : Nat) → Term → List Token → Read Term
  | 0, _, _, _ => none
  | _ + 1, _, left, [] => some (left, [])
  | n + 1, strength, left, t :: ts =>
    match t.operator? with
    | none => some (left, t :: ts)
    | some (s, apply) =>
      if s < strength then some (left, t :: ts)
      else
        match read n (s + 1) ts with
        | none => none
        | some (right, ts) => readOperators n strength (apply left right) ts

/-- Reads a term without an operator of its own. -/
def readOperand : (fuel : Nat) → List Token → Read Term
  | 0, _ => none
  | _ + 1, [] => none
  | n + 1, t :: ts =>
    match t with
    | .number k => some (.integer k, ts)
    | .decimal s => some (.decimal s, ts)
    | .parameter s => some (.parameter s, ts)
    | .sign "(" => readRow n ts
    | t =>
      match t.isWord "cast", ts with
      | true, .sign "(" :: ts =>
        match read n 0 ts with
        | none => none
        | some (term, ts) =>
          match ts with
          | a :: b :: .sign ")" :: rest =>
            if a.isWord "as" && b.isWord "text" then some (.castText term, rest) else none
          | _ => none
      | _, _ => if t.isWord "null" then some (.null, ts) else readMembers t ts

/-- Reads terms up to a parenthesis; several of them are a row. -/
def readRow : (fuel : Nat) → List Token → Read Term
  | 0, _ => none
  | n + 1, ts =>
    match read n 0 ts with
    | some (term, .sign ")" :: ts) => some (term, ts)
    | some (term, .sign "," :: ts) =>
      match readRow n ts with
      | none => none
      | some (rest, ts) => some (.row term rest, ts)
    | _ => none

end

/-- Reads a term at the start of the tokens: between two tokens that are taken
    there are at most four readings that take none. -/
def parse (ts : List Token) : Read Term := read (4 * ts.length + 4) 0 ts

end Term

namespace Select

/-- Reads a name where a text may stand for one. -/
def readName : List Token → Read String
  | [] => none
  | t :: ts => t.anyName?.map fun name => (name, ts)

/-- Reads the name that something is given, with or without a word before it. -/
def readAlias : List Token → Read (Option String)
  | [] => some (none, [])
  | t :: ts =>
    if t.isWord "as" then (readName ts).map fun (name, ts) => (some name, ts)
    else
      match t with
      | .word s => if isLabelWord s then some (some s, ts) else some (none, t :: ts)
      | .quoted _ s | .text s => some (some s, ts)
      | t => some (none, t :: ts)

/-- Reads an item. -/
def readItem : List Token → Read SelectItem
  | .sign "*" :: ts => some (.all none, ts)
  | t :: .sign "." :: .sign "*" :: ts => t.anyName?.map fun owner => (.all (some owner), ts)
  | ts =>
    match Term.parse ts with
    | none => none
    | some (term, ts) => (readAlias ts).map fun (name, ts) => (.term term name, ts)

/-- Reads items with commas between them; there are at most as many as tokens. -/
def readItems : (fuel : Nat) → List Token → Read (List SelectItem)
  | 0, _ => none
  | n + 1, ts =>
    match readItem ts with
    | none => none
    | some (item, .sign "," :: ts) =>
      match readItems n ts with
      | none => none
      | some (items, ts) => some (item :: items, ts)
    | some (item, ts) => some ([item], ts)

/-- Reads the name of a table. -/
def readTableName : List Token → Read TableName
  | t :: .sign "." :: u :: ts =>
    match t.anyName?, u.anyName? with
    | some database, some name => some (⟨some database, name⟩, ts)
    | _, _ => none
  | ts => (readName ts).map fun (name, ts) => (⟨none, name⟩, ts)

/-- Reads a table that rows come from. -/
def readSource (ts : List Token) : Read Source :=
  match readTableName ts with
  | none => none
  | some (table, ts) => (readAlias ts).map fun (name, ts) => (⟨table, name⟩, ts)

/-- Reads what follows a word, if the word comes next. -/
def readAfter {α : Type} (w : String) (reader : List Token → Read α) :
    List Token → Read (Option α)
  | [] => some (none, [])
  | t :: ts =>
    if t.isWord w then (reader ts).map fun (a, ts) => (some a, ts) else some (none, t :: ts)

/-- Reads a number. -/
def readNumber : List Token → Read Nat
  | .number n :: ts => some (n, ts)
  | _ => none

/-- Whether a statement ends where the tokens start. -/
def atEnd : List Token → Bool
  | [] => true
  | t :: _ => t == .sign ";"

/-- Reads a statement that asks for rows. -/
def ofTokens? : List Token → Option Select
  | [] => none
  | t :: ts => do
    if !t.isWord "select" then none
    let (items, ts) ← readItems (ts.length + 1) ts
    let (source, ts) ← readAfter "from" readSource ts
    let (condition, ts) ← readAfter "where" Term.parse ts
    let (limit, ts) ← readAfter "limit" readNumber ts
    if atEnd ts then return ⟨items, source, condition, limit⟩ else none

/-- Reads a statement that asks for rows from a text. -/
def parse? (sql : String) : Option Select := ofTokens? (tokens sql)

/-- The terms of a statement, from left to right. -/
def terms (s : Select) : List Term :=
  s.items.filterMap (·.term?) ++ s.condition.toList

/-- The parameters of a statement. -/
def parameters (s : Select) : List String := s.terms.flatMap (·.parameters)

end Select

end EntityQuery.Sql
