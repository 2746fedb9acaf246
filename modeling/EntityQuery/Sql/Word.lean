/-!
# Words of the language

Words and names are compared without regard to the case of ASCII letters, by their
form in lower case (`folded`). A word of the language may also be a name unless it
is *reserved* (`isReserved`); the words of joins may be names of columns and
tables, but not of types, nor names that are given without `AS`
(`isLabelWord`).
-/

namespace EntityQuery.Sql

/-- A text with its ASCII letters in lower case. -/
def folded (s : String) : String := String.ofList (s.toList.map Char.toLower)

/-- Whether two names are the same for the store. -/
def sameName (a b : String) : Bool := folded a == folded b

/-- The words that are no names, in lower case. -/
def reservedWords : List String := [
  "add", "all", "alter", "and", "as", "autoincrement", "between", "case", "check", "collate",
  "commit", "constraint", "create", "default", "deferrable", "delete", "distinct", "drop", "else",
  "escape", "except", "exists", "foreign", "from", "group", "having", "in", "index", "insert",
  "intersect", "into", "is", "isnull", "join", "limit", "not", "nothing", "notnull", "null", "on",
  "or", "order", "primary", "references", "returning", "select", "set", "table", "then", "to",
  "transaction", "union", "unique", "update", "using", "values", "when", "where"]

/-- Whether a word is no name. -/
def isReserved (s : String) : Bool := reservedWords.contains (folded s)

/-- The words of joins, in lower case. -/
def joinWords : List String := ["cross", "full", "inner", "left", "natural", "outer", "right"]

/-- Whether a word may follow a name without more, as a type or another name. -/
def isLabelWord (s : String) : Bool :=
  !isReserved s && !joinWords.contains (folded s) && folded s != "indexed"

/-- The words of the language that may be names where the language has no use for
    them, in lower case. -/
def freeWords : List String := [
  "abort", "action", "after", "always", "analyze", "asc", "attach", "before", "begin", "by",
  "cascade", "cast", "column", "conflict", "current", "current_date", "current_time",
  "current_timestamp", "database", "deferred", "desc", "detach", "do", "each", "end", "exclude",
  "exclusive", "explain", "fail", "first", "following", "for", "generated", "glob", "groups", "if",
  "ignore", "immediate", "initially", "instead", "key", "last", "like", "match", "materialized",
  "no", "nulls", "of", "offset", "others", "partition", "plan", "pragma", "preceding", "query",
  "raise", "range", "recursive", "regexp", "reindex", "release", "rename", "replace", "restrict",
  "rollback", "row", "rows", "savepoint", "temp", "temporary", "ties", "trigger", "unbounded",
  "vacuum", "view", "virtual", "with", "without"]

end EntityQuery.Sql
