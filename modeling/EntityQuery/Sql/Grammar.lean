import EntityQuery.Sql.Token

/-!
# The grammar of statements

A statement is derived from rules: each `Rule` stands for one of its
`alternatives`, lists of `Symbol`s, which are kinds of tokens or rules again. No
alternative but the empty one starts with a rule that may stand for nothing, so
that the next token decides which one is taken.

The rules for expressions come in three widths. A `tight` one has no operators
weaker than those of order; one that comes before the `AND` of a range has no `AND`
of its own, unless an `OR` precedes it.
-/

namespace EntityQuery.Sql

/-- Which operators an expression may have. -/
inductive Width where
  | wide
  | untilAnd
  | tight
  deriving DecidableEq, Repr

/-- What is derived from others. -/
inductive Rule where
  | command
  -- definitions of tables
  | temporary | definition | ofSchema | body
  | column | typeWords | moreType | typeSize | signedNumber
  | columnRules | columnRule | notRule | moreColumns | columnOrRule | tableRule | moreTableRules
  | standard | storage | onConflict | resolution | ascending | nullsPlace | nullsEnd | counting
  | reactions | reaction | effect | setEnd | emptied | postponed | postponement | state
  | keyColumns | keyColumn | moreKeyColumns | keyColumnList | collation
  | sorted | moreSorted | options | option | moreOptions
  -- other changes
  | ifPresent | orResolution | target | renamed | columnList | names | moreNames | source
  | assignments | assignment | moreAssignments | equality
  -- selections
  | selection | core | moreRows | compound | allOrNot | distinction
  | items | moreItems | item | itemName | itemMember | givenName
  | origin | table | tableRest | indexed | inner | joins | joinNames | joinName | joined
  | condition | grouping | having | order | limit | limitRest
  | commonTables | commonTable | moreCommonTables | materialization
  -- expressions
  | expr (w : Width) | tail (w : Width) | notTail (w : Width) | isTail (w : Width)
  | isNotTail (w : Width) | escape | literal | someExprs | moreExprs | exprs | arguments
  | primary | plainPrimary | nameRest | member | callArguments | called
  | windowing | windowingRest | window | windowRest
  | group | choices | moreChoices | raising | membership | candidates
  deriving DecidableEq, Repr

/-- What an alternative consists of. -/
inductive Symbol where
  /-- A word of the language, in lower case. -/
  | word (w : String)
  | sign (s : String)
  /-- A name. -/
  | name
  /-- A name or a text, which are no words of joins. -/
  | label
  /-- A name or a text. -/
  | anyName
  | joinWord
  | likeWord
  | timeWord
  | text
  | number
  | blob
  | parameter
  | rule (r : Rule)
  deriving DecidableEq, Repr

/-- How well a token fits where a symbol is expected: a word of the language that is
    free to be a name does so only if nothing fits exactly. -/
inductive Fit where
  | none
  | free
  | exact
  deriving DecidableEq, Repr

namespace Fit

/-- The fit of a word as a name. -/
def ofWord (s : String) (admitted : Bool) : Fit :=
  if !admitted then none else if freeWords.contains (folded s) then free else exact

/-- An exact fit or none. -/
def ofBool (b : Bool) : Fit := if b then exact else none

end Fit

namespace Symbol

/-- The fit of a token where a name is expected. -/
def fitName : Token → Fit
  | .word s => .ofWord s (!isReserved s)
  | .quoted .. => .exact
  | _ => .none

/-- How well a token fits a symbol that is a kind of tokens. -/
def fitToken (t : Token) : Symbol → Fit
  | word w => .ofBool (t.isWord w)
  | sign s => .ofBool (t == .sign s)
  | name => fitName t
  | label =>
    match t with
    | .word s => .ofWord s (isLabelWord s)
    | .text _ => .exact
    | t => fitName t
  | anyName =>
    match t with
    | .text _ => .exact
    | t => fitName t
  | joinWord =>
    match t with
    | .word s => .ofBool (joinWords.contains (folded s))
    | _ => .none
  | likeWord =>
    .ofBool (t.isWord "like" || t.isWord "glob" || t.isWord "regexp" || t.isWord "match")
  | timeWord =>
    .ofBool (t.isWord "current_date" || t.isWord "current_time" || t.isWord "current_timestamp")
  | text =>
    match t with
    | .text _ => .exact
    | _ => .none
  | number =>
    match t with
    | .number _ | .decimal _ => .exact
    | _ => .none
  | blob =>
    match t with
    | .blob _ => .exact
    | _ => .none
  | parameter =>
    match t with
    | .parameter s =>
      match s.toList with
      | '#' :: c :: _ => .ofBool (!c.isDigit)
      | _ => .exact
    | _ => .none
  | rule _ => .none

end Symbol

namespace Rule

open Sql.Symbol

/-- The operators of two sides that bind at least as tightly as those of order. -/
def tightOperators : List String :=
  ["||", "*", "/", "%", "+", "-", "<<", ">>", "&", "|", "->", "->>", "<", "<=", ">", ">="]

/-- The operators of equality. -/
def equalities : List String := ["=", "==", "<>", "!="]

/-- What may follow the operand of an expression. -/
def tails (w : Width) : List (List Symbol) :=
  tightOperators.map (fun s => [sign s, rule (.expr w)]) ++
    [[word "collate", label, rule (.tail w)]] ++
    (if w = .tight then []
    else
      equalities.map (fun s => [sign s, rule (.expr w)]) ++
        [[word "or", rule (.expr .wide)],
          [word "isnull", rule (.tail w)],
          [word "notnull", rule (.tail w)],
          [word "is", rule (.isTail w)],
          [word "not", rule (.notTail w)],
          [likeWord, rule (.expr .tight), rule .escape, rule (.tail w)],
          [word "between", rule (.expr .untilAnd), word "and", rule (.expr w)],
          [word "in", rule .membership, rule (.tail w)]]) ++
    (if w = .wide then [[word "and", rule (.expr .wide)]] else []) ++ [[]]

/-- The name that an item or a table may be given. -/
def givenNames : List (List Symbol) := [[word "as", anyName], [label], []]

/-- What a rule may stand for. -/
def alternatives : Rule → List (List Symbol)
  | command => [
      [word "create", rule temporary, word "table", rule definition],
      [word "drop", word "table", rule ifPresent, anyName, rule ofSchema],
      [word "insert", rule orResolution, word "into", rule target, rule columnList, rule source],
      [word "replace", word "into", rule target, rule columnList, rule source],
      [word "delete", word "from", rule target, rule condition],
      [word "update", rule orResolution, rule target, word "set", rule assignments,
        rule condition],
      [rule selection]]
  -- definitions of tables
  | temporary => [[word "temp"], [word "temporary"], []]
  | definition => [
      [word "if", word "not", word "exists", anyName, rule ofSchema, rule body],
      [anyName, rule ofSchema, rule body]]
  | ofSchema => [[sign ".", anyName], []]
  | body => [
      [sign "(", rule column, rule moreColumns, sign ")", rule options],
      [word "as", rule selection]]
  | column => [[anyName, rule typeWords, rule columnRules]]
  | typeWords => [[label, rule moreType], []]
  | moreType => [
      [label, rule moreType],
      [sign "(", rule signedNumber, rule typeSize, sign ")"],
      []]
  | typeSize => [[sign ",", rule signedNumber], []]
  | signedNumber => [[sign "+", number], [sign "-", number], [number]]
  | columnRules => [[rule columnRule, rule columnRules], []]
  | columnRule => [
      [word "constraint", anyName],
      [word "default", rule standard],
      [word "null", rule onConflict],
      [word "not", rule notRule],
      [word "primary", word "key", rule ascending, rule onConflict, rule counting],
      [word "unique", rule onConflict],
      [word "check", sign "(", rule (expr .wide), sign ")"],
      [word "references", anyName, rule keyColumnList, rule reactions],
      [word "deferrable", rule postponement],
      [word "collate", label],
      [word "generated", word "always", word "as", sign "(", rule (expr .wide), sign ")",
        rule storage],
      [word "as", sign "(", rule (expr .wide), sign ")", rule storage]]
  | notRule => [[word "null", rule onConflict], [word "deferrable", rule postponement]]
  | moreColumns => [[sign ",", rule columnOrRule], []]
  | columnOrRule => [[rule tableRule, rule moreTableRules], [rule column, rule moreColumns]]
  | tableRule => [
      [word "constraint", anyName],
      [word "primary", word "key", sign "(", rule sorted, rule counting, sign ")",
        rule onConflict],
      [word "unique", sign "(", rule sorted, sign ")", rule onConflict],
      [word "check", sign "(", rule (expr .wide), sign ")", rule onConflict],
      [word "foreign", word "key", sign "(", rule keyColumns, sign ")", word "references",
        anyName, rule keyColumnList, rule reactions, rule postponed]]
  | moreTableRules => [
      [sign ",", rule tableRule, rule moreTableRules],
      [rule tableRule, rule moreTableRules],
      []]
  | standard => [
      [rule literal],
      [sign "(", rule (expr .wide), sign ")"],
      [sign "+", rule literal],
      [sign "-", rule literal],
      [name]]
  | storage => [[name], []]
  | onConflict => [[word "on", word "conflict", rule resolution], []]
  | resolution => [
      [word "rollback"], [word "abort"], [word "fail"], [word "ignore"], [word "replace"]]
  | ascending => [[word "asc"], [word "desc"], []]
  | nullsPlace => [[word "nulls", rule nullsEnd], []]
  | nullsEnd => [[word "first"], [word "last"]]
  | counting => [[word "autoincrement"], []]
  | reactions => [[rule reaction, rule reactions], []]
  | reaction => [[word "match", anyName], [word "on", rule effect]]
  | effect => [
      [word "insert", rule setEnd], [word "delete", rule setEnd], [word "update", rule setEnd]]
  | setEnd => [
      [word "set", rule emptied], [word "cascade"], [word "restrict"], [word "no", word "action"]]
  | emptied => [[word "null"], [word "default"]]
  | postponed => [
      [word "not", word "deferrable", rule postponement],
      [word "deferrable", rule postponement],
      []]
  | postponement => [[word "initially", rule state], []]
  | state => [[word "deferred"], [word "immediate"]]
  | keyColumns => [[rule keyColumn, rule moreKeyColumns]]
  | keyColumn => [[anyName, rule collation, rule ascending]]
  | moreKeyColumns => [[sign ",", rule keyColumn, rule moreKeyColumns], []]
  | keyColumnList => [[sign "(", rule keyColumns, sign ")"], []]
  | collation => [[word "collate", label], []]
  | sorted => [[rule (expr .wide), rule ascending, rule nullsPlace, rule moreSorted]]
  | moreSorted => [[sign ",", rule sorted], []]
  | options => [
      [rule option, rule moreOptions],
      [sign ",", rule option, rule moreOptions],
      []]
  | option => [[word "without", anyName], [anyName]]
  | moreOptions => [[sign ",", rule option, rule moreOptions], []]
  -- other changes
  | ifPresent => [[word "if", word "exists"], []]
  | orResolution => [[word "or", rule resolution], []]
  | target => [[anyName, rule ofSchema, rule renamed]]
  | renamed => [[word "as", anyName], []]
  | columnList => [[sign "(", rule names, sign ")"], []]
  | names => [[anyName, rule moreNames]]
  | moreNames => [[sign ",", anyName, rule moreNames], []]
  | source => [[word "default", word "values"], [rule selection]]
  | assignments => [[rule assignment, rule moreAssignments]]
  | assignment => [
      [sign "(", rule names, sign ")", rule equality, rule (expr .wide)],
      [anyName, rule equality, rule (expr .wide)]]
  | equality => [[sign "="], [sign "=="]]
  | moreAssignments => [[sign ",", rule assignment, rule moreAssignments], []]
  -- selections
  | selection => [
      [rule core, rule compound],
      [word "with", rule commonTables, rule core, rule compound]]
  | core => [
      [word "select", rule distinction, rule items, rule origin, rule condition, rule grouping,
        rule having, rule order, rule limit],
      [word "values", sign "(", rule someExprs, sign ")", rule moreRows]]
  | moreRows => [[sign ",", sign "(", rule someExprs, sign ")", rule moreRows], []]
  | compound => [
      [word "union", rule allOrNot, rule core, rule compound],
      [word "except", rule core, rule compound],
      [word "intersect", rule core, rule compound],
      []]
  | allOrNot => [[word "all"], []]
  | distinction => [[word "distinct"], [word "all"], []]
  | items => [[rule item, rule moreItems]]
  | moreItems => [[sign ",", rule items], []]
  | item => [
      [sign "*"],
      [word "not", rule (expr .wide), rule givenName],
      [sign "-", rule (expr .wide), rule givenName],
      [sign "+", rule (expr .wide), rule givenName],
      [sign "~", rule (expr .wide), rule givenName],
      [rule plainPrimary, rule (tail .wide), rule givenName],
      [text, rule itemName],
      [name, rule itemName]]
  | itemName => [
      [sign ".", rule itemMember],
      [sign "(", rule callArguments, sign ")", rule called, rule (tail .wide), rule givenName]] ++
      ((tails .wide).filter (!·.isEmpty)).map (· ++ [rule givenName]) ++ givenNames
  | itemMember => [[sign "*"], [anyName, rule ofSchema, rule (tail .wide), rule givenName]]
  | givenName => givenNames
  | origin => [[word "from", rule table, rule joins], []]
  | table => [
      [sign "(", rule inner, sign ")", rule givenName, rule joined],
      [anyName, rule ofSchema, rule tableRest, rule joined]]
  | inner => [[rule selection], [rule table, rule joins]]
  | tableRest => [
      [sign "(", rule exprs, sign ")", rule givenName],
      [word "as", anyName, rule indexed],
      [word "indexed", word "by", anyName],
      [word "not", word "indexed"],
      [label, rule indexed],
      []]
  | indexed => [[word "indexed", word "by", anyName], [word "not", word "indexed"], []]
  | joins => [
      [sign ",", rule table, rule joins],
      [word "join", rule table, rule joins],
      [joinWord, rule joinNames, word "join", rule table, rule joins],
      []]
  | joinNames => [[anyName, rule joinName], []]
  | joinName => [[anyName], []]
  | joined => [
      [word "on", rule (expr .wide)],
      [word "using", sign "(", rule names, sign ")"],
      []]
  | condition => [[word "where", rule (expr .wide)], []]
  | grouping => [[word "group", word "by", rule someExprs], []]
  | having => [[word "having", rule (expr .wide)], []]
  | order => [[word "order", word "by", rule sorted], []]
  | limit => [[word "limit", rule (expr .wide), rule limitRest], []]
  | limitRest => [
      [word "offset", rule (expr .wide)],
      [sign ",", rule (expr .wide)],
      []]
  | commonTables => [
      [word "recursive", rule commonTable, rule moreCommonTables],
      [rule commonTable, rule moreCommonTables]]
  | commonTable => [
      [anyName, rule keyColumnList, word "as", rule materialization, sign "(", rule selection,
        sign ")"]]
  | moreCommonTables => [[sign ",", rule commonTable, rule moreCommonTables], []]
  | materialization => [[word "materialized"], [word "not", word "materialized"], []]
  -- expressions
  | expr w => [
      [word "not", rule (expr w)],
      [sign "-", rule (expr w)],
      [sign "+", rule (expr w)],
      [sign "~", rule (expr w)],
      [rule primary, rule (tail w)]]
  | tail w => tails w
  | notTail w => [
      [word "null", rule (tail w)],
      [likeWord, rule (expr .tight), rule escape, rule (tail w)],
      [word "between", rule (expr .untilAnd), word "and", rule (expr w)],
      [word "in", rule membership, rule (tail w)]]
  | isTail w => [
      [word "not", rule (isNotTail w)],
      [word "distinct", word "from", rule (expr w)],
      [rule (expr w)]]
  | isNotTail w => [[word "distinct", word "from", rule (expr w)], [rule (expr w)]]
  | escape => [[word "escape", rule (expr .tight)], []]
  | literal => [[word "null"], [timeWord], [number], [text], [blob]]
  | someExprs => [[rule (expr .wide), rule moreExprs]]
  | moreExprs => [[sign ",", rule (expr .wide), rule moreExprs], []]
  | exprs => [[rule (expr .wide), rule moreExprs], []]
  | arguments => [[sign "(", rule exprs, sign ")"], []]
  | plainPrimary => [
      [word "case", rule choices],
      [word "cast", sign "(", rule (expr .wide), word "as", rule typeWords, sign ")"],
      [word "raise", sign "(", rule raising, sign ")"],
      [word "exists", sign "(", rule selection, sign ")"],
      [word "null"], [timeWord], [number], [blob], [parameter],
      [sign "(", rule group, sign ")"]]
  | primary => [[rule plainPrimary], [text, rule member], [name, rule nameRest]]
  | member => [[sign ".", anyName, rule ofSchema], []]
  | nameRest => [
      [sign ".", anyName, rule ofSchema],
      [sign "(", rule callArguments, sign ")", rule called],
      []]
  | callArguments => [
      [sign "*"],
      [word "distinct", rule exprs, rule order],
      [word "all", rule exprs, rule order],
      [rule someExprs, rule order],
      []]
  | called => [
      [word "filter", sign "(", word "where", rule (expr .wide), sign ")", rule windowing],
      [word "over", rule windowingRest],
      []]
  | windowing => [[word "over", rule windowingRest], []]
  | windowingRest => [[sign "(", rule window, sign ")"], [anyName]]
  | window => [
      [word "partition", word "by", rule someExprs, rule order],
      [word "order", word "by", rule sorted],
      [anyName, rule windowRest],
      []]
  | windowRest => [
      [word "partition", word "by", rule someExprs, rule order],
      [word "order", word "by", rule sorted],
      []]
  | group => [[rule selection], [rule someExprs]]
  | choices => [
      [word "when", rule (expr .wide), word "then", rule (expr .wide), rule moreChoices],
      [rule (expr .wide), word "when", rule (expr .wide), word "then", rule (expr .wide),
        rule moreChoices]]
  | moreChoices => [
      [word "when", rule (expr .wide), word "then", rule (expr .wide), rule moreChoices],
      [word "else", rule (expr .wide), word "end"],
      [word "end"]]
  | raising => [
      [word "ignore"],
      [word "rollback", sign ",", anyName],
      [word "abort", sign ",", anyName],
      [word "fail", sign ",", anyName]]
  | membership => [
      [sign "(", rule candidates, sign ")"],
      [anyName, rule ofSchema, rule arguments]]
  | candidates => [[rule selection], [rule someExprs], []]

end Rule

end EntityQuery.Sql
