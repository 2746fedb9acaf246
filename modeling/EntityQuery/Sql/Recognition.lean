import EntityQuery.Sql.Grammar

/-!
# Recognition of statements

`recognise` follows the rules of the grammar through the tokens of a text, with
the symbols that are still expected on a stack. It gives how many tokens the first
statement has, or, at a fault, how many there are before the first token that no
statement could have there. A semicolon ends a statement, and so does the end of
the text.
-/

namespace EntityQuery.Sql

namespace Fit

/-- The better of two fits. -/
def max : Fit → Fit → Fit
  | exact, _ | _, exact => exact
  | free, _ | _, free => free
  | none, none => none

end Fit

/-- How well a token fits a symbol: a rule by how its alternatives start, which are
    rules again at most so many times over. -/
def Symbol.fit (t : Token) : (depth : Nat) → Symbol → Fit
  | 0, s => s.fitToken t
  | n + 1, .rule r =>
    (r.alternatives.filterMap List.head?).foldl (fun f s => f.max (s.fit t n)) .none
  | _ + 1, s => s.fitToken t

/-- How many rules may start with one another. -/
def ruleDepth : Nat := 8

/-- The alternative of a rule that a token starts: the first that it fits exactly, or
    else the first that it fits, or else that without symbols. -/
def Rule.choose (r : Rule) (t : Token) : Option (List Symbol) :=
  let fits (f : Fit) (a : List Symbol) : Bool := a.head?.any fun s => s.fit t ruleDepth == f
  match r.alternatives.find? (fits .exact) with
  | some a => some a
  | none =>
    match r.alternatives.find? (fits .free) with
    | some a => some a
    | none => r.alternatives.find? (·.isEmpty)

/-- The alternative of a rule that the end of a statement admits. -/
def Rule.chooseEnd (r : Rule) : Option (List Symbol) := r.alternatives.find? (·.isEmpty)

/-- Follows the expected symbols through the tokens, after so many. -/
def follow : (fuel : Nat) → List Symbol → List Token → (taken : Nat) → Except Nat Nat
  | 0, _, _, taken => .error taken
  | _ + 1, [], [], taken => .ok taken
  | _ + 1, [], t :: _, taken => if t = .sign ";" then .ok taken else .error taken
  | n + 1, .rule r :: expected, [], taken =>
    match r.chooseEnd with
    | some symbols => follow n (symbols ++ expected) [] taken
    | none => .error taken
  | n + 1, .rule r :: expected, t :: ts, taken =>
    match r.choose t with
    | some symbols => follow n (symbols ++ expected) (t :: ts) taken
    | none => .error taken
  | _ + 1, _ :: _, [], taken => .error taken
  | n + 1, s :: expected, t :: ts, taken =>
    match s.fitToken t with
    | .none => .error taken
    | _ => follow n expected ts (taken + 1)

/-- How many tokens the first statement has, or how many there are before its
    fault. Between two tokens that are taken, less than a thousand symbols are
    replaced. -/
def recognise (ts : List Token) : Except Nat Nat :=
  follow (1000 * (ts.length + 1)) [.rule .command] ts 0

end EntityQuery.Sql
