import EntityQuery.Store.Prepared

/-!
# Preparation

What it takes for a statement to be prepared, and what comes of it, said once:
`Database.resolve` checks a selection step by step (`resolve_eq`), and nothing changes
the selection on the way.

* `prepare_eq`: a text with a token is read, and what was read is resolved;
* `select_of_prepare`: what is prepared is the selection that was read.
-/

namespace EntityQuery.Store

open Sql (Select)

namespace Database

/-- The table that rows come from, if the statement names one. -/
def found (db : Database) : Option Sql.Source → Except Fault (Option (Sql.Source × Table))
  | none => .ok none
  | some s =>
    match db.table? s.table with
    | some t => .ok (some (s, t))
    | none => .error (.noSuchTable s.table.text)

/-- Checks items one after the other. -/
def checkItems (source : Option Sql.Source) : List Sql.SelectItem → Except Fault Unit
  | [] => .ok ()
  | item :: items =>
    match checkItem source item with
    | .error f => .error f
    | .ok () => checkItems source items

/-- The texts of the items of a statement. -/
def textsOf (sql : String) : List String :=
  let ls := (Sql.lexemes sql).drop 1
  Sql.itemTexts 0 ((ls.head?.map (·.start)).getD []) ls

/-- A selection whose table was found, after all other checks. -/
def checked (sql : String) (s : Select) (source : Option (Sql.Source × Table)) :
    Except Fault Prepared :=
  match checkItems (source.map (·.1)) s.items with
  | .error f => .error f
  | .ok () =>
    match checkReferences sql source (clauses sql).1 (s.items.filterMap (·.term?)) with
    | .error f => .error f
    | .ok () =>
      match checkReferences sql source (clauses sql).2 s.condition.toList with
      | .error f => .error f
      | .ok () =>
        if s.terms.any (·.hasRow) then .error .rowMisused
        else .ok ⟨s, source.map (·.2), textsOf sql⟩

theorem forIn_checkItem (source : Option Sql.Source) (items : List Sql.SelectItem) :
    (forIn items PUnit.unit fun item _ => do
      checkItem source item
      pure (ForInStep.yield PUnit.unit)) = checkItems source items := by
  induction items with
  | nil => rfl
  | cons item items ih =>
    rw [List.forIn_cons, checkItems, ← ih]
    rcases checkItem source item with f | _ <;> rfl

/-- A selection is resolved by finding its table and checking it. -/
theorem resolve_eq (sql : String) (s : Select) (db : Database) :
    db.resolve sql s =
      if s.terms.any (greatestDepth < ·.depth) then .error .tooDeep
      else
        match db.found s.source with
        | .error f => .error f
        | .ok source => checked sql s source := by
  -- The checks follow one another in the same way with a table and without.
  have hchecked (items selected condition : Except Fault Unit) (misused : Bool) (p : Prepared) :
      (do
        items
        selected
        condition
        if misused then throw .rowMisused
        return p) =
      match items with
      | .error f => Except.error f
      | .ok () =>
        match selected with
        | .error f => .error f
        | .ok () =>
          match condition with
          | .error f => .error f
          | .ok () => if misused then .error .rowMisused else .ok p := by
    rcases items with f | _
    · rfl
    rcases selected with f | _
    · rfl
    rcases condition with f | _
    · rfl
    rcases misused <;> rfl
  simp only [resolve, forIn_checkItem]
  split
  · rfl
  · rcases s.source with _ | source
    · exact hchecked ..
    · simp only [found]
      rcases db.table? source.table with _ | t
      · rfl
      · exact hchecked ..

/-- A text with a token is read, and what was read is resolved. -/
theorem prepare_eq {sql : String} (h : Sql.tokens sql ≠ []) (db : Database) :
    db.prepare sql =
      match checkSyntax sql with
      | .error f => .error f
      | .ok () =>
        match Select.parse? sql with
        | some s => db.resolve sql s
        | none => .error (db.refusal sql) := by
  have hn : (Sql.tokens sql).isEmpty = false := by
    rw [List.isEmpty_eq_false_iff]
    exact h
  simp only [prepare, hn, Bool.false_eq_true, if_false]
  rcases checkSyntax sql with f | _
  · rfl
  · rcases Select.parse? sql with _ | s <;> rfl

/-! ## What is prepared -/

/-- The selection that is resolved is kept as it is. -/
theorem select_of_resolve {sql : String} {s : Select} {db : Database} {p : Prepared}
    (h : db.resolve sql s = .ok p) : p.select = s := by
  rw [resolve_eq] at h
  split at h
  · cases h
  · split at h
    · cases h
    · simp only [checked] at h
      repeat' split at h
      all_goals cases h
      rfl

/-- What is prepared is the selection that was read. -/
theorem select_of_prepare {sql : String} {db : Database} {p : Prepared}
    (ht : Sql.tokens sql ≠ []) (h : db.prepare sql = .ok p) :
    Select.parse? sql = some p.select := by
  rw [prepare_eq ht] at h
  split at h
  · cases h
  · split at h
    · next s hs => rw [hs, select_of_resolve h]
    · cases h

end Database

end EntityQuery.Store
