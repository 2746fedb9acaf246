import EntityQuery.Proofs.Engines
import EntityQuery.Proofs.Preparation
import EntityQuery.Store.Command
import Mathlib.Data.List.TakeWhile

/-!
# Databases as engines

How the engine of databases in memory (`Database.engine`) is looked at: under a name stands the
table that is found by it, and under a name that is reserved nothing that a definition made
(`Database.entry`). What making, dropping and replacing a table do to what stands under names is
said here once, apart from the statements that ask for it:

* `puts_add`, `puts_replace`: a table is put under its name;
* `drop_eq`, `keeps_others`: after a table was dropped nothing stands under its name, and the
  others remain.
-/

namespace EntityQuery.Store

namespace Database

/-- What stands under a name. -/
@[irreducible] def entry (db : Database) (name : String) : Entry :=
  if isReserved name then
    if (named? db.kept (keptName name)).isSome then .other else .absent
  else
    match named? db name with
    | some t => .table t
    | none => .absent

/-- How databases in memory are looked at. Of the limits of size, there is one on how deeply
    terms are nested. -/
@[reducible] def view : View engine where
  entry := entry
  inside := Pending.after
  outside := Pending.before
  store := ColumnType.store
  operators := .standard
  Admits sql _ := ∀ s ∈ Sql.Select.parse? sql, ∀ t ∈ s.terms, t.depth ≤ greatestDepth
  Scans sql t := ∀ s ∈ Sql.Select.parse? sql,
    (Prepared.mk s (some t) (textsOf sql)).passes t = [⟨[], none⟩]

variable {name other : String} {n : Sql.TableName} {t t' : Table} {d : TableDefinition}
  {db : Database}

/-! ## Names -/

theorem sameName_iff {a b : String} : Sql.sameName a b = true ↔ Sql.folded a = Sql.folded b := by
  rw [Sql.sameName, beq_iff_eq]

theorem sameName_eq_false_iff {a b : String} :
    Sql.sameName a b = false ↔ Sql.folded a ≠ Sql.folded b := by
  rw [Sql.sameName, beq_eq_false_iff_ne]

theorem isReserved_of_sameName (h : Sql.sameName name other = true) :
    isReserved name = isReserved other := by
  rw [isReserved, sameName_iff.1 h, isReserved]

/-- No table that a definition made is one that the database keeps for itself. -/
theorem named?_kept (db : Database) (h : isReserved name = false) :
    named? db.kept name = none := by
  have hkept : ∀ t ∈ db.kept, isReserved t.definition.name = true := by
    intro t ht
    have hsequences : isReserved db.sequences.definition.name = true := by
      show isReserved "sqlite_sequence" = true
      decide
    simp only [kept, List.mem_append, List.mem_cons, List.not_mem_nil, or_false] at ht
    rcases ht with (rfl | rfl) | ht
    · decide
    · decide
    · split at ht
      · rwa [List.mem_singleton.1 ht]
      · cases ht
  rw [named?, List.find?_eq_none]
  intro t ht hsame
  rw [← isReserved_of_sameName hsame, hkept t ht] at h
  cases h

theorem keptName_eq (h : isReserved name = false) : keptName name = name := by
  have hreserved {schema : String} (hschema : isReserved schema = true) :
      Sql.sameName name schema = false := by
    rw [Bool.eq_false_iff]
    intro hsame
    rw [isReserved_of_sameName hsame, hschema] at h
    cases h
  rw [keptName, hreserved (by decide), hreserved (by decide)]
  rfl

theorem table?_eq (hmain : isMain n.database = true) (h : isReserved n.name = false)
    (db : Database) : db.table? n = named? db n.name := by
  rw [table?, if_pos hmain, keptName_eq h, named?_kept db h]
  cases named? db n.name <;> rfl

/-! ## What stands under a name -/

theorem entry_eq_table_iff :
    db.entry name = .table t ↔ isReserved name = false ∧ named? db name = some t := by
  rw [entry]
  cases isReserved name with
  | true =>
    refine iff_of_false (fun h => ?_) fun h => nomatch h.1
    split at h
    · split at h <;> cases h
    · next hne => exact hne rfl
  | false => cases named? db name <;> simp

theorem entry_eq_absent_iff (h : isReserved name = false) :
    db.entry name = .absent ↔ named? db name = none := by
  rw [entry, h]
  cases named? db name <;> simp

/-- A table that stands under a name is found by it. -/
theorem table?_of_entry (hmain : isMain n.database = true) (h : db.entry n.name = .table t) :
    db.table? n = some t := by
  obtain ⟨hreserved, hnamed⟩ := entry_eq_table_iff.1 h
  rw [table?_eq hmain hreserved, hnamed]

/-- A table has the name that it stands under, letter case apart. -/
theorem sameName_of_entry (h : db.entry name = .table t) :
    Sql.sameName t.definition.name name = true :=
  List.find?_some (p := fun t : Table => Sql.sameName t.definition.name name)
    (entry_eq_table_iff.1 h).2

/-- A table that stands under a name may be changed. -/
theorem changed_of_entry (hmain : isMain n.database = true) (h : db.entry n.name = .table t) :
    db.changed n = .ok t := by
  have hreserved : isReserved t.definition.name = false := by
    rw [isReserved_of_sameName (sameName_of_entry h)]
    exact (entry_eq_table_iff.1 h).1
  simp only [changed, table?_of_entry hmain h, named?_kept db hreserved]
  rfl

/-! ## Changes -/

/-- Tables of other names are found as before, if they are the same. -/
theorem keeps_of_named {after : Database}
    (h : ∀ other, Sql.sameName other name = false → named? after other = named? db other) :
    view.Keeps name db after := by
  intro other hne hreserved
  show after.entry other = db.entry other
  simp only [entry, hreserved, h other hne, Bool.false_eq_true, if_false]

/-- A table that is made is put under its name. -/
theorem puts_add (hreserved : isReserved d.name = false) (h : db.entry d.name = .absent) :
    view.Puts d.name (.empty d) db (db.add d) := by
  have hsame : Sql.sameName (Table.empty d).definition.name d.name = true := beq_self_eq_true _
  rw [entry_eq_absent_iff hreserved, named?] at h
  refine ⟨entry_eq_table_iff.2 ⟨hreserved, ?_⟩, keeps_of_named fun other hne => ?_⟩
  · rw [named?, add, List.find?_append, h, List.find?_singleton, hsame]
    rfl
  · have hother : Sql.sameName (Table.empty d).definition.name other = false :=
      sameName_eq_false_iff.2 (sameName_eq_false_iff.1 hne).symm
    rw [named?, add, List.find?_append, List.find?_singleton, hother]
    exact Option.or_none

/-- What is found by a name after a table was put in place of one of its name. -/
theorem named?_replace (a : String) : named? (db.replace t') a = (named? db a).map fun u =>
    if Sql.sameName u.definition.name t'.definition.name then t' else u := by
  have hput (u : Table) : Sql.sameName
      (if Sql.sameName u.definition.name t'.definition.name then t' else u).definition.name a =
        Sql.sameName u.definition.name a := by
    split
    · next hu => rw [Sql.sameName, Sql.sameName, sameName_iff.1 hu]
    · rfl
  rw [named?, replace, List.find?_map]
  exact congrArg (Option.map _) (congrArg (List.find? · db) (funext hput))

/-- A table that is put in place of one of its name stands under the name. -/
theorem puts_replace (h : db.entry name = .table t) (ht' : t'.definition = t.definition) :
    view.Puts name t' db (db.replace t') := by
  obtain ⟨hreserved, hnamed⟩ := entry_eq_table_iff.1 h
  refine ⟨entry_eq_table_iff.2 ⟨hreserved, ?_⟩, keeps_of_named fun other hne => ?_⟩
  · have hsame : Sql.sameName t.definition.name t'.definition.name = true := by
      rw [ht']
      exact beq_self_eq_true _
    rw [named?_replace, hnamed, Option.map_some, if_pos hsame]
  · rw [named?_replace]
    cases hother : named? db other with
    | none => rfl
    | some u =>
      have hu : Sql.sameName u.definition.name other = true :=
        List.find?_some (p := fun t : Table => Sql.sameName t.definition.name other) hother
      have hdifferent : ¬Sql.sameName u.definition.name t'.definition.name = true := by
        rw [ht', sameName_iff, sameName_iff.1 hu, sameName_iff.1 (sameName_of_entry h)]
        exact sameName_eq_false_iff.1 hne
      rw [Option.map_some, if_neg hdifferent]

/-- The tables of other names. -/
def others (name : String) (db : Database) : Database :=
  db.filter fun t => !Sql.sameName t.definition.name name

theorem keeps_others (name : String) (db : Database) :
    view.Keeps name db (db.others name) := by
  refine keeps_of_named fun other hne => ?_
  rw [named?, others, List.find?_filter]
  refine congrArg (List.find? · db) (funext fun u => ?_)
  cases hu : Sql.sameName u.definition.name other with
  | false => simp
  | true =>
    have hname : Sql.sameName u.definition.name name = false := by
      rw [sameName_eq_false_iff, sameName_iff.1 hu]
      exact sameName_eq_false_iff.1 hne
    simp [hname]

/-- What a database does not keep for itself, it does not keep without some tables. -/
theorem named?_kept_others {a : String} (h : named? db.kept a = none) (name : String) :
    named? (db.others name).kept a = none := by
  rw [named?, List.find?_eq_none] at h ⊢
  intro t ht
  obtain ht | ht := List.mem_append.1 ht
  · exact h t (List.mem_append_left _ ht)
  · split at ht
    · next hany =>
      obtain ⟨u, hu, hkey⟩ := List.any_eq_true.1 hany
      have hdb : db.any (·.keyIndex?.isSome) = true :=
        List.any_eq_true.2 ⟨u, (List.mem_filter.1 hu).1, hkey⟩
      rw [List.mem_singleton.1 ht]
      refine h db.sequences (List.mem_append_right _ ?_)
      rw [if_pos hdb]
      exact List.mem_cons_self
    · cases ht

/-- A table is dropped, or nothing is, unless the database keeps it for itself. -/
theorem drop_eq (hmain : isMain n.database = true) (h : db.entry n.name ≠ .other) :
    db.drop n = .ok (db.others n.name) ∧ (db.others n.name).entry n.name = .absent := by
  have hothers : named? (db.others n.name) n.name = none := by
    rw [named?, List.find?_eq_none]
    intro t ht
    simpa using (List.mem_filter.1 ht).2
  have hkept : named? db.kept (keptName n.name) = none := by
    cases hreserved : isReserved n.name with
    | false => rw [keptName_eq hreserved, named?_kept db hreserved]
    | true =>
      rw [entry, hreserved, if_pos rfl] at h
      cases hnamed : named? db.kept (keptName n.name) with
      | none => rfl
      | some t =>
        rw [hnamed] at h
        exact absurd rfl h
  refine ⟨by rw [drop, if_pos hmain, hkept]; rfl, ?_⟩
  rw [entry, named?_kept_others hkept, hothers]
  split <;> rfl

/-- What a database keeps for itself is not dropped. -/
theorem drop_eq_error (hmain : isMain n.database = true) (hreserved : isReserved n.name = true)
    (h : db.entry n.name = .other) : ∃ f, db.drop n = .error f := by
  rw [entry, hreserved, if_pos rfl] at h
  cases hnamed : named? db.kept (keptName n.name) with
  | none =>
    rw [hnamed] at h
    cases h
  | some t => exact ⟨.keepsTable t.definition.name, by rw [drop, if_pos hmain, hnamed]⟩

/-! ## Texts with one statement -/

/-- A text with one statement is carried out by carrying out the statement. -/
theorem execute_eq {sql : String} (hne : Sql.tokens sql ≠ [])
    (hsemicolon : .sign ";" ∉ Sql.tokens sql) (db : Database) :
    db.execute sql =
      match db.executeOne sql (Sql.lexemes sql) [] with
      | .error f => (.error f, db)
      | .ok after => (.ok (), after) := by
  rw [Sql.tokens] at hne hsemicolon
  have hlast : (Sql.lexemes sql).dropWhile (·.token != .sign ";") = [] := by
    rw [List.dropWhile_eq_nil_iff]
    intro l hl
    exact bne_iff_ne.2 fun h => hsemicolon (h ▸ List.mem_map_of_mem hl)
  rw [execute, executeAll]
  cases hls : Sql.lexemes sql with
  | nil =>
    rw [hls] at hne
    exact absurd rfl hne
  | cons l ls =>
    rw [hls] at hlast
    dsimp only
    cases db.executeOne sql (l :: ls) [] with
    | error f => rfl
    | ok after => simp only [hlast]

end Database

end EntityQuery.Store
