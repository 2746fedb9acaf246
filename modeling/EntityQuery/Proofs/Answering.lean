import EntityQuery.Proofs.Engines
import EntityQuery.Proofs.Preparation

/-!
# Sentences are answered

A statement that asks for plain columns of a table (`Sql.AsksTable`) is recognised and read as
the selection that its tokens show, and whatever it refers to is found in the table: unless a
term in it is nested too deeply, it is prepared (`prepare_eq_prepared`). The result has the
columns of the sentence under their own names (`columnNames_prepared`) and, if the records of
the table are visited as they are stored, a row for each record that the condition holds of, up
to the limit (`run_prepared`).
-/

namespace EntityQuery.Sql

open Store

/-! ## Terms of sentences -/

namespace Term

variable {p : String → Prop} {t : Term}

/-- A rendered term refers to columns by their names alone. -/
theorem Rendered.references (h : t.Rendered p) : ∀ r ∈ t.references, r.owners = [] ∧ p r.name := by
  induction h with
  | column hn =>
    intro r hr
    rw [List.mem_singleton.1 hr]
    exact ⟨rfl, hn⟩
  | parameter => exact nofun
  | binary _ _ ihl ihr => exact fun r hr => (List.mem_append.1 hr).elim (ihl r) (ihr r)
  | like _ ih => exact fun r hr => (List.mem_append.1 hr).elim nofun (ih r)

theorem Rendered.hasRow (h : t.Rendered p) : t.hasRow = false := by
  induction h with
  | column | parameter => rfl
  | binary _ _ ihl ihr => rw [Term.hasRow, ihl, ihr, Bool.or_self]
  | like _ ih =>
    rw [Term.hasRow, ih]
    rfl

end Term

/-! ## Texts of items -/

/-- Between the names of a sentence stand as many commas as items need. -/
theorem length_itemTexts {names : List String} (hne : names ≠ [])
    (hn : ∀ name ∈ names, isColumnName name = true) {ts : List Token} {ls : List Lexeme}
    (hl : ls.map (·.token) = Sentence.nameTokens names ++ .word "FROM" :: ts)
    (start : List Char) : (itemTexts 0 start ls).length = names.length := by
  induction names generalizing ls start with
  | nil => exact absurd rfl hne
  | cons name names ih =>
    have hname := hn name List.mem_cons_self
    have hscan : scan name.toList = [.word name] := tokens_column hname
    have hplain := (isColumnName_iff.1 hname).2
    have hfrom := isWord_eq_false hplain (w := "from") (by decide)
    -- The item ends at `FROM` or at a comma, after which the next one starts.
    cases names with
    | nil =>
      simp only [Sentence.nameTokens, List.map_cons, List.map_nil, List.intercalate_singleton,
        hscan, List.cons_append, List.nil_append] at hl
      obtain ⟨l, ls, rfl, hl₁, hl⟩ := List.map_eq_cons_iff.1 hl
      obtain ⟨l', ls, rfl, hl₂, -⟩ := List.map_eq_cons_iff.1 hl
      have hword : Token.isWord "from" (.word "FROM") = true := by decide
      simp [itemTexts, hl₁, hl₂, hfrom, hword]
    | cons second names =>
      simp only [Sentence.nameTokens, List.map_cons, List.intercalate_cons_cons, hscan,
        List.cons_append, List.nil_append] at hl
      obtain ⟨l, ls, rfl, hl₁, hl⟩ := List.map_eq_cons_iff.1 hl
      obtain ⟨l', ls, rfl, hl₂, hl⟩ := List.map_eq_cons_iff.1 hl
      have hothers := ih (List.cons_ne_nil _ _) (fun n hn' => hn n (List.mem_cons_of_mem _ hn'))
        hl ((ls.head?.map (·.start)).getD [])
      have hword : Token.isWord "from" (.sign ",") = false := by decide
      simp [itemTexts, hl₁, hl₂, hfrom, hword, hothers]

namespace Sentence.Asks

variable {s : Sentence} {name : String} {t : Table}

theorem isColumnName (h : s.Asks name t) : ∀ c ∈ s.columns, isColumnName c = true :=
  fun c hc => (h.columns c hc).1

theorem rendered (h : s.Asks name t) :
    ∀ u ∈ s.condition, u.Rendered (Sql.isColumnName · = true) :=
  fun u hu => (h.condition u hu).mono fun _ hc => hc.1

/-- A column of the sentence leads to one of the table. -/
theorem leads (h : s.Asks name t) {c : String} (hc : ∃ d ∈ t.columns, d.name = c)
    (source : Source) : Database.leads (some (source, t)) ⟨[], c⟩ = true := by
  obtain ⟨d, hd, rfl⟩ := hc
  obtain ⟨i, hi⟩ := List.getElem?_of_mem hd
  rw [Database.leads, Database.owns, Table.isSome_place? h.apart hi]
  rfl

end Sentence.Asks

end EntityQuery.Sql

namespace EntityQuery.Store

open Sql (Sentence Term)

namespace Database

theorem checkItems_terms (source : Option Sql.Source) (columns : List String) :
    checkItems source (columns.map fun c => .term (.column c) none) = .ok () := by
  induction columns with
  | nil => rfl
  | cons c columns ih => exact ih

/-- References that all lead somewhere are in order. -/
theorem checkReferences_eq_ok {sql : String} {source : Option (Sql.Source × Table)}
    {part : List Sql.Lexeme} {ts : List Term}
    (h : ∀ u ∈ ts, ∀ r ∈ u.references, leads source r = true) :
    checkReferences sql source part ts = .ok () := by
  have hfind : (ts.flatMap (·.references)).find? (!leads source ·) = none := by
    rw [List.find?_eq_none]
    intro r hr
    obtain ⟨u, hu, hr⟩ := List.mem_flatMap.1 hr
    simp [h u hu r hr]
  rw [checkReferences, hfind]

variable {sql : String} {s : Sentence} {n : Sql.TableName} {db : Database} {t : Table}

/-- What a sentence is prepared as. -/
def prepared (sql : String) (s : Sentence) (n : Sql.TableName) (t : Table) : Prepared :=
  ⟨s.select n, some t, textsOf sql⟩

/-- The items of a sentence are its columns. -/
theorem terms_select (s : Sentence) (n : Sql.TableName) :
    (s.select n).items.filterMap (·.term?) = s.columns.map .column := by
  rw [Sentence.select, List.filterMap_map]
  exact congrFun List.filterMap_eq_map s.columns

/-- A sentence passes all checks after the depth of its terms. -/
theorem checked_select (h : s.Asks n.name t) :
    checked sql (s.select n) (some (⟨n, none⟩, t)) = .ok (prepared sql s n t) := by
  have hitems : checkItems (some ⟨n, none⟩) (s.select n).items = .ok () := checkItems_terms _ _
  have hterms := terms_select s n
  have hselected : checkReferences sql (some (⟨n, none⟩, t)) (clauses sql).1
      (s.columns.map .column) = .ok () := by
    refine checkReferences_eq_ok fun u hu r hr => ?_
    obtain ⟨c, hc, rfl⟩ := List.mem_map.1 hu
    rw [List.mem_singleton.1 hr]
    exact h.leads (h.columns c hc).2 _
  have hcondition : checkReferences sql (some (⟨n, none⟩, t)) (clauses sql).2
      (s.select n).condition.toList = .ok () := by
    refine checkReferences_eq_ok fun u hu r hr => ?_
    obtain ⟨howners, -, hname⟩ := (h.condition u (Option.mem_toList.1 hu)).references r hr
    obtain ⟨owners, c⟩ := r
    subst howners
    exact h.leads hname _
  have hrow : (s.select n).terms.any (·.hasRow) = false := by
    rw [Sql.Select.terms, hterms, List.any_append, List.any_map, Bool.or_eq_false_iff]
    refine ⟨List.any_eq_false.2 fun _ _ => Bool.false_ne_true, List.any_eq_false.2 fun u hu => ?_⟩
    rw [(h.condition u (Option.mem_toList.1 hu)).hasRow]
    exact Bool.false_ne_true
  rw [checked, hterms, hselected, hcondition, hrow]
  simp only [Option.map_some, hitems, Bool.false_eq_true, if_false]
  rfl

/-- A sentence is read as its selection. -/
theorem parse?_sentence (h : Sql.AsksTable sql s n.name t)
    (hn : Sql.NamesTable (Sql.scan s.table.toList) n) :
    Sql.Select.parse? sql = some (s.select n) := by
  rw [Sql.Select.parse?, h.tokens]
  exact Sql.Select.ofTokens?_sentence h.columns_ne_nil h.isColumnName hn h.rendered

/-- A sentence is prepared or refused by the depth of its terms alone. -/
theorem prepare_eq_prepared (h : Sql.AsksTable sql s n.name t)
    (hn : Sql.NamesTable (Sql.scan s.table.toList) n) (hfound : db.table? n = some t) :
    db.prepare sql =
      if (s.select n).terms.any (fun u => decide (greatestDepth < u.depth)) then .error .tooDeep
      else .ok (prepared sql s n t) := by
  obtain ⟨k, hk⟩ := Sql.recognise_sentence h.columns_ne_nil h.isColumnName hn h.rendered
  have hsyntax : checkSyntax sql = .ok () := by rw [checkSyntax, h.tokens, hk]
  have hprepare : db.prepare sql = db.resolve sql (s.select n) := by
    rw [prepare_eq (by rw [h.tokens]; exact List.cons_ne_nil _ _), hsyntax, parse?_sentence h hn]
  have hsource : db.found (s.select n).source = .ok (some (⟨n, none⟩, t)) := by
    simp only [found, Sentence.select, hfound]
  rw [hprepare, resolve_eq, hsource]
  split
  · rfl
  · exact checked_select h.toAsks

end Database

/-! ## Results -/

namespace Prepared

open Database (prepared)

variable {sql : String} {s : Sentence} {n : Sql.TableName} {t : Table}

theorem length_textsOf {name : String} (h : Sql.AsksTable sql s name t) :
    (Database.textsOf sql).length = s.columns.length := by
  have hl : ((Sql.lexemes sql).drop 1).map (·.token) = Sentence.nameTokens s.columns ++
      .word "FROM" :: (Sql.scan s.table.toList ++ (s.conditionTokens ++ s.limitTokens)) := by
    rw [List.map_drop]
    have := h.tokens
    rw [Sql.tokens] at this
    rw [this]
    rfl
  exact Sql.length_itemTexts h.columns_ne_nil h.isColumnName hl _

/-- The items of the result are the columns of the sentence, each with its own name. -/
theorem items_prepared (h : Sql.AsksTable sql s n.name t) :
    (prepared sql s n t).items = s.columns.map fun c => (.column c, c) := by
  have hname (text : String) : ∀ c ∈ s.columns,
      (prepared sql s n t).itemName text (.column c) none = c := by
    intro c hc
    obtain ⟨-, d, hd, rfl⟩ := h.columns c hc
    obtain ⟨i, hi⟩ := List.getElem?_of_mem hd
    rw [itemName, columnName?_of_apart rfl h.apart hi, Option.getD_some]
  have hlength := length_textsOf h
  simp only [items]
  show ((s.columns.map fun column => Sql.SelectItem.term (.column column) none).zip
    (Database.textsOf sql)).flatMap _ = _
  -- Of the texts only their number matters.
  generalize Database.textsOf sql = texts at hlength
  generalize s.columns = columns at hname hlength
  induction columns generalizing texts with
  | nil => rfl
  | cons c columns ih =>
    obtain ⟨text, texts, rfl⟩ := List.exists_cons_of_length_eq_add_one hlength
    have hothers := ih texts (fun text d hd => hname text d (List.mem_cons_of_mem _ hd))
      (Nat.succ.inj hlength)
    rw [List.map_cons, List.zip_cons_cons, List.flatMap_cons, hothers, List.map_cons]
    simp only [hname text c List.mem_cons_self]
    rfl

/-- The result has the columns of the sentence. -/
theorem columnNames_prepared (h : Sql.AsksTable sql s n.name t) :
    (prepared sql s n t).columnNames = s.columns := by
  rw [columnNames, items_prepared h, List.map_map]
  exact List.map_id _

/-- Where records are visited as they are stored, the result has a row for each that
    the condition holds of, up to the limit. -/
theorem run_prepared (h : Sql.AsksTable sql s n.name t)
    (hscan : (prepared sql s n t).passes t = [⟨[], none⟩]) (ps : List (String × Datum)) :
    (prepared sql s n t).run ps =
      (firsts s.limit (t.records.filter fun r =>
        s.condition.all (environment .standard t ps r).holds)).map
          fun r => s.columns.map fun c => (environment .standard t ps r).eval (.column c) := by
  have hvisited : (prepared sql s n t).environments ps =
      t.records.map (environment .standard t ps) := by
    show ((prepared sql s n t).visited t ps).map _ = _
    rw [visited, hscan, Table.visit_stored]
  have hkept : ((prepared sql s n t).environments ps).filter
      (fun env => s.condition.all env.holds) =
        (t.records.filter fun r => s.condition.all (environment .standard t ps r).holds).map
          (environment .standard t ps) := by
    rw [hvisited, List.filter_map]
    rfl
  have hitems (env : Environment) : ((prepared sql s n t).items.map fun item => env.eval item.1) =
      s.columns.map fun c => env.eval (.column c) := by
    rw [items_prepared h, List.map_map]
    rfl
  have hrun : (prepared sql s n t).run ps =
      (firsts s.limit (((prepared sql s n t).environments ps).filter fun env =>
        s.condition.all env.holds)).map
          fun env => (prepared sql s n t).items.map fun item => env.eval item.1 := rfl
  simp only [hrun, hitems]
  rw [hkept]
  cases s.limit with
  | none => rw [firsts, List.map_map]; rfl
  | some k => simp only [firsts, ← List.map_take, List.map_map]; rfl

end Prepared

end EntityQuery.Store
