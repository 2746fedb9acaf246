import EntityQuery.Store.Disk

/-!
# Requests to a disk

What a disk answers, whatever engine carries out the texts. Each request opens the
database that its connection leads to, so it depends on that database alone; a database
that is written to a file is read from that file, and from nowhere else.

* `read_write`, `read_write_of_ne`: what is read after a database was written;
* `query_eq`: a statement is answered by the rows of its result;
* `query_ne_unboundParameter`: a parameter is missed only if the statement that was
  prepared does not refer to it;
* `execute_ne_noRows`: a disk never answers that there are no rows.
-/

namespace EntityQuery.Store.Disk

variable {E : Engine} {connection : String} {s : Statement} {d : Disk E}

/-! ## Files -/

/-- A connection is refused for its string, or for where that leads to. -/
theorem connect_eq_error {e : StoreError} (h : d.connect connection = .error e) :
    (∃ fault, e = .connection connection fault) ∨ ∃ fault, e = .database fault := by
  rw [connect, Connection.path] at h
  cases hsource : Connection.source connection with
  | error fault =>
    rw [hsource] at h
    cases h
    exact .inl ⟨fault, rfl⟩
  | ok path =>
    rw [hsource] at h
    dsimp only at h
    split at h
    · cases h
    · cases hlocate : E.locate d.directory path with
      | error fault =>
        rw [hlocate] at h
        cases h
        exact .inr ⟨fault, rfl⟩
      | ok location =>
        rw [hlocate] at h
        cases h

/-- Where a connection leads to does not depend on what the files hold. -/
theorem connect_write (connection : String) (location : Location) (c : E.Content) (d : Disk E) :
    (d.write location c).connect connection = d.connect connection := by
  cases location <;> rfl

/-- What is written to a file is read from it. -/
theorem read_write (file : String) (c : E.Content) (d : Disk E) :
    (d.write (.file file) c).read (.file file) = c := by
  simp [write, read]

/-- What is written to a file is read from nowhere else. -/
theorem read_write_of_ne {file : String} {location : Location} (hne : location ≠ .file file)
    (c : E.Content) (d : Disk E) : (d.write (.file file) c).read location = d.read location := by
  cases location with
  | memory => rfl
  | file name =>
    have hname : (name == file) = false := beq_eq_false_iff_ne.2 fun h => hne (h ▸ rfl)
    have hlookup : (d.files.filter (·.1 != file)).lookup name = d.files.lookup name := by
      generalize d.files = files
      induction files with
      | nil => rfl
      | cons f files ih =>
        rw [List.filter_cons, List.lookup_cons]
        split
        · rw [List.lookup_cons, ih]
        · next hf =>
          have hf : f.1 = file := by simpa using hf
          rw [hf, hname, ih]
    rw [read, write, read, List.lookup_cons, hname, hlookup]

/-- A text is carried out in the database that the connection leads to. -/
theorem batch_eq {location : Location} (hlocation : d.connect connection = .ok location)
    (sql : String) :
    d.batch connection sql = ((E.batch sql (d.read location)).1.mapError .database,
      d.write location (E.batch sql (d.read location)).2) := by
  simp only [batch, hlocation]

/-! ## Rows -/

/-- A row is not read for one of its columns. -/
theorem readRow_eq_error {data : List (String × Datum)} {e : StoreError}
    (h : readRow data = .error e) : ∃ column reason, e = .column column reason := by
  fun_induction readRow data with
  | case1 | case4 => cases h
  | case2 column datum rest fault hfault =>
    cases h
    exact ⟨_, _, rfl⟩
  | case3 column datum rest v hv e' hrest ih =>
    cases h
    exact ih hrest

/-- If rows are not read, then one of them was not given, or is not read. -/
theorem readRows_eq_error {columns : List String} {data : List (Except Fault (List Datum))}
    {e : StoreError} (h : readRows columns data = .error e) :
    (∃ f, .error f ∈ data ∧ e = .database f) ∨
      ∃ d, .ok d ∈ data ∧ readRow (columns.zip d) = .error e := by
  fun_induction readRows columns data with
  | case1 | case5 => cases h
  | case2 f rest =>
    cases h
    exact .inl ⟨f, List.mem_cons_self, rfl⟩
  | case3 d rest e' hd =>
    cases h
    exact .inr ⟨d, List.mem_cons_self, hd⟩
  | case4 d rest values hd e' hrest ih =>
    cases h
    obtain ⟨f, hf, he⟩ | ⟨d', hd', he⟩ := ih hrest
    · exact .inl ⟨f, List.mem_cons_of_mem _ hf, he⟩
    · exact .inr ⟨d', List.mem_cons_of_mem _ hd', he⟩

/-- If rows are read, then each one is. -/
theorem readRows_eq_ok {columns : List String} {data : List (List Datum)} {rows : List Row}
    (h : readRows columns (data.map .ok) = .ok rows) :
    data.map (fun d => (readRow (columns.zip d)).map (Row.mk columns)) = rows.map .ok := by
  induction data generalizing rows with
  | nil =>
    cases h
    rfl
  | cons d data ih =>
    rw [List.map_cons, readRows] at h
    split at h
    · cases h
    · next values hd =>
      split at h
      · cases h
      · next rest hrest =>
        cases h
        rw [List.map_cons, List.map_cons, ih hrest, hd]
        rfl

/-! ## Statements -/

/-- A statement that is prepared is answered by the rows of its result, if it refers to
    all of its parameters. -/
theorem query_eq {location : Location} {q : Query}
    (hlocation : d.connect connection = .ok location)
    (hprepare : E.prepare s.sql (d.read location) = .ok q)
    (hparameters : ∀ p ∈ s.parameters, p.name ∈ q.parameters) :
    d.query connection s =
      readRows q.columns (q.rows (s.parameters.map fun p => (p.name, .ofValue p.value))) := by
  have hfind : (s.parameters.find? fun p => !q.parameters.contains p.name) = none := by
    rw [List.find?_eq_none]
    intro p hp
    simp [hparameters p hp]
  simp only [query, hlocation, hprepare, hfind]

/-- A parameter is missed only if the statement that was prepared does not refer to it. -/
theorem query_ne_unboundParameter
    (h : ∀ location q, d.connect connection = .ok location →
      E.prepare s.sql (d.read location) = .ok q → ∀ p ∈ s.parameters, p.name ∈ q.parameters)
    (name : String) : d.query connection s ≠ .error (.unboundParameter name) := by
  intro hquery
  simp only [query] at hquery
  split at hquery
  · next e he =>
    cases hquery
    obtain ⟨fault, hfault⟩ | ⟨fault, hfault⟩ := connect_eq_error he <;> cases hfault
  · next location hlocation =>
    split at hquery
    · cases hquery
    · next q hq =>
      split at hquery
      · next p hp =>
        have hreferred := h location q hlocation hq p (List.mem_of_find?_eq_some hp)
        have := List.find?_some hp
        simp [hreferred] at this
      · obtain ⟨f, -, he⟩ | ⟨row, -, hrow⟩ := readRows_eq_error hquery
        · cases he
        · obtain ⟨column, reason, he⟩ := readRow_eq_error hrow
          cases he

/-- What a disk answers is never an error of the query layer. -/
theorem query_ne_query {e : Error} (connection : String) (s : Statement) (d : Disk E) :
    d.query connection s ≠ .error (.query e) := by
  intro hquery
  simp only [query] at hquery
  split at hquery
  · next hconnect =>
    cases hquery
    obtain ⟨fault, hfault⟩ | ⟨fault, hfault⟩ := connect_eq_error hconnect <;> cases hfault
  · split at hquery
    · cases hquery
    · split at hquery
      · cases hquery
      · obtain ⟨f, -, he⟩ | ⟨row, -, hrow⟩ := readRows_eq_error hquery
        · cases he
        · obtain ⟨column, reason, he⟩ := readRow_eq_error hrow
          cases he

/-- So it is never that there are no rows. -/
theorem execute_ne_noRows (connection : String) (s : Statement) (d : Disk E) (entity : String) :
    (executor.execute connection s d).1 ≠ .error (.noRows entity) := by
  intro h
  rw [executor] at h
  dsimp only at h
  split at h
  · next e he =>
    have hanswer := Except.error.inj h
    cases e with
    | query e =>
      obtain rfl : e = .noRows entity := hanswer
      exact query_ne_query connection s d he
    | database | connection | unboundParameter | column => cases hanswer
  · cases h

end EntityQuery.Store.Disk
