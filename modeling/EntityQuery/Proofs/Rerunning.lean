import EntityQuery.CommandLine.Program
import EntityQuery.Proofs.Resetting
import EntityQuery.Proofs.Touring

/-!
# The program, run again

What a run of the program comes to, whatever is stored where it looks for the users, and
whatever lawful engine carries out the statements (`Program.run_reports`). It puts the
statements of all questions to the disk that it leaves, and writes the report of the answers,
or it writes nothing. After a report, a run without a reset finds users and inserts none, so
that it writes the same report and changes nothing. A run with a reset forgets: what it writes
does not depend on what was stored before.

The table of users need not be one that the program made. All that carries over from a run
to the next is that there is a record in it (`Seeding.hasRecord_of_ensureIn`).
-/

namespace EntityQuery

open Store

variable {E : Engine} {V : View E}

namespace Store

/-! ## Records that remain -/

/-- A table that a record extends has a record. -/
theorem Table.records_of_extend {t t' : Table} {store : ColumnType → Datum → Datum}
    {given : List (String × Datum)} (h : t.extend store given = .ok t') : t'.records ≠ [] := by
  obtain ⟨n, rfl, -⟩ := extend_eq_ok h
  have hplace (r : Record) : (t.place r).records ≠ [] := fun hnil =>
    List.cons_ne_nil r t.records (hnil ▸ t.perm_place r).nil_eq.symm
  rw [placeNumbered]
  split <;> exact hplace _

namespace Seeding

variable {m : Metadata} {d : TableDefinition} {t : Table} {seed : List SeedRow}
  {x x' : E.Transaction}

/-- There is a record in the table of a name. -/
def HasRecord (V : View E) (name : String) (c : E.Content) : Prop :=
  ∃ t, V.entry c name = .table t ∧ t.records ≠ []

/-- After a row was inserted, there is a record, whatever the table was made as. -/
theorem hasRecord_of_insertRow (hV : V.Lawful) (hd : m.Named d)
    (ht : V.entry (V.inside x) d.name = .table t) {row : SeedRow}
    (h : insertRow m row x = (.ok (), x')) : HasRecord V d.name (V.inside x') := by
  cases hgiven : given m row with
  | error e =>
    simp only [insertRow, hgiven] at h
    cases h
  | ok ds =>
    obtain ⟨hcolumns, hdata⟩ := lengths_of_given hgiven
    rw [insertRow_of_given hgiven] at h
    obtain ⟨f, hrejects⟩ | ⟨-, -, t', hextend, hextends⟩ := hV.insert t
      (insertsRecord_of_given hd hgiven) (nodup_placeholders _) hcolumns hdata
    · obtain ⟨x'', hx'', -⟩ := hrejects x ht
      rw [hx''] at h
      cases h
    · obtain ⟨x'', hx'', -, hputs⟩ := hextends x ht
      rw [hx''] at h
      cases h
      exact ⟨t', hputs.entry, Table.records_of_extend hextend⟩

/-- After all rows of a seed were inserted, there is a record. -/
theorem hasRecord_of_insertAll (hV : V.Lawful) (hd : m.Named d) (hseed : seed ≠ [])
    (ht : V.entry (V.inside x) d.name = .table t) (h : insertAll m seed x = (.ok (), x')) :
    HasRecord V d.name (V.inside x') := by
  induction seed generalizing x t with
  | nil => exact absurd rfl hseed
  | cons row rows ih =>
    rw [insertAll] at h
    split at h
    · cases h
    · next mid hmid =>
      obtain ⟨t', ht', hrecords⟩ := hasRecord_of_insertRow hV hd ht hmid
      rcases rows with _ | ⟨row', rows⟩
      · cases h
        exact ⟨t', ht', hrecords⟩
      · exact ih (List.cons_ne_nil _ _) ht' h

/-- After a seed was asked for where there is a table, there is a record in it. -/
theorem hasRecord_of_fillIn (hV : V.Lawful) (hd : m.Named d) (hseed : seed ≠ []) {c : E.Content}
    (ht : V.entry c d.name = .table t) {n : Nat} (h : (fillIn m seed c).1 = .ok n) :
    HasRecord V d.name (fillIn m seed c).2 := by
  by_cases hnil : t.records = []
  · obtain ⟨x, rfl, -, hfill⟩ := fillIn_of_empty hV hd.table ht hnil seed
    rw [hfill] at h ⊢
    rcases hinsert : insertAll m seed x with ⟨_ | _, x'⟩
    · simp only [insertSeed, hinsert] at h
      cases h
    · rw [insertSeed_of_inserted hV hinsert]
      exact hasRecord_of_insertAll hV hd hseed ht hinsert
  · rw [fillIn_of_ne_nil hV hd.table ht hnil]
    exact ⟨t, ht, hnil⟩

/-- After a request that was carried out there is a record, in whatever table there was. -/
theorem hasRecord_of_ensureIn (hV : V.Lawful) (hd : m.Named d)
    (hmakes : V.Makes (TableDefinition.ofMetadata m).sql d) (hseed : seed ≠ []) {c : E.Content}
    (hc : V.entry c d.name ≠ .other) {n : Nat} (h : (ensureIn m seed c).1 = .ok n) :
    HasRecord V d.name (ensureIn m seed c).2 := by
  -- The request goes on with a table that was there, or with a new one.
  cases hentry : V.entry c d.name with
  | other => exact absurd hentry hc
  | table t =>
    rw [ensureIn_of_entry hmakes hentry] at h ⊢
    exact hasRecord_of_fillIn hV hd hseed hentry h
  | absent =>
    obtain ⟨c', hensure, hputs⟩ := exists_ensureIn hmakes (.inl hentry) seed
    rw [hensure] at h ⊢
    exact hasRecord_of_fillIn hV hd hseed hputs.entry h

end Seeding

/-- What a disk answers depends on where the connection leads, and on what is there. -/
theorem Disk.query_congr {connection : String} {d d' : Disk E}
    (hconnect : d'.connect connection = d.connect connection)
    (hread : ∀ location, d'.read location = d.read location) (s : Statement) :
    d'.query connection s = d.query connection s := by
  simp only [query, hconnect, hread]

end Store

/-! ## Users on a disk -/

namespace Demo.Users

/-- A world in which users are declared, and a disk holds what it holds. -/
def onDisk (d : Disk E) : World (Disk E) := (World.ofStore d).declare declaration

theorem resolve_onDisk (d : Disk E) : ((onDisk d).resolve type).1 = .ok Search.metadata := rfl

/-- The statement for the table of users, which is within all limits, makes it. -/
theorem makes_definition (hV : V.Lawful)
    (hadmits : V.Admits (TableDefinition.ofMetadata Search.metadata).sql []) :
    V.Makes (TableDefinition.ofMetadata Search.metadata).sql definition :=
  hV.makes named_metadata.makesTable_sql (by decide) keyed_metadata.pairwise_apart
    Search.isReserved_users Search.endsIf_users hadmits

end Demo.Users

/-! ## Tours of a disk -/

namespace Demo.Tour

variable {d d' : Disk E} {connection connection' : String} {qs : List Question}
  {exs exs' : List (Exchange (Disk E))}

/-- Users whose metadata are found are known by their declaration. -/
theorem Known.of_resolve {σ : Type} {w : World σ}
    (h : (w.resolve Users.type).1 = .ok Search.metadata) : Known w := by
  intro r hr
  rw [(World.resolve_eq _ _).1, Catalogue.resolve_of_kept hr] at h
  exact Except.ok.inj h

/-- Exchanges with an executor that changes nothing leave its state as it is. -/
theorem Exchanged.after_eq {σ : Type} {x : Executor σ} {store : σ} {exs : List (Exchange σ)}
    (hx : ∀ s store, (x.execute connection s store).2 = store)
    (h : Exchanged x connection qs store exs) : ∀ ex ∈ exs, ex.after = store := by
  induction h with
  | nil => exact fun _ hex => absurd hex List.not_mem_nil
  | @cons q qs store store' p answer exs _ hexecute _ ih =>
    have hafter : store' = store := by rw [← hx p.render store, hexecute]
    rw [hafter] at ih ⊢
    exact List.forall_mem_cons.2 ⟨rfl, ih⟩

/-- A tour of a disk comes to the sections of its exchanges, and leaves the disk as it is. -/
theorem exists_exchanged_disk {w : World (Disk E)} (hw : Known w) (c : Context) :
    ∃ exs, Exchanged Disk.executor c.connection questions w.store exs ∧
      (run Disk.executor c w).1 = exs.mapM Exchange.section? ∧
      (run Disk.executor c w).2.store = w.store := by
  obtain ⟨exs, hexchanged, hsections, hsent⟩ :=
    hw.exists_exchanged (c := c) (Disk.execute_ne_noRows c.connection)
  refine ⟨exs, hexchanged, hsections, ?_⟩
  rw [hsent.store]
  cases hlast : (Exchange.held exs).getLast? with
  | none => rfl
  | some ex =>
    exact hexchanged.after_eq (Disk.executor_execute_snd _) ex
      (Exchange.mem_of_mem_held (List.mem_of_getLast? hlast))

/-- Disks that give the statements of the questions the same answers come to the same
    sections. -/
theorem Exchanged.sections_congr
    (h : ∀ q ∈ qs, ∀ p, Plan.ofChain Search.metadata q.chain = .ok p →
      d.query connection p.render = d'.query connection' p.render)
    (hexs : Exchanged Disk.executor connection qs d exs)
    (hexs' : Exchanged Disk.executor connection' qs d' exs') :
    exs.mapM Exchange.section? = exs'.mapM Exchange.section? := by
  induction qs generalizing exs exs' with
  | nil =>
    cases hexs
    cases hexs'
    rfl
  | cons q qs ih =>
    obtain ⟨hq, hqs⟩ := List.forall_mem_cons.1 h
    cases hexs with
    | @cons _ _ _ store p answer exs hp hexecute hexs =>
    cases hexs' with
    | @cons _ _ _ store' p' answer' exs' hp' hexecute' hexs' =>
    cases hp.symm.trans hp'
    have hanswer : answer = answer' := by
      have hexecuted : (Disk.executor.execute connection p.render d).1 =
          (Disk.executor.execute connection' p.render d').1 := by
        simp only [Disk.executor, hq p hp]
        split <;> rfl
      rwa [hexecute, hexecute'] at hexecuted
    have hstore : store = d := by
      rw [← Disk.executor_execute_snd connection p.render d, hexecute]
    have hstore' : store' = d' := by
      rw [← Disk.executor_execute_snd connection' p.render d', hexecute']
    subst hanswer hstore hstore'
    rw [List.mapM_cons, List.mapM_cons, ih hqs hexs hexs']
    rfl

end Demo.Tour

namespace CommandLine

open Demo.Tour (Exchanged questions)
open Demo.Users (onDisk resolve_onDisk)
open Store.Seeding (HasRecord)

/-- What is written, if there is a report, and the exit code. -/
def Outcome.ofReport : Option String → Outcome
  | none => ⟨1, ""⟩
  | some text => ⟨0, text ++ "\n"⟩

namespace Given

variable {g : Given} {d : Disk E} {file : String}

/-- What the program does to the table of the users in a database. -/
def prepareIn (g : Given) (c : E.Content) : Except StoreError Nat × E.Content :=
  if g.reset then Seeding.resetIn Demo.Search.metadata Demo.Users.seed c
  else Seeding.ensureIn Demo.Search.metadata Demo.Users.seed c

/-- The program sees to the table in the database of a file. -/
theorem prepare_eq (hfile : d.connect g.context.connection = .ok (.file file)) :
    (g.prepare (onDisk d)).1 = (g.prepareIn (d.read (.file file))).1 ∧
      (onDisk d).Leaves (g.prepare (onDisk d)).2 file (g.prepareIn (d.read (.file file))).2 := by
  have hlocation : (onDisk d).store.connect g.context.connection = .ok (.file file) := hfile
  have hread : (onDisk d).store.read (.file file) = d.read (.file file) := rfl
  cases hreset : g.reset with
  | true =>
    simp only [prepare, prepareIn, hreset, if_true, ← hread]
    exact Seeding.reset_eq_resetIn _ (resolve_onDisk d) hlocation
  | false =>
    simp only [prepare, prepareIn, hreset, Bool.false_eq_true, if_false, ← hread]
    exact Seeding.ensure_eq_ensureIn _ (resolve_onDisk d) hlocation

/-- What it comes to in no file is that metadata were asked for. -/
theorem prepare_snd (h : ∀ file, d.connect g.context.connection ≠ .ok (.file file)) :
    (g.prepare (onDisk d)).2.store = d ∧
      ((g.prepare (onDisk d)).2.resolve Demo.Users.type).1 = .ok Demo.Search.metadata := by
  have hresolved (w : World (Disk E)) : (w.resolve Demo.Users.type).2.store = w.store ∧
      ((w.resolve Demo.Users.type).2.resolve Demo.Users.type).1 =
        (w.resolve Demo.Users.type).1 :=
    ⟨(w.resolve_snd _).1, World.resolve_again rfl _⟩
  have hlocation : ∀ file, (onDisk d).store.connect g.context.connection ≠ .ok (.file file) := h
  obtain ⟨hstore, hresolve⟩ := hresolved (onDisk d)
  cases hreset : g.reset with
  | false =>
    simp only [prepare, hreset, Bool.false_eq_true, if_false,
      Seeding.ensure_snd Demo.Users.type Demo.Users.seed hlocation]
    exact ⟨hstore, hresolve⟩
  | true =>
    simp only [prepare, hreset, if_true]
    obtain hsnd | hsnd := Seeding.reset_snd Demo.Users.type Demo.Users.seed hlocation
    · rw [hsnd]
      exact ⟨hstore, hresolve⟩
    · obtain ⟨hstore', hresolve'⟩ := hresolved ((onDisk d).resolve Demo.Users.type).2
      rw [hsnd]
      exact ⟨hstore'.trans hstore, hresolve'.trans hresolve⟩

/-- Users are known afterwards. -/
theorem known_prepare (g : Given) (d : Disk E) :
    Demo.Tour.Known (g.prepare (onDisk d)).2 := by
  refine .of_resolve ?_
  by_cases h : ∃ file, d.connect g.context.connection = .ok (.file file)
  · obtain ⟨file, hfile⟩ := h
    exact ((prepare_eq hfile).2.resolve _).trans (resolve_onDisk d)
  · exact (prepare_snd fun file hfile => h ⟨file, hfile⟩).2

/-- Without users there is no report. -/
theorem report_of_error {w : World (Disk E)} {e : StoreError} (h : (g.prepare w).1 = .error e) :
    g.report w = (none, (g.prepare w).2) := by
  rw [report]
  generalize g.prepare w = r at h
  obtain ⟨_ | _, w'⟩ := r <;> cases h
  rfl

/-- With users the report is that of the tour. -/
theorem report_of_ok {w : World (Disk E)} {n : Nat} (h : (g.prepare w).1 = .ok n) :
    (g.report w).1 = (Demo.Tour.run Disk.executor g.context (g.prepare w).2).1.toOption.map
        (g.format.getD .table).write ∧
      (g.report w).2.store =
        (Demo.Tour.run Disk.executor g.context (g.prepare w).2).2.store := by
  rw [report]
  generalize g.prepare w = r at h
  obtain ⟨_ | _, w₁⟩ := r <;> cases h
  dsimp only
  generalize Demo.Tour.run Disk.executor g.context w₁ = r
  obtain ⟨_ | sections, w₂⟩ := r <;> exact ⟨rfl, rfl⟩

end Given

namespace Program

open Demo (Exchange)

variable {args args' : List String} {g g' : Given} {d d' : Disk E} {file file' : String}

/-- A run of the program that is asked for a report. -/
theorem run_eq (hargs : Command.ofArguments args = .report g) (d : Disk E) :
    run args d = (.ofReport (g.report (onDisk d)).1, (g.report (onDisk d)).2.store) := by
  simp only [run, hargs, onDisk]
  rcases g.report ((World.ofStore d).declare Demo.Users.declaration) with ⟨_ | text, w⟩ <;> rfl

/-- Without users nothing is written. -/
theorem run_of_error (hargs : Command.ofArguments args = .report g) {e : StoreError}
    (h : (g.prepare (onDisk d)).1 = .error e) :
    run args d = (⟨1, ""⟩, (g.prepare (onDisk d)).2.store) := by
  rw [run_eq hargs, Given.report_of_error h]
  rfl

/-- With users the report is that of the exchanges with the disk that the run leaves. -/
theorem run_of_ok (hargs : Command.ofArguments args = .report g) {n : Nat}
    (h : (g.prepare (onDisk d)).1 = .ok n) :
    ∃ exs, Exchanged Disk.executor g.context.connection questions
        (g.prepare (onDisk d)).2.store exs ∧
      run args d = (.ofReport ((exs.mapM Exchange.section?).toOption.map
        (g.format.getD .table).write), (g.prepare (onDisk d)).2.store) := by
  obtain ⟨exs, hexchanged, hsections, hstore⟩ :=
    Demo.Tour.exists_exchanged_disk (g.known_prepare d) g.context
  obtain ⟨htext, hreport⟩ := Given.report_of_ok h
  exact ⟨exs, hexchanged, by rw [run_eq hargs, htext, hreport, hsections, hstore]⟩

/-- What a run comes to. -/
inductive Ends (g : Given) (d : Disk E) : Outcome × Disk E → Prop
  /-- There are no users to ask about. -/
  | unprepared {e : StoreError} {after : Disk E} : (g.prepare (onDisk d)).1 = .error e →
    Ends g d (⟨1, ""⟩, after)
  /-- One of the exchanges fails. -/
  | failed {exs : List (Exchange (Disk E))} {ex : Exchange (Disk E)} {e : Error}
    {after : Disk E} : Exchanged Disk.executor g.context.connection questions after exs →
    ex ∈ exs → ex.Fails e → Ends g d (⟨1, ""⟩, after)
  /-- The document has a section for each exchange, which shows what its rows are read into. -/
  | reported {exs : List (Exchange (Disk E))} {sections : List Report.Section}
    {after : Disk E} : Exchanged Disk.executor g.context.connection questions after exs →
    List.Forall₂ Exchange.Shown exs sections →
    Ends g d (⟨0, (g.format.getD .table).write sections ++ "\n"⟩, after)

/-- What is written is the report of all exchanges, or it is nothing. -/
theorem run_ends (hargs : Command.ofArguments args = .report g) (d : Disk E) :
    Ends g d (run args d) := by
  cases hprepare : (g.prepare (onDisk d)).1 with
  | error e =>
    rw [run_of_error hargs hprepare]
    exact .unprepared hprepare
  | ok n =>
    obtain ⟨exs, hexchanged, hrun⟩ := run_of_ok hargs hprepare
    rw [hrun]
    cases hsections : exs.mapM Exchange.section? with
    | error e =>
      obtain ⟨ex, hex, hfails⟩ := Demo.Tour.exists_fails hsections
      exact .failed hexchanged hex hfails
    | ok sections => exact .reported hexchanged (hexchanged.shown hsections)

/-- Users that are stored are found, and nothing is changed. -/
theorem prepare_of_hasRecord (hV : V.Lawful)
    (hadmits : V.Admits (TableDefinition.ofMetadata Demo.Search.metadata).sql [])
    (hreset : g.reset = false) (hfile : d.connect g.context.connection = .ok (.file file))
    (h : HasRecord V "users" (d.read (.file file))) :
    (g.prepare (onDisk d)).1 = .ok 0 ∧
      (∀ connection, (g.prepare (onDisk d)).2.store.connect connection = d.connect connection) ∧
      ∀ location, (g.prepare (onDisk d)).2.store.read location = d.read location := by
  obtain ⟨t, ht, hrecords⟩ := h
  obtain ⟨hanswer, hleaves⟩ := Given.prepare_eq hfile
  have hmakes := Demo.Users.makes_definition hV hadmits
  have hfound : g.prepareIn (d.read (.file file)) = (.ok 0, d.read (.file file)) := by
    rw [Given.prepareIn, hreset, if_neg Bool.false_ne_true,
      Seeding.ensureIn_of_entry hmakes ht,
      Seeding.fillIn_of_ne_nil hV Demo.Users.named_metadata.table ht hrecords]
  rw [hfound] at hanswer hleaves
  exact ⟨hanswer, hleaves.connect, hleaves.read_eq⟩

/-- Users that were found or made without a reset are stored. -/
theorem hasRecord_of_prepare (hV : V.Lawful)
    (hadmits : V.Admits (TableDefinition.ofMetadata Demo.Search.metadata).sql [])
    (hreset : g.reset = false) (hfile : d.connect g.context.connection = .ok (.file file))
    (hentry : V.entry (d.read (.file file)) "users" ≠ .other) {n : Nat}
    (h : (g.prepare (onDisk d)).1 = .ok n) :
    HasRecord V "users" ((g.prepare (onDisk d)).2.store.read (.file file)) := by
  obtain ⟨hanswer, hleaves⟩ := Given.prepare_eq hfile
  have hensure : g.prepareIn (d.read (.file file)) =
      Seeding.ensureIn Demo.Search.metadata Demo.Users.seed (d.read (.file file)) := by
    rw [Given.prepareIn, hreset, if_neg Bool.false_ne_true]
  rw [h, hensure] at hanswer
  rw [hleaves.read, hensure]
  exact Seeding.hasRecord_of_ensureIn hV Demo.Users.named_metadata
    (Demo.Users.makes_definition hV hadmits) (by decide) hentry hanswer.symm

/-- After a report the next run without a reset writes the same, and changes nothing. -/
theorem run_again (hV : V.Lawful)
    (hadmits : V.Admits (TableDefinition.ofMetadata Demo.Search.metadata).sql [])
    (hargs : Command.ofArguments args = .report g) (hreset : g.reset = false)
    (hentry : ∀ file, d.connect g.context.connection = .ok (.file file) →
      V.entry (d.read (.file file)) "users" ≠ .other)
    (hcode : (run args d).1.code = 0) :
    (run args (run args d).2).1 = (run args d).1 ∧
      ∀ location, (run args (run args d).2).2.read location = (run args d).2.read location := by
  cases hprepare : (g.prepare (onDisk d)).1 with
  | error e =>
    rw [run_of_error hargs hprepare] at hcode
    cases hcode
  | ok n =>
    obtain ⟨exs, hexchanged, hrun⟩ := run_of_ok hargs hprepare
    by_cases hlocation : ∃ file, d.connect g.context.connection = .ok (.file file)
    · obtain ⟨file, hfile⟩ := hlocation
      have hstored := hasRecord_of_prepare hV hadmits hreset hfile (hentry file hfile) hprepare
      have hfile' := ((Given.prepare_eq hfile).2.connect g.context.connection).trans hfile
      -- The disk that is left is one on which users are stored.
      rw [hrun]
      generalize (g.prepare (onDisk d)).2.store = after at hstored hfile' hexchanged
      obtain ⟨hagain, hconnect, hread⟩ :=
        prepare_of_hasRecord hV hadmits hreset hfile' hstored
      obtain ⟨exs', hexchanged', hrun'⟩ := run_of_ok hargs hagain
      have hsections := hexchanged'.sections_congr
        (fun _ _ p _ => Disk.query_congr (hconnect _) hread p.render) hexchanged
      rw [hrun', hsections]
      exact ⟨rfl, hread⟩
    · -- In memory nothing is left, so that the next run is this run.
      have hstore := (Given.prepare_snd fun file hfile => hlocation ⟨file, hfile⟩).1
      have hafter : (run args d).2 = d := by rw [hrun, hstore]
      rw [hafter, hafter]
      exact ⟨rfl, fun _ => rfl⟩

/-- A reset leaves the same users in whatever database, or in none. -/
theorem exists_prepare_reset (hV : V.Lawful) : ∃ answer held,
    Seeding.Outcome V Demo.Search.metadata Demo.Users.definition Demo.Users.seed answer held ∧
      ∀ (g : Given) (d : Disk E) file, g.reset = true →
        d.connect g.context.connection = .ok (.file file) →
        V.entry (d.read (.file file)) "users" ≠ .other →
          (g.prepare (onDisk d)).1 = answer ∧
            (V.entry ((g.prepare (onDisk d)).2.store.read (.file file)) "users").table? = held ∧
            (g.prepare (onDisk d)).2.store.connect g.context.connection = .ok (.file file) := by
  obtain ⟨answer, held, houtcome, hvacant, -⟩ := Seeding.exists_outcome hV
    Demo.Users.named_metadata (by decide) Demo.Users.seed
  refine ⟨answer, held, houtcome, fun g d file hreset hfile hentry => ?_⟩
  obtain ⟨hanswer, hleaves⟩ := Given.prepare_eq hfile
  have hdoes := Seeding.does_resetIn hV Demo.Users.named_metadata.table hentry hvacant
  rw [Given.prepareIn, if_pos hreset] at hanswer hleaves
  refine ⟨hanswer.trans hdoes.answer, ?_, (hleaves.connect _).trans hfile⟩
  rw [hleaves.read]
  exact hdoes.held

/-- A question about users is answered in the same way wherever the same table of users is. -/
theorem query_eq_of_entry (hV : V.Lawful) {connection connection' : String} {t : Table}
    (ht : t.definition = Demo.Users.definition)
    (hfile : d.connect connection = .ok (.file file))
    (hfile' : d'.connect connection' = .ok (.file file'))
    (hentry : V.entry (d.read (.file file)) "users" = .table t)
    (hentry' : V.entry (d'.read (.file file')) "users" = .table t) {c : Chain} {p : Plan}
    (hp : Plan.ofChain Demo.Search.metadata c = .ok p) :
    d.query connection p.render = d'.query connection' p.render := by
  have hof := Plan.ofChain_eq_ok_iff.1 hp
  have hcolumns : t.columns = Demo.Search.metadata.columns.map ColumnDefinition.ofBinding := by
    rw [Table.columns, ht]
    rfl
  have hapart : t.columns.Pairwise ColumnDefinition.Apart := by
    rw [hcolumns]
    exact Demo.Users.keyed_metadata.pairwise_apart
  obtain ⟨u, vs, hl, hrender⟩ := hof.exists_sentence
  have hasks := hof.asksTable hl (by rw [hrender]) Demo.Users.keyed_metadata.names
    Demo.Search.isTable_users (by decide) hcolumns hapart
  simp only [Disk.query, hfile, hfile', hV.prepare_congr hasks hentry hentry']

/-- What a run with a reset writes depends on nothing but the format. -/
theorem run_afresh (hV : V.Lawful) (hargs : Command.ofArguments args = .report g)
    (hargs' : Command.ofArguments args' = .report g') (hreset : g.reset = true)
    (hreset' : g'.reset = true) (hformat : g'.format.getD .table = g.format.getD .table)
    (hfile : d.connect g.context.connection = .ok (.file file))
    (hfile' : d'.connect g'.context.connection = .ok (.file file'))
    (hentry : V.entry (d.read (.file file)) "users" ≠ .other)
    (hentry' : V.entry (d'.read (.file file')) "users" ≠ .other) :
    (run args' d').1 = (run args d).1 := by
  obtain ⟨answer, held, houtcome, hprepare⟩ := exists_prepare_reset hV
  obtain ⟨hanswer, hheld, hconnect⟩ := hprepare g d file hreset hfile hentry
  obtain ⟨hanswer', hheld', hconnect'⟩ := hprepare g' d' file' hreset' hfile' hentry'
  cases answer with
  | error e => rw [run_of_error hargs hanswer, run_of_error hargs' hanswer']
  | ok n =>
    obtain ⟨-, t, rfl, hholds⟩ := houtcome.exists_holds
    obtain ⟨exs, hexchanged, hrun⟩ := run_of_ok hargs hanswer
    obtain ⟨exs', hexchanged', hrun'⟩ := run_of_ok hargs' hanswer'
    -- Both runs ask of the table that both have left.
    have hsections := hexchanged'.sections_congr (fun _ _ p hp => query_eq_of_entry hV
      hholds.definition hconnect' hconnect (Entry.eq_table hheld')
      (Entry.eq_table hheld) hp) hexchanged
    rw [hrun, hrun', hsections, hformat]

/-- What there is to say of a run that is asked for a report. -/
structure Reports (V : View E) (args : List String) (g : Given) (d : Disk E) : Prop where
  /-- The disk that the run leaves is asked all questions, and all of its answers are
      reported, or nothing is written. -/
  whole : Ends g d (run args d)
  /-- After a report the next run writes the same, and changes nothing, if what went by the
      name of the table of users was a table. -/
  again : (∀ file, d.connect g.context.connection = .ok (.file file) →
      V.entry (d.read (.file file)) "users" ≠ .other) →
    g.reset = false → (run args d).1.code = 0 →
      (run args (run args d).2).1 = (run args d).1 ∧
        ∀ location, (run args (run args d).2).2.read location = (run args d).2.read location
  /-- Any other run with a reset that writes in the same format writes the same. -/
  afresh : g.reset = true → ∀ file, d.connect g.context.connection = .ok (.file file) →
    V.entry (d.read (.file file)) "users" ≠ .other →
      ∀ args' g' d' file', Command.ofArguments args' = .report g' → g'.reset = true →
        g'.format.getD .table = g.format.getD .table →
          d'.connect g'.context.connection = .ok (.file file') →
            V.entry (d'.read (.file file')) "users" ≠ .other →
              (run args' d').1 = (run args d).1

end Program

end CommandLine

end EntityQuery
