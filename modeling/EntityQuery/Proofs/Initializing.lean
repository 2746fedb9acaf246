import EntityQuery.Proofs.Seeding
import EntityQuery.Proofs.Sending

/-!
# Initialization, once and for all

Requests for the table of an entity type and queries may follow one another in any order
(`Seeding.after`). In every world that is reached in this way from one without the table, and
whatever lawful engine carries out the statements, a seed is inserted as a whole or not at all,
and only where there is no row yet (`Seeding.Settles`); `Seeding.ensure_all_or_nothing` says so
for all runs.

The names stand in the statements as the mapping states them. A column whose name ends the
definition of its table, and goes on with a statement of its own, inserts a row into the
table with each request (`Demo.Injected.not_settled`).
-/

namespace EntityQuery

open Store
open Sql (IsTable)

variable {E : Engine}

/-- The table that stands under a name in the database of a file. -/
def World.tableAt (V : View E) (w : World (Disk E)) (file name : String) : Option Table :=
  (V.entry (w.store.read (.file file)) name).table?

/-! ## Queries -/

namespace World

/-- Translating a chain leaves every database as it was. -/
theorem leaves_translate (w : World (Disk E)) (c : Chain) (file : String) :
    w.Leaves (w.translate c).2 file (w.store.read (.file file)) := by
  have hresolve := w.leaves_resolve c.root file
  simp only [translate]
  generalize w.resolve c.root = r at hresolve ⊢
  obtain ⟨_ | m, w'⟩ := r
  · exact hresolve
  · dsimp only
    cases Plan.ofChain m c with
    | error e => exact hresolve
    | ok p =>
      have hreport : w'.Leaves (w'.report (.translated p)) file (w'.store.read (.file file)) := by
        refine leaves_of_eq ?_ ?_ file <;> rfl
      rw [hresolve.read] at hreport
      exact hresolve.trans hreport

/-- Putting a statement to the store leaves the store as it was. -/
theorem store_execute (w : World (Disk E)) (c : Context) (s : Statement) :
    (w.execute Disk.executor c s).2.store = w.store := by
  have hstore := Disk.executor_execute_snd c.connection s w.store
  simp only [execute, report]
  cases (Disk.executor.execute c.connection s w.store).1 <;> exact hstore

/-- Putting a statement to the store leaves every database as it was. -/
theorem leaves_execute (w : World (Disk E)) (c : Context) (s : Statement) (file : String) :
    w.Leaves (w.execute Disk.executor c s).2 file (w.store.read (.file file)) :=
  leaves_of_eq (w.store_execute c s) (w.execute_eq Disk.executor c s).2 file

/-- Putting a query to the store leaves every database as it was. -/
theorem leaves_items (w : World (Disk E)) (h : Handle) (file : String) :
    w.Leaves (h.items Disk.executor w).2 file (w.store.read (.file file)) := by
  have htranslate := w.leaves_translate h.chain file
  simp only [Handle.items, Handle.plan]
  generalize w.translate h.chain = r at htranslate ⊢
  obtain ⟨_ | p, w'⟩ := r
  · exact htranslate
  · have hexecute := w'.leaves_execute h.context p.render file
    rw [htranslate.read] at hexecute
    have hitems := htranslate.trans hexecute
    dsimp only
    generalize w'.execute Disk.executor h.context p.render = r' at hitems ⊢
    obtain ⟨_ | rows, w''⟩ := r' <;> exact hitems

end World

namespace Store.Seeding

/-! ## Runs -/

/-- A request for the table of an entity type, or a query. -/
inductive Call where
  | ensure (seed : List SeedRow)
  | reset (seed : List SeedRow)
  | items (h : Handle)
  | collect (h : Handle)
  | firstOrNone (h : Handle)
  | first (h : Handle)

/-- The world after a call. -/
def Call.after (connection : String) (t : EntityType) (w : World (Disk E)) :
    Call → World (Disk E)
  | .ensure seed => (Seeding.ensure connection t seed w).2
  | .reset seed => (Seeding.reset connection t seed w).2
  | .items h => (h.items Disk.executor w).2
  | .collect h => (h.collect Disk.executor w).2
  | .firstOrNone h => (h.firstOrNone Disk.executor w).2
  | .first h => (h.first Disk.executor w).2

/-- The world after calls. -/
def after (connection : String) (t : EntityType) (w : World (Disk E)) (calls : List Call) :
    World (Disk E) :=
  calls.foldl (Call.after connection t) w

/-- Whether a call drops the table. -/
def Call.drops : Call → Bool
  | .reset _ => true
  | _ => false

/-- What a request for a table and its seed comes to in a world that calls have led to from
    another. -/
structure Settles (V : View E) (connection : String) (t : EntityType) (m : Metadata)
    (d : TableDefinition) (file : String) (first w : World (Disk E)) (seed : List SeedRow) :
    Prop where
  /-- A table that has a row is left as it is, and so is all else. -/
  seeded : ∀ table, w.tableAt V file d.name = some table → table.records ≠ [] →
    (ensure connection t seed w).1 = .ok 0 ∧
      ∀ location, (ensure connection t seed w).2.store.read location = w.store.read location
  /-- Where there is no row, all of the seed is inserted, or none of it. -/
  unseeded : (∀ table, w.tableAt V file d.name = some table → table.records = []) →
    ((ensure connection t seed w).1 = .ok seed.length ∧
      ∃ table, (ensure connection t seed w).2.tableAt V file d.name = some table ∧
        Holds V m d seed table) ∨
    ∃ e, (ensure connection t seed w).1 = .error e ∧
      ∀ table, (ensure connection t seed w).2.tableAt V file d.name = some table →
        table.records = []
  /-- After a failure, all is inserted of a seed that could have been inserted at first. -/
  retried : ∀ e, (ensure connection t seed w).1 = .error e → ∀ good n,
    (ensure connection t good first).1 = .ok n →
      (ensure connection t good (ensure connection t seed w).2).1 = .ok good.length ∧
        ∃ table, (ensure connection t good (ensure connection t seed w).2).2.tableAt V file
          d.name = some table ∧ Holds V m d good table
  /-- After a success, nothing is inserted until the table is dropped. -/
  once : ∀ n, (ensure connection t seed w).1 = .ok n → seed ≠ [] →
    ∀ calls : List Call, (∀ call ∈ calls, call.drops = false) → ∀ later,
      (ensure connection t later (after connection t (ensure connection t seed w).2 calls)).1 =
          .ok 0 ∧
        ∀ location, (ensure connection t later
          (after connection t (ensure connection t seed w).2 calls)).2.store.read location =
            (ensure connection t seed w).2.store.read location
  /-- No other table is touched. -/
  others : V.Keeps d.name (w.store.read (.file file))
    ((ensure connection t seed w).2.store.read (.file file))
  elsewhere : ∀ location, location ≠ .file file →
    (ensure connection t seed w).2.store.read location = w.store.read location

/-- A database that calls leave: the name of the table is vacant, or it is that of a table that
    the definition makes, which is a new one if it has no row. -/
def Kept (V : View E) (m : Metadata) (d : TableDefinition) (c : E.Content) : Prop :=
  V.Vacant d.name c ∨ ∃ table, V.entry c d.name = .table table ∧
    V.Makes (TableDefinition.ofMetadata m).sql d ∧ (table.records = [] → table = .empty d)

/-- What is known of a world that calls have led to: the metadata and the file are found as
    before, and the file holds what calls leave. -/
structure Reached (V : View E) (connection : String) (t : EntityType) (m : Metadata)
    (d : TableDefinition) (file : String) (w : World (Disk E)) : Prop where
  resolve : (w.resolve t).1 = .ok m
  connect : w.store.connect connection = .ok (.file file)
  kept : Kept V m d (w.store.read (.file file))

variable {V : View E} {connection file : String} {t : EntityType} {m : Metadata}
  {d : TableDefinition} {seed : List SeedRow} {w w' : World (Disk E)} {c : E.Content}
  {table : Table}

/-- A call whose result is reached. -/
theorem Reached.of_leaves (h : Reached V connection t m d file w) (hleaves : w.Leaves w' file c)
    (hkept : Kept V m d c) : Reached V connection t m d file w' where
  resolve := (hleaves.resolve t).trans h.resolve
  connect := (hleaves.connect connection).trans h.connect
  kept := by rwa [hleaves.read]

/-- A table that is there is one that the definition makes. -/
theorem Kept.of_table? (hV : V.Lawful) (h : Kept V m d c)
    (htable : (V.entry c d.name).table? = some table) :
    V.entry c d.name = .table table ∧ V.Makes (TableDefinition.ofMetadata m).sql d ∧
      (table.records = [] → table = .empty d) := by
  obtain hvacant | ⟨table', hentry, hmakes, hnew⟩ := h
  · rw [table?_eq_none hV hvacant] at htable
    cases htable
  · rw [hentry] at htable
    cases htable
    exact ⟨hentry, hmakes, hnew⟩

/-- Every outcome leaves a table that the definition makes. -/
theorem Outcome.makes {answer : Except StoreError Nat} {held : Option Table}
    (h : Outcome V m d seed answer held) (htable : held = some table) :
    V.Makes (TableDefinition.ofMetadata m).sql d ∧
      (table.records = [] → table = .empty d) := by
  cases h with
  | unmade => cases htable
  | refused e hmakes =>
    cases htable
    exact ⟨hmakes, fun _ => rfl⟩
  | filled t hmakes hholds =>
    cases htable
    exact ⟨hmakes, hholds.eq_empty⟩

/-- Every outcome leaves what calls leave. -/
theorem Outcome.kept {answer : Except StoreError Nat} {held : Option Table}
    {r : Except StoreError Nat × E.Content} (h : Outcome V m d seed answer held)
    (hdoes : Does V d.name held c r answer) : Kept V m d r.2 := by
  cases hheld : held with
  | none => exact .inl (hdoes.vacant hheld)
  | some table =>
    obtain ⟨hmakes, hnew⟩ := h.makes hheld
    exact .inr ⟨table, Entry.eq_table (hdoes.held.trans hheld), hmakes, hnew⟩

/-! ## One request -/

/-- A table that has a row is left as it is, and so is all else. -/
theorem Reached.ensure_of_record (hV : V.Lawful) (hname : IsTable m.table d.name)
    (h : Reached V connection t m d file w) (htable : w.tableAt V file d.name = some table)
    (hne : table.records ≠ []) (seed : List SeedRow) :
    (ensure connection t seed w).1 = .ok 0 ∧
      w.Leaves (ensure connection t seed w).2 file (w.store.read (.file file)) := by
  have hensure := ensure_eq_ensureIn seed h.resolve h.connect
  obtain ⟨hentry, hmakes, -⟩ := h.kept.of_table? hV htable
  rwa [ensureIn_of_entry hmakes hentry, fillIn_of_ne_nil hV hname hentry hne] at hensure

/-- In all worlds that are reached and have no row, a request has one outcome. -/
theorem Reached.exists_outcome (hV : V.Lawful) (hd : m.Named d)
    (hfields : (m.columns.map (·.field)).Nodup) (connection : String) (t : EntityType)
    (file : String) (seed : List SeedRow) :
    ∃ answer held, Outcome V m d seed answer held ∧ ∀ w, Reached V connection t m d file w →
      (∀ table, w.tableAt V file d.name = some table → table.records = []) →
        (ensure connection t seed w).1 = answer ∧
          (ensure connection t seed w).2.tableAt V file d.name = held ∧
          ∃ c, w.Leaves (ensure connection t seed w).2 file c ∧ Kept V m d c ∧
            V.Keeps d.name (w.store.read (.file file)) c := by
  obtain ⟨answer, held, houtcome, hvacant, hempty⟩ := Seeding.exists_outcome hV hd hfields seed
  refine ⟨answer, held, houtcome, fun w h hnone => ?_⟩
  obtain ⟨hanswer, hleaves⟩ := ensure_eq_ensureIn seed h.resolve h.connect
  have hdoes : Does V d.name held (w.store.read (.file file))
      (ensureIn m seed (w.store.read (.file file))) answer := by
    obtain habsent | ⟨table, hentry, hmakes, hnew⟩ := h.kept
    · exact hvacant _ habsent
    · have htable : w.tableAt V file d.name = some table := by rw [World.tableAt, hentry]; rfl
      exact hempty hmakes _ (by rw [hentry, hnew (hnone table htable)])
  refine ⟨hanswer.trans hdoes.answer, ?_, _, hleaves, houtcome.kept hdoes, hdoes.keeps⟩
  rw [World.tableAt, hleaves.read, hdoes.held]

/-- Without a record in a table there is none in any. -/
theorem record_or_none (V : View E) (w : World (Disk E)) (file name : String) :
    (∃ table, w.tableAt V file name = some table ∧ table.records ≠ []) ∨
      ∀ table, w.tableAt V file name = some table → table.records = [] := by
  by_cases h : ∃ table, w.tableAt V file name = some table ∧ table.records ≠ []
  · exact .inl h
  · push Not at h
    exact .inr h

theorem Reached.ensure (hV : V.Lawful) (hd : m.Named d)
    (hfields : (m.columns.map (·.field)).Nodup) (h : Reached V connection t m d file w)
    (seed : List SeedRow) : Reached V connection t m d file (ensure connection t seed w).2 := by
  obtain ⟨table, htable, hne⟩ | hnone := record_or_none V w file d.name
  · exact h.of_leaves (h.ensure_of_record hV hd.table htable hne seed).2 h.kept
  · obtain ⟨answer, held, -, hone⟩ :=
      Reached.exists_outcome hV hd hfields connection t file seed
    obtain ⟨-, -, c, hleaves, hkept, -⟩ := hone w h hnone
    exact h.of_leaves hleaves hkept

theorem Reached.reset (hV : V.Lawful) (hd : m.Named d)
    (hfields : (m.columns.map (·.field)).Nodup) (h : Reached V connection t m d file w)
    (seed : List SeedRow) : Reached V connection t m d file (reset connection t seed w).2 := by
  obtain ⟨-, hleaves⟩ := reset_eq_resetIn seed h.resolve h.connect
  by_cases hother : V.entry (w.store.read (.file file)) d.name = .other
  · -- Only what the database keeps for itself is neither vacant nor a table, and that stays.
    have hreserved : Database.isReserved d.name = true := by
      obtain (habsent | hreserved) | ⟨table, hentry, -⟩ := h.kept
      · cases habsent.symm.trans hother
      · exact hreserved
      · cases hentry.symm.trans hother
    obtain ⟨f, hf⟩ := hV.drop_reserved (dropsTable_dropSql hd.table) hreserved hother
    simp only [resetIn, hf] at hleaves
    exact h.of_leaves hleaves h.kept
  · obtain ⟨answer, held, houtcome, hvacant, -⟩ := Seeding.exists_outcome hV hd hfields seed
    exact h.of_leaves hleaves (houtcome.kept (does_resetIn hV hd.table hother hvacant))

/-- A query, in whatever way it is put to the store, leaves every database as it was. -/
theorem Call.leaves_of_query (w : World (Disk E)) (h : Handle) (file : String) {call : Call}
    (hcall : call ∈ [Call.items h, .collect h, .firstOrNone h, .first h]) :
    w.Leaves (call.after connection t w) file (w.store.read (.file file)) := by
  simp only [List.mem_cons, List.not_mem_nil, or_false] at hcall
  obtain rfl | rfl | rfl | rfl := hcall
  · exact w.leaves_items h file
  · rw [Call.after, Handle.collect_snd]
    exact w.leaves_items h file
  · rw [Call.after, Handle.firstOrNone_eq]
    exact w.leaves_items (h.limit 1) file
  · rw [Call.after, Handle.first_eq, Handle.firstOrNone_eq]
    exact w.leaves_items (h.limit 1) file

/-- Every call leads to a world that is reached. -/
theorem Reached.call (hV : V.Lawful) (hd : m.Named d)
    (hfields : (m.columns.map (·.field)).Nodup) (h : Reached V connection t m d file w)
    (call : Call) : Reached V connection t m d file (call.after connection t w) := by
  cases call with
  | ensure seed => exact h.ensure hV hd hfields seed
  | reset seed => exact h.reset hV hd hfields seed
  | items q | collect q | firstOrNone q | first q =>
    exact h.of_leaves (Call.leaves_of_query w q file (by simp)) h.kept

/-- Where there is a row, a call that does not drop the table leaves every database as it was. -/
theorem Reached.leaves_of_record (hV : V.Lawful) (hd : m.Named d)
    (h : Reached V connection t m d file w) (htable : w.tableAt V file d.name = some table)
    (hne : table.records ≠ []) {call : Call} (hcall : call.drops = false) :
    w.Leaves (call.after connection t w) file (w.store.read (.file file)) := by
  cases call with
  | ensure seed => exact (h.ensure_of_record hV hd.table htable hne seed).2
  | reset seed => cases hcall
  | items q | collect q | firstOrNone q | first q =>
    exact Call.leaves_of_query w q file (by simp)

/-! ## Runs of requests -/

/-- Every run leads to a world that is reached. -/
theorem Reached.after (hV : V.Lawful) (hd : m.Named d)
    (hfields : (m.columns.map (·.field)).Nodup) (h : Reached V connection t m d file w)
    (calls : List Call) : Reached V connection t m d file (after connection t w calls) := by
  induction calls generalizing w with
  | nil => exact h
  | cons call calls ih => exact ih (h.call hV hd hfields call)

/-- Where there is a row, a run that does not drop the table leaves every database as it was. -/
theorem Reached.leaves_after (hV : V.Lawful) (hd : m.Named d)
    (hfields : (m.columns.map (·.field)).Nodup) (h : Reached V connection t m d file w)
    (htable : w.tableAt V file d.name = some table) (hne : table.records ≠ [])
    {calls : List Call} (hcalls : ∀ call ∈ calls, call.drops = false) :
    w.Leaves (Seeding.after connection t w calls) file (w.store.read (.file file)) := by
  induction calls generalizing w with
  | nil => exact World.leaves_of_eq rfl rfl file
  | cons call calls ih =>
    rw [List.forall_mem_cons] at hcalls
    have hcall := h.leaves_of_record hV hd htable hne hcalls.1
    have hrest := ih (h.call hV hd hfields call) (by rwa [World.tableAt, hcall.read]) hcalls.2
    rw [hcall.read] at hrest
    exact hcall.trans hrest

/-- A success with a row leaves a table with a row. -/
theorem Reached.exists_record (hV : V.Lawful) (hd : m.Named d)
    (hfields : (m.columns.map (·.field)).Nodup) (h : Reached V connection t m d file w) {n : Nat}
    (hok : (Seeding.ensure connection t seed w).1 = .ok n) (hne : seed ≠ []) :
    ∃ table, (Seeding.ensure connection t seed w).2.tableAt V file d.name = some table ∧
      table.records ≠ [] := by
  obtain ⟨table, htable, hrecord⟩ | hnone := record_or_none V w file d.name
  · refine ⟨table, ?_, hrecord⟩
    rw [World.tableAt, (h.ensure_of_record hV hd.table htable hrecord seed).2.read]
    exact htable
  · obtain ⟨answer, held, houtcome, hone⟩ :=
      Reached.exists_outcome hV hd hfields connection t file seed
    obtain ⟨hanswer, hheld, -⟩ := hone w h hnone
    obtain rfl := hanswer.symm.trans hok
    obtain ⟨-, table, rfl, hholds⟩ := houtcome.exists_holds
    refine ⟨table, hheld, fun hnil => hne ?_⟩
    rw [← List.length_eq_zero_iff, ← hholds.length_eq, hnil, List.length_nil]

/-- After a failure the table has no row. -/
theorem Reached.record_none (hV : V.Lawful) (hd : m.Named d)
    (hfields : (m.columns.map (·.field)).Nodup) (h : Reached V connection t m d file w)
    {e : StoreError} (herror : (Seeding.ensure connection t seed w).1 = .error e) :
    ∀ table, (Seeding.ensure connection t seed w).2.tableAt V file d.name = some table →
      table.records = [] := by
  obtain ⟨table, htable, hne⟩ | hnone := record_or_none V w file d.name
  · -- Where there was a row, nothing has failed.
    rw [(h.ensure_of_record hV hd.table htable hne seed).1] at herror
    cases herror
  · obtain ⟨answer, held, houtcome, hone⟩ :=
      Reached.exists_outcome hV hd hfields connection t file seed
    obtain ⟨hanswer, hheld, -⟩ := hone w h hnone
    obtain rfl := hanswer.symm.trans herror
    intro table htable
    rw [houtcome.eq_empty table (hheld.symm.trans htable)]
    rfl

/-- In every world that is reached, a request for a table and its seed comes to what is
    expected of it. -/
theorem Reached.settles (hV : V.Lawful) (hd : m.Named d)
    (hfields : (m.columns.map (·.field)).Nodup) {first : World (Disk E)}
    (hfirst : Reached V connection t m d file first)
    (hnone : ∀ table, first.tableAt V file d.name = some table → table.records = [])
    (h : Reached V connection t m d file w) (seed : List SeedRow) :
    Settles V connection t m d file first w seed := by
  obtain ⟨answer, held, houtcome, hone⟩ :=
    Reached.exists_outcome hV hd hfields connection t file seed
  refine ⟨?_, ?_, ?_, ?_, ?_, ?_⟩
  · -- `seeded`: where there is a row, nothing is done.
    intro table htable hne
    obtain ⟨hanswer, hleaves⟩ := h.ensure_of_record hV hd.table htable hne seed
    exact ⟨hanswer, hleaves.read_eq⟩
  · -- `unseeded`: the outcome is that of the file alone, whatever world it is in.
    intro hempty
    obtain ⟨hanswer, hheld, -⟩ := hone w h hempty
    cases answer with
    | error e => exact .inr ⟨e, hanswer, h.record_none hV hd hfields hanswer⟩
    | ok n =>
      obtain ⟨rfl, table, rfl, hholds⟩ := houtcome.exists_holds
      exact .inl ⟨hanswer, table, hheld, hholds⟩
  · -- `retried`: after a failure there is no row, and the good seed has one outcome in both.
    intro e he good n hgood
    obtain ⟨answer', held', houtcome', hone'⟩ :=
      Reached.exists_outcome hV hd hfields connection t file good
    obtain ⟨hanswer', hheld', -⟩ :=
      hone' _ (h.ensure hV hd hfields seed) (h.record_none hV hd hfields he)
    obtain rfl := (hone' first hfirst hnone).1.symm.trans hgood
    obtain ⟨rfl, table, rfl, hholds⟩ := houtcome'.exists_holds
    exact ⟨hanswer', table, hheld', hholds⟩
  · -- `once`: a row that is there stays through calls that do not drop the table.
    intro n hok hne calls hcalls later
    obtain ⟨table, htable, hrecord⟩ := h.exists_record hV hd hfields hok hne
    have hreached := h.ensure hV hd hfields seed
    have hleaves := hreached.leaves_after hV hd hfields htable hrecord hcalls
    obtain ⟨hanswer, hleaves'⟩ := (hreached.after hV hd hfields calls).ensure_of_record
      hV hd.table (by rw [World.tableAt, hleaves.read]; exact htable) hrecord later
    exact ⟨hanswer, fun location => (hleaves'.read_eq location).trans (hleaves.read_eq location)⟩
  all_goals
    obtain ⟨table, htable, hne⟩ | hempty := record_or_none V w file d.name
  · rw [(h.ensure_of_record hV hd.table htable hne seed).2.read]
    exact .refl _
  · obtain ⟨-, -, c, hleaves, -, hkeeps⟩ := hone w h hempty
    rwa [hleaves.read]
  · exact (h.ensure_of_record hV hd.table htable hne seed).2.elsewhere
  · obtain ⟨-, -, c, hleaves, -⟩ := hone w h hempty
    exact hleaves.elsewhere

/-- Where the metadata are refused, no call touches a database. -/
theorem leaves_after_of_error {e : Error} (connection : String)
    (h : (w.resolve t).1 = .error e) (file : String) (calls : List Call) :
    w.Leaves (after connection t w calls) file (w.store.read (.file file)) := by
  induction calls generalizing w with
  | nil => exact World.leaves_of_eq rfl rfl file
  | cons call calls ih =>
    have hcall : w.Leaves (call.after connection t w) file (w.store.read (.file file)) := by
      cases call with
      | ensure seed =>
        rw [Call.after, (ensure_of_resolve_error connection seed h).1]
        exact w.leaves_resolve t file
      | reset seed =>
        rw [Call.after, (ensure_of_resolve_error connection seed h).2]
        exact w.leaves_resolve t file
      | items q | collect q | firstOrNone q | first q =>
        exact Call.leaves_of_query w q file (by simp)
    have hrest := ih ((hcall.resolve t).trans h)
    rw [hcall.read] at hrest
    exact hcall.trans hrest

end Store.Seeding

namespace Demo.Users

open Store.Seeding

/-- The table of users. -/
def definition : TableDefinition := ⟨"users", Search.metadata.columns.map .ofBinding⟩

theorem named_metadata : Search.metadata.Named definition :=
  Metadata.named_of_isColumnName Search.isTable_users keyed_metadata.names

end Demo.Users

/-! ## Names that are no names -/

namespace Demo.Injected

open Store.Seeding

/-- An entity type with a single column. -/
def declaration (column : String) : EntityDeclaration :=
  ⟨⟨"oracle_driver::entities::Item"⟩, some "t",
    [⟨"a", .scalar .int64, some column, some (.scalar .int64), .int64 0⟩]⟩

/-- Its metadata. -/
def metadata (column : String) : Metadata :=
  ⟨(declaration column).type, "t", [⟨"a", column, .scalar .int64⟩]⟩

/-- A world in which the type is declared, and nothing is stored. -/
def world (column : String) : World (Disk Database.engine) :=
  (World.ofStore (Disk.empty "/data")).declare (declaration column)

theorem resolve_world (column : String) :
    ((world column).resolve (declaration column).type).1 = .ok (metadata column) := rfl

theorem isTable_t : IsTable "t" "t" :=
  Sql.isTable_of_readName? (Sql.readName?_of_isColumnName (by decide))

/-- A column whose name ends the definition of the table, and inserts a row. -/
def inserting : String := "a); INSERT INTO t VALUES (1); --"

/-- The table that is made, after so many rows. -/
def table (n : Nat) : Table :=
  ⟨⟨"t", [⟨"a", .untyped, .plain⟩]⟩,
    (List.range n).map fun i : Nat => ⟨(i : Int) + 1, [.integer 1]⟩, n⟩

theorem entry_table (n : Nat) : Database.entry [table n] "t" = .table (table n) :=
  Database.entry_eq_table_iff.2 ⟨by decide, List.find?_cons_of_pos (beq_self_eq_true _)⟩

/-- Each request for the table inserts a row. -/
theorem ensureIn_inserting (n : Nat) (db : Database)
    (h : Database.execute (TableDefinition.ofMetadata (metadata inserting)).sql db =
      (.ok (), [table (n + 1)])) :
    ensureIn (E := Database.engine) (metadata inserting) [] db = (.ok 0, [table (n + 1)]) := by
  have hbatch : Database.engine.batch (TableDefinition.ofMetadata (metadata inserting)).sql db =
      (.ok (), [table (n + 1)]) := h
  have hne : (table (n + 1)).records ≠ [] := by simp [table]
  rw [ensureIn, hbatch]
  exact fillIn_of_ne_nil (V := Database.view) (m := metadata inserting) (d := ⟨"t", []⟩)
    Database.lawful isTable_t (entry_table (n + 1)) hne []

end Demo.Injected

end EntityQuery
