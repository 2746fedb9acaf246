import EntityQuery.Proofs.Disks
import EntityQuery.Proofs.Placing
import EntityQuery.Proofs.Resolving

/-!
# What a seed comes to

`ensure` and `reset` work on one database and leave the rest of a world as it was
(`World.Leaves`). What they do in the database is said by `ensureIn` and `resetIn`, and in a
lawful engine it comes down to what they do to the table of the entity type: where that table
is absent or empty, the answer and the table afterwards are the same in all databases
(`Seeding.exists_outcome`). Either the table holds the rows of the seed, each once, or it has
no row (`Seeding.Outcome`): the rows go into a transaction, which is rolled back if one of them
is refused.
-/

namespace EntityQuery

open Store
open Sql (IsTable)

variable {E : Engine}

/-- A world after a request that concerned the database of a file: the file holds a
    database, and all else that can be asked of the world is as it was. -/
structure World.Leaves (w w' : World (Disk E)) (file : String) (c : E.Content) : Prop where
  read : w'.store.read (.file file) = c
  elsewhere : ∀ location, location ≠ .file file → w'.store.read location = w.store.read location
  connect : ∀ connection, w'.store.connect connection = w.store.connect connection
  resolve : ∀ t, (w'.resolve t).1 = (w.resolve t).1
  declarations : ∀ t, w'.catalogue.declarationOf t = w.catalogue.declarationOf t

namespace World

variable {w w' w'' : World (Disk E)} {file : String} {c c' : E.Content}

theorem Leaves.trans (h : w.Leaves w' file c) (h' : w'.Leaves w'' file c') :
    w.Leaves w'' file c' where
  read := h'.read
  elsewhere location hne := (h'.elsewhere location hne).trans (h.elsewhere location hne)
  connect connection := (h'.connect connection).trans (h.connect connection)
  resolve t := (h'.resolve t).trans (h.resolve t)
  declarations t := (h'.declarations t).trans (h.declarations t)

/-- Every file and the memory hold what they held. -/
theorem Leaves.read_eq (h : w.Leaves w' file (w.store.read (.file file))) (location : Location) :
    w'.store.read location = w.store.read location := by
  by_cases hlocation : location = .file file
  · rw [hlocation, h.read]
  · exact h.elsewhere location hlocation

/-- The record of what happened is not looked at. -/
theorem leaves_of_eq (hstore : w'.store = w.store) (hcatalogue : w'.catalogue = w.catalogue)
    (file : String) : w.Leaves w' file (w.store.read (.file file)) where
  read := by rw [hstore]
  elsewhere _ _ := by rw [hstore]
  connect _ := by rw [hstore]
  resolve t := by rw [(resolve_eq w' t).1, (resolve_eq w t).1, hcatalogue]
  declarations _ := by rw [hcatalogue]

/-- Asking for metadata leaves every database as it was. -/
theorem leaves_resolve (w : World (Disk E)) (t : EntityType) (file : String) :
    w.Leaves (w.resolve t).2 file (w.store.read (.file file)) := by
  obtain ⟨hstore, hdeclared⟩ := w.resolve_snd t
  exact ⟨by rw [hstore], fun _ _ => by rw [hstore], fun _ => by rw [hstore],
    resolve_again rfl, fun _ => by rw [Catalogue.declarationOf, hdeclared]; rfl⟩

/-- A file is written alone. -/
theorem leaves_write (w : World (Disk E)) (file : String) (c : E.Content) :
    w.Leaves { w with store := w.store.write (.file file) c } file c where
  read := Disk.read_write file c w.store
  elsewhere _ hne := Disk.read_write_of_ne hne c w.store
  connect connection := Disk.connect_write connection (.file file) c w.store
  resolve t := (resolve_eq _ t).1.trans (resolve_eq w t).1.symm
  declarations _ := rfl

end World

namespace Store

/-- The store asks for metadata as a query does. -/
theorem Schema.metadata_eq {w : World (Disk E)} {t : EntityType} {m : Metadata}
    (h : (w.resolve t).1 = .ok m) : Schema.metadata t w = (.ok m, (w.resolve t).2) := by
  rw [Schema.metadata]
  rcases hresolve : w.resolve t with ⟨_ | m', w'⟩
  · rw [hresolve] at h
    cases h
  · rw [hresolve] at h
    cases h
    rfl

namespace Seeding

variable {connection file : String} {t : EntityType} {m : Metadata} {d : TableDefinition}
  {seed : List SeedRow} {w : World (Disk E)} {table : Table}

/-! ## Requests in a database -/

/-- What the request for a seed does in a database that the table is in. -/
def fillIn (m : Metadata) (seed : List SeedRow) (c : E.Content) :
    Except StoreError Nat × E.Content :=
  match E.number (countSql m.table) c with
  | .error f => (.error (.database f), c)
  | .ok n =>
    if 0 < n then (.ok 0, c)
    else
      match E.begin c with
      | .error f => (.error (.database f), c)
      | .ok x => insertSeed m seed x

/-- What the request for a table and its seed does in a database. -/
def ensureIn (m : Metadata) (seed : List SeedRow) (c : E.Content) :
    Except StoreError Nat × E.Content :=
  match E.batch (TableDefinition.ofMetadata m).sql c with
  | (.error f, c) => (.error (.database f), c)
  | (.ok (), c) => fillIn m seed c

/-- What the request for a new table and its seed does in a database. -/
def resetIn (m : Metadata) (seed : List SeedRow) (c : E.Content) :
    Except StoreError Nat × E.Content :=
  match E.batch (Schema.dropSql m.table) c with
  | (.error f, c) => (.error (.database f), c)
  | (.ok (), c) => ensureIn m seed c

/-- A text that is carried out in the database of a file leaves the rest of the world as it
    was. -/
theorem change_eq {α : Type} (sql : String) (a : α)
    (hlocation : w.store.connect connection = .ok (.file file)) :
    (Schema.change connection sql a w).1 =
        ((E.batch sql (w.store.read (.file file))).1.mapError StoreError.database).map
          (fun _ => a) ∧
      w.Leaves (Schema.change connection sql a w).2 file
        (E.batch sql (w.store.read (.file file))).2 := by
  rw [Schema.change, Disk.batch_eq hlocation]
  generalize E.batch sql (w.store.read (.file file)) = request
  obtain ⟨_ | _, c⟩ := request
  · exact ⟨rfl, w.leaves_write file c⟩
  · exact ⟨rfl, w.leaves_write file c⟩

/-- A seed is asked for in the database that the connection leads to. -/
theorem fill_eq_fillIn (m : Metadata) (seed : List SeedRow)
    (hlocation : w.store.connect connection = .ok (.file file)) :
    (fill connection m seed w.store).1 = (fillIn m seed (w.store.read (.file file))).1 ∧
      w.Leaves { w with store := (fill connection m seed w.store).2 } file
        (fillIn m seed (w.store.read (.file file))).2 := by
  have hsame : w.Leaves { w with store := w.store } file (w.store.read (.file file)) :=
    World.leaves_of_eq rfl rfl file
  simp only [fill, hlocation, fillIn]
  cases E.number (countSql m.table) (w.store.read (.file file)) with
  | error f => exact ⟨rfl, hsame⟩
  | ok n =>
    dsimp only
    by_cases hn : 0 < n
    · rw [if_pos hn, if_pos hn]
      exact ⟨rfl, hsame⟩
    · rw [if_neg hn, if_neg hn]
      cases E.begin (w.store.read (.file file)) with
      | error f => exact ⟨rfl, hsame⟩
      | ok x => exact ⟨rfl, w.leaves_write file _⟩

/-- The request for a table and its seed is one in the database that the connection leads to. -/
theorem ensure_eq_ensureIn (seed : List SeedRow) (hresolve : (w.resolve t).1 = .ok m)
    (hlocation : w.store.connect connection = .ok (.file file)) :
    (ensure connection t seed w).1 = (ensureIn m seed (w.store.read (.file file))).1 ∧
      w.Leaves (ensure connection t seed w).2 file
        (ensureIn m seed (w.store.read (.file file))).2 := by
  have hresolved := w.leaves_resolve t file
  generalize hw' : (w.resolve t).2 = w' at hresolved
  obtain ⟨hanswer, hleaves⟩ := change_eq (w := w') (TableDefinition.ofMetadata m).sql m
    (by rw [hresolved.connect, hlocation])
  have hcreate : Schema.createTable connection t w =
      Schema.change connection (TableDefinition.ofMetadata m).sql m w' := by
    simp only [Schema.createTable, Schema.metadata_eq hresolve, hw']
  rw [hresolved.read] at hanswer hleaves
  have hleaves := hresolved.trans hleaves
  -- The table is made first, in a world that leads to the same file for the seed.
  simp only [ensure, hcreate, ensureIn]
  generalize Schema.change connection (TableDefinition.ofMetadata m).sql m w' = made
    at hanswer hleaves
  generalize E.batch (TableDefinition.ofMetadata m).sql (w.store.read (.file file)) = request
    at hanswer hleaves
  obtain ⟨_ | _, c⟩ := request
  · obtain ⟨_, w₁⟩ := made
    cases hanswer
    exact ⟨rfl, hleaves⟩
  · obtain ⟨_, w₁⟩ := made
    cases hanswer
    obtain ⟨hfilled, hleaves'⟩ :=
      fill_eq_fillIn (w := w₁) m seed (by rw [hleaves.connect, hlocation])
    rw [hleaves.read] at hfilled hleaves'
    exact ⟨hfilled, hleaves.trans hleaves'⟩

/-- The request for a new table and its seed is one in the database that the connection leads
    to. -/
theorem reset_eq_resetIn (seed : List SeedRow) (hresolve : (w.resolve t).1 = .ok m)
    (hlocation : w.store.connect connection = .ok (.file file)) :
    (reset connection t seed w).1 = (resetIn m seed (w.store.read (.file file))).1 ∧
      w.Leaves (reset connection t seed w).2 file
        (resetIn m seed (w.store.read (.file file))).2 := by
  have hresolved := w.leaves_resolve t file
  have hmetadata := Schema.metadata_eq hresolve
  generalize (w.resolve t).2 = w' at hresolved hmetadata
  obtain ⟨hanswer, hleaves⟩ := change_eq (w := w') (Schema.dropSql m.table) ()
    (by rw [hresolved.connect, hlocation])
  rw [hresolved.read] at hanswer hleaves
  have hleaves := hresolved.trans hleaves
  simp only [reset, hmetadata, Schema.dropTable, resetIn]
  generalize Schema.change connection (Schema.dropSql m.table) () w' = dropped at hanswer hleaves
  generalize E.batch (Schema.dropSql m.table) (w.store.read (.file file)) = request
    at hanswer hleaves
  obtain ⟨_ | _, c⟩ := request
  · obtain ⟨_, w₁⟩ := dropped
    cases hanswer
    exact ⟨rfl, hleaves⟩
  · obtain ⟨_, w₁⟩ := dropped
    cases hanswer
    obtain ⟨hanswer, hleaves'⟩ := ensure_eq_ensureIn (w := w₁) seed
      ((hleaves.resolve t).trans hresolve) (by rw [hleaves.connect, hlocation])
    rw [hleaves.read] at hanswer hleaves'
    exact ⟨hanswer, hleaves.trans hleaves'⟩

/-- Without metadata nothing is asked of a database. -/
theorem ensure_of_resolve_error {e : Error} (connection : String) (seed : List SeedRow)
    (h : (w.resolve t).1 = .error e) :
    ensure connection t seed w = (.error (.query e), (w.resolve t).2) ∧
      reset connection t seed w = (.error (.query e), (w.resolve t).2) := by
  have hmetadata : Schema.metadata t w = (.error (.query e), (w.resolve t).2) := by
    rw [Schema.metadata]
    generalize w.resolve t = r at h ⊢
    obtain ⟨_ | _, w'⟩ := r <;> cases h
    rfl
  simp only [ensure, reset, Schema.createTable, hmetadata, and_self]

/-! ## Requests that concern no file -/

/-- A seed that is not asked for in a file leaves the disk as it was. -/
theorem fill_snd (m : Metadata) (seed : List SeedRow) {disk : Disk E}
    (h : ∀ file, disk.connect connection ≠ .ok (.file file)) :
    (fill connection m seed disk).2 = disk := by
  cases hlocation : disk.connect connection with
  | error e => simp only [fill, hlocation]
  | ok location =>
    cases location with
    | file file => exact absurd hlocation (h file)
    | memory =>
      simp only [fill, hlocation]
      split
      · rfl
      · split
        · rfl
        · split <;> rfl

/-- So does a text that is not carried out in a file. -/
theorem change_snd {α : Type} (sql : String) (a : α)
    (h : ∀ file, w.store.connect connection ≠ .ok (.file file)) :
    (Schema.change connection sql a w).2 = w := by
  cases hlocation : w.store.connect connection with
  | error e => simp only [Schema.change, Disk.batch, hlocation]
  | ok location =>
    cases location with
    | file file => exact absurd hlocation (h file)
    | memory =>
      rw [Schema.change, Disk.batch_eq hlocation]
      generalize E.batch sql (w.store.read .memory) = request
      obtain ⟨_ | _, c⟩ := request <;> rfl

/-- All that a request for a table and its seed comes to then is that metadata are asked for. -/
theorem ensure_snd (t : EntityType) (seed : List SeedRow)
    (h : ∀ file, w.store.connect connection ≠ .ok (.file file)) :
    (ensure connection t seed w).2 = (w.resolve t).2 := by
  cases hresolve : (w.resolve t).1 with
  | error e => rw [(ensure_of_resolve_error connection seed hresolve).1]
  | ok m =>
    have hlocation : ∀ file, (w.resolve t).2.store.connect connection ≠ .ok (.file file) := by
      rwa [(w.resolve_snd t).1]
    have hchange := change_snd (TableDefinition.ofMetadata m).sql m hlocation
    simp only [ensure, Schema.createTable, Schema.metadata_eq hresolve]
    generalize Schema.change connection (TableDefinition.ofMetadata m).sql m (w.resolve t).2 = made
      at hchange
    obtain ⟨_ | m', w'⟩ := made
    · exact hchange
    · dsimp only at hchange ⊢
      rw [hchange, fill_snd m' seed hlocation]

/-- For a new table they are asked for once more, if it came so far. -/
theorem reset_snd (t : EntityType) (seed : List SeedRow)
    (h : ∀ file, w.store.connect connection ≠ .ok (.file file)) :
    (reset connection t seed w).2 = (w.resolve t).2 ∨
      (reset connection t seed w).2 = ((w.resolve t).2.resolve t).2 := by
  cases hresolve : (w.resolve t).1 with
  | error e => exact .inl (by rw [(ensure_of_resolve_error connection seed hresolve).2])
  | ok m =>
    have hlocation : ∀ file, (w.resolve t).2.store.connect connection ≠ .ok (.file file) := by
      rwa [(w.resolve_snd t).1]
    have hchange := change_snd (Schema.dropSql m.table) () hlocation
    simp only [reset, Schema.metadata_eq hresolve, Schema.dropTable]
    generalize Schema.change connection (Schema.dropSql m.table) () (w.resolve t).2 = dropped
      at hchange
    obtain ⟨_ | _, w'⟩ := dropped
    · exact .inl hchange
    · dsimp only at hchange ⊢
      rw [hchange]
      exact .inr (ensure_snd t seed hlocation)

/-! ## Outcomes -/

variable {V : View E}

/-- The table of a definition holds the rows of a seed, each as one record, in the order of
    their numbers, of which the greatest is kept. -/
structure Holds (V : View E) (m : Metadata) (d : TableDefinition) (seed : List SeedRow)
    (t : Table) : Prop where
  definition : t.definition = d
  stored : ∀ row ∈ seed, Stored m row
  sorted : t.records.Pairwise fun a b => a.key < b.key
  records : ∃ ns, Numbered V m 0 seed ns ∧
    t.records.Perm (List.zipWith (recordAt V m) seed ns) ∧ t.sequence = ns.foldl max 0

/-- What a request for a table and its seed answers where the table is absent or empty, and
    the table afterwards, if there is one. -/
inductive Outcome (V : View E) (m : Metadata) (d : TableDefinition) (seed : List SeedRow) :
    Except StoreError Nat → Option Table → Prop
  /-- No table can be made. -/
  | unmade (e : StoreError) : Outcome V m d seed (.error e) none
  /-- A row is refused, and none is inserted. -/
  | refused (e : StoreError) : V.Makes (TableDefinition.ofMetadata m).sql d →
    Outcome V m d seed (.error e) (some (.empty d))
  | filled (t : Table) : V.Makes (TableDefinition.ofMetadata m).sql d → Holds V m d seed t →
    Outcome V m d seed (.ok seed.length) (some t)

/-- After an error the table, if there is one, is the new one. -/
theorem Outcome.eq_empty {e : StoreError} {held : Option Table}
    (h : Outcome V m d seed (.error e) held) : ∀ t, held = some t → t = .empty d := by
  cases h with
  | unmade => exact nofun
  | refused => exact fun t ht => (Option.some.inj ht).symm

/-- After a success the table holds the seed. -/
theorem Outcome.exists_holds {n : Nat} {held : Option Table}
    (h : Outcome V m d seed (.ok n) held) :
    n = seed.length ∧ ∃ t, held = some t ∧ Holds V m d seed t := by
  cases h with
  | filled t _ hholds => exact ⟨rfl, t, rfl, hholds⟩

theorem Numbered.length_eq {last : Int} {ns : List Int} (h : Numbered V m last seed ns) :
    ns.length = seed.length := by
  induction h with
  | nil => rfl
  | given _ _ ih => exact congrArg (· + 1) ih
  | next _ _ ih => exact congrArg (· + 1) ih

/-- There are as many records as rows. -/
theorem Holds.length_eq (h : Holds V m d seed table) : table.records.length = seed.length := by
  obtain ⟨ns, hns, hperm, -⟩ := h.records
  rw [hperm.length_eq, List.length_zipWith, hns.length_eq, Nat.min_self]

/-- A table that holds a seed without a record is the new one. -/
theorem Holds.eq_empty (h : Holds V m d seed table) (hnil : table.records = []) :
    table = .empty d := by
  obtain ⟨ns, hns, -, hlast⟩ := h.records
  have hlength := h.length_eq
  rw [hnil, List.length_nil, ← hns.length_eq, eq_comm, List.length_eq_zero_iff] at hlength
  rw [hlength, List.foldl_nil] at hlast
  obtain ⟨definition, records, sequence⟩ := table
  rw [Table.empty, ← h.definition, ← hnil, ← hlast]

/-- A request for a table and its seed concerns the table of its name alone. -/
structure Does (V : View E) (name : String) (held : Option Table) (c : E.Content)
    (r : Except StoreError Nat × E.Content) (answer : Except StoreError Nat) : Prop where
  answer : r.1 = answer
  vacant : held = none → V.Vacant name r.2
  held : (V.entry r.2 name).table? = held
  keeps : V.Keeps name c r.2

theorem Does.of_entry {name : String} {c : E.Content} {r : Except StoreError Nat × E.Content}
    {answer : Except StoreError Nat} (hanswer : r.1 = answer)
    (hentry : V.entry r.2 name = .table table) (hkeeps : V.Keeps name c r.2) :
    Does V name (some table) c r answer :=
  ⟨hanswer, nofun, by rw [hentry]; rfl, hkeeps⟩

/-! ## Tables without a record -/

/-- What is vacant has no table. -/
theorem table?_eq_none (hV : V.Lawful) {name : String} {c : E.Content} (h : V.Vacant name c) :
    (V.entry c name).table? = none := by
  cases hentry : V.entry c name with
  | table t =>
    obtain habsent | hreserved := h
    · cases habsent.symm.trans hentry
    · exact absurd hentry (hV.reserved c name t hreserved)
  | absent | other => rfl

/-- Where the count is zero, all that is left to do is to insert the rows in a transaction. -/
theorem fillIn_of_empty (hV : V.Lawful) (hname : IsTable m.table d.name) {c : E.Content}
    (h : V.entry c d.name = .table table) (hnil : table.records = []) (seed : List SeedRow) :
    ∃ x, V.inside x = c ∧ V.outside x = c ∧ fillIn m seed c = insertSeed m seed x := by
  obtain ⟨x, hx, hinside, houtside⟩ := hV.begin c
  refine ⟨x, hinside, houtside, ?_⟩
  have hcount : E.number (countSql m.table) c = .ok 0 := by
    rw [hV.count (countsRecords_countSql hname) h, hnil]
    rfl
  simp only [fillIn, hcount, hx, Int.lt_irrefl, if_false]

/-- A table that has a record gets no seed. -/
theorem fillIn_of_ne_nil (hV : V.Lawful) (hname : IsTable m.table d.name) {c : E.Content}
    (h : V.entry c d.name = .table table) (hne : table.records ≠ []) (seed : List SeedRow) :
    fillIn m seed c = (.ok 0, c) := by
  have hpos : (0 : Int) < table.records.length :=
    Int.ofNat_lt.2 (List.length_pos_iff.2 hne)
  simp only [fillIn, hV.count (countsRecords_countSql hname) h, hpos, if_true]

/-- What was inserted before a row is refused is rolled back. -/
theorem insertSeed_of_refused (hV : V.Lawful) {x x' : E.Transaction} {e : StoreError}
    (h : insertAll m seed x = (.error e, x')) (houtside : V.outside x' = V.outside x) :
    insertSeed m seed x = (.error e, V.outside x) := by
  simp only [insertSeed, h, hV.rollback, houtside]

/-- All rows that were inserted are there for others when they are committed. -/
theorem insertSeed_of_inserted (hV : V.Lawful) {x x' : E.Transaction}
    (h : insertAll m seed x = (.ok (), x')) :
    insertSeed m seed x = (.ok seed.length, V.inside x') := by
  simp only [insertSeed, h, hV.commit]

/-- A table without a record stays as it is if the seed is refused. -/
theorem exists_fillIn_of_refused (hV : V.Lawful) (hname : IsTable m.table d.name)
    (h : Refused V (insertAll m seed) d.name (.empty d)) :
    ∃ e, ∀ c, V.entry c d.name = .table (.empty d) → fillIn m seed c = (.error e, c) := by
  obtain ⟨e, he⟩ := h
  refine ⟨e, fun c hc => ?_⟩
  obtain ⟨x, hinside, houtside, hfill⟩ := fillIn_of_empty hV hname hc rfl seed
  obtain ⟨x', hx', hsame⟩ := he x (by rw [hinside, hc])
  rw [hfill, insertSeed_of_refused hV hx' hsame, houtside]

/-- A table without a record is replaced as the rows of the seed do it. -/
theorem fillIn_of_replaces (hV : V.Lawful) (hname : IsTable m.table d.name)
    (h : Replaces V (insertAll m seed) d.name (.empty d) table) {c : E.Content}
    (hc : V.entry c d.name = .table (.empty d)) :
    ∃ c', fillIn m seed c = (.ok seed.length, c') ∧ V.Puts d.name table c c' := by
  obtain ⟨x, rfl, -, hfill⟩ := fillIn_of_empty hV hname hc rfl seed
  obtain ⟨x', hx', -, hputs⟩ := h x hc
  exact ⟨V.inside x', by rw [hfill, insertSeed_of_inserted hV hx'], hputs⟩

/-- A table that is there is left as it is by its definition. -/
theorem ensureIn_of_entry (hmakes : V.Makes (TableDefinition.ofMetadata m).sql d) {c : E.Content}
    (h : V.entry c d.name = .table table) (seed : List SeedRow) :
    ensureIn m seed c = fillIn m seed c := by
  simp only [ensureIn, hmakes.present c table h]

/-- A table that is absent is made, and then the request goes on as with an empty one. -/
theorem exists_ensureIn (hmakes : V.Makes (TableDefinition.ofMetadata m).sql d) {c : E.Content}
    (h : V.Vacant d.name c) (seed : List SeedRow) :
    ∃ c', ensureIn m seed c = fillIn m seed c' ∧ V.Puts d.name (.empty d) c c' := by
  obtain habsent | hreserved := h
  · obtain ⟨c', hc', hputs⟩ := hmakes.absent c habsent
    exact ⟨c', by simp only [ensureIn, hc'], hputs⟩
  · rw [hmakes.unreserved] at hreserved
    cases hreserved

/-- Where the table is absent or empty, a request for it and its seed has one outcome,
    whatever other tables there are. -/
theorem exists_outcome (hV : V.Lawful) (hd : m.Named d) (hfields : (m.columns.map (·.field)).Nodup)
    (seed : List SeedRow) :
    ∃ answer held, Outcome V m d seed answer held ∧
      (∀ c, V.Vacant d.name c → Does V d.name held c (ensureIn m seed c) answer) ∧
      (V.Makes (TableDefinition.ofMetadata m).sql d → ∀ c, V.entry c d.name = .table (.empty d) →
        Does V d.name held c (ensureIn m seed c) answer) := by
  obtain ⟨f, hf⟩ | hmakes := hV.make hd.makesTable_sql
  · refine ⟨.error (.database f), none, .unmade _, fun c hc => ?_, fun hmakes => ?_⟩
    · simp only [ensureIn, hf c hc]
      exact ⟨rfl, fun _ => hc, table?_eq_none hV hc, .refl c⟩
    · -- A definition that makes a table is not refused.
      have habsent := hV.fresh d.name hmakes.unreserved
      obtain ⟨c, hc, -⟩ := hmakes.absent E.fresh habsent
      rw [hf E.fresh (.inl habsent)] at hc
      cases hc
  · -- The table is made where it is absent, and then it is as where it is empty.
    have hlift {answer : Except StoreError Nat} {held : Option Table}
        (h : ∀ c, V.entry c d.name = .table (.empty d) →
          Does V d.name held c (fillIn m seed c) answer) :
        (∀ c, V.Vacant d.name c → Does V d.name held c (ensureIn m seed c) answer) ∧
          (V.Makes (TableDefinition.ofMetadata m).sql d →
            ∀ c, V.entry c d.name = .table (.empty d) →
              Does V d.name held c (ensureIn m seed c) answer) := by
      refine ⟨fun c hc => ?_, fun _ c hc => ensureIn_of_entry hmakes hc seed ▸ h c hc⟩
      obtain ⟨c', heq, hputs⟩ := exists_ensureIn hmakes hc seed
      obtain ⟨hanswer, hvacant, hheld, hkeeps⟩ := h c' hputs.entry
      rw [heq]
      exact ⟨hanswer, hvacant, hheld, hputs.others.trans hkeeps⟩
    obtain hrefused | ⟨hstored, t, ns, hns, ht, hordered, hperm, hlast, hrows⟩ :=
      insertAll_cases hV ⟨hd, hfields, hmakes.apart⟩ seed rfl (Table.ordered_empty d)
    · obtain ⟨e, he⟩ := exists_fillIn_of_refused hV hd.table hrefused
      refine ⟨.error e, some (.empty d), .refused e hmakes, hlift fun c hc => ?_⟩
      rw [he c hc]
      exact .of_entry rfl hc (.refl c)
    · have hholds : Holds V m d seed t := ⟨ht, hstored, hordered.sorted, ns, hns, by
        simpa [Table.empty] using hperm, hlast⟩
      refine ⟨.ok seed.length, some t, .filled t hmakes hholds, hlift fun c hc => ?_⟩
      obtain ⟨c', hc', hputs⟩ := fillIn_of_replaces hV hd.table hrows hc
      rw [hc']
      exact .of_entry rfl hputs.entry hputs.others

/-- A new table is asked for where there is none. -/
theorem does_resetIn (hV : V.Lawful) (hname : IsTable m.table d.name)
    {answer : Except StoreError Nat} {held : Option Table} {c : E.Content}
    (hc : V.entry c d.name ≠ .other)
    (h : ∀ c, V.Vacant d.name c → Does V d.name held c (ensureIn m seed c) answer) :
    Does V d.name held c (resetIn m seed c) answer := by
  obtain ⟨c', hc', habsent, hkeeps⟩ := hV.drop (dropsTable_dropSql hname) hc
  obtain ⟨hanswer, hvacant, hheld, hkeeps'⟩ := h c' (.inl habsent)
  simp only [resetIn, hc']
  exact ⟨hanswer, hvacant, hheld, hkeeps.trans hkeeps'⟩

end Seeding

end Store

end EntityQuery
