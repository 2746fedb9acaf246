import EntityQuery.Proofs.Seeding

/-!
# Entities of arbitrary rows

What the plan of a query for whole entities makes of a row, whatever the row is
(`Plan.readEntity_reads`). An entity is made exactly if the row has, for every mapped
column, something that the declared type admits; otherwise the reading reports the first
column that fails, in the order of the declaration, and why. An entity that is made holds
what the row has in the mapped fields, and everywhere else what a new one holds.

A value that was coerced for a field is read a second time by the setter of the field. It
is of the declared type by then, so that no setter ever refuses it.
-/

namespace EntityQuery

/-! ## What fails -/

/-- Why a row has nothing of use for a field: it lacks the column, or it has a value there
    that is not coerced to the declared type. -/
inductive Row.Fails (row : Row) (b : ColumnBinding) : MaterializationFault → Prop
  | missing : row.get? b.column = none → Fails row b (.missingColumn b.column)
  | unfit {v : Value} {e : CoercionError} : row.get? b.column = some v →
      v.coerce b.type.scalarType = .error e → Fails row b (.field b.field e)

namespace Row

variable {row : Row} {b : ColumnBinding} {fault : MaterializationFault}

/-- A row has a value for a field, or fails for it. -/
theorem holds_or_fails (row : Row) (b : ColumnBinding) :
    (∃ w, row.Holds b w) ∨ ∃ fault, row.Fails b fault := by
  cases hv : row.get? b.column with
  | none => exact .inr ⟨_, .missing hv⟩
  | some v =>
    cases hw : v.coerce b.type.scalarType with
    | error e => exact .inr ⟨_, .unfit hv hw⟩
    | ok w => exact .inl ⟨w, v, hv, Value.coerce_eq_ok_iff.1 hw⟩

/-- For a field that a row fails for, reading it reports the fault. -/
theorem Fails.read_eq (h : row.Fails b fault) (entity : String) :
    Selection.read entity row ⟨b.field, b.field, b.column, b.type⟩ =
      .error (.materialization entity fault) := by
  cases h with
  | missing hv => simp only [Selection.read, hv]
  | unfit hv he => simp only [Selection.read, hv, he]

/-- Of several fields there is a first that a row fails for, unless it has a value for each. -/
theorem holds_or_exists_first (row : Row) (columns : List ColumnBinding) :
    (∀ b ∈ columns, ∃ w, row.Holds b w) ∨
      ∃ before b after fault, columns = before ++ b :: after ∧
        (∀ c ∈ before, ∃ w, row.Holds c w) ∧ row.Fails b fault := by
  induction columns with
  | nil => exact .inl nofun
  | cons c columns ih =>
    rcases row.holds_or_fails c with hc | ⟨fault, hc⟩
    · refine ih.imp (fun h => List.forall_mem_cons.2 ⟨hc, h⟩) ?_
      rintro ⟨before, b, after, fault, rfl, hbefore, hb⟩
      exact ⟨c :: before, b, after, fault, rfl, List.forall_mem_cons.2 ⟨hc, hbefore⟩, hb⟩
    · exact .inr ⟨[], c, columns, fault, rfl, nofun, hc⟩

end Row

/-! ## Instances of a type -/

/-- A field with the type that it is set by. -/
def Cell.slot (c : Cell) : String × MemberType := (c.field, c.setter)

/-- An instance has the fields that a type declares, and is set as it declares. -/
def Instance.IsOf (i : Instance) (d : EntityDeclaration) : Prop :=
  i.map Cell.slot = d.new.map Cell.slot

namespace Instance

variable {i i' : Instance} {d : EntityDeclaration}

/-- Setting a field leaves the type as it is. -/
theorem map_slot_of_set {field : String} {v : Value} (h : i.set field v = .ok (some i')) :
    i'.map Cell.slot = i.map Cell.slot := by
  induction i generalizing i' with
  | nil => cases h
  | cons c rest ih =>
    rw [set] at h
    split at h
    · split at h
      · cases h
      · cases h
        rfl
    · split at h
      · cases h
      · cases h
      · next rest' hset =>
        cases h
        rw [List.map_cons, List.map_cons, ih hset]

/-- A field of an instance is set as it is in a new one. -/
theorem IsOf.find?_of_new (h : i.IsOf d) {field : String} {cell : Cell}
    (hcell : d.new.find? (·.field = field) = some cell) :
    ∃ cell', i.find? (·.field = field) = some cell' ∧ cell'.setter = cell.setter := by
  have hslot (j : Instance) : (j.find? (·.field = field)).map Cell.slot =
      (j.map Cell.slot).find? (·.1 = field) := by
    rw [List.find?_map]
    rfl
  have hsame : (i.find? (·.field = field)).map Cell.slot = some cell.slot := by
    rw [hslot, h, ← hslot, hcell]
    rfl
  obtain ⟨cell', hcell', hslot'⟩ := Option.map_eq_some_iff.1 hsame
  exact ⟨cell', hcell', congrArg Prod.snd hslot'⟩

/-- What is read into an instance leaves its type as it is. -/
theorem IsOf.assign {entity : String} {row : Row} {selection : List Selection} (h : i.IsOf d)
    (hassign : Selection.assign entity row selection i = .ok i') : i'.IsOf d := by
  induction selection generalizing i with
  | nil =>
    cases hassign
    exact h
  | cons s selection ih =>
    rw [Selection.assign] at hassign
    split at hassign
    · cases hassign
    · split at hassign
      · exact ih h hassign
      · split at hassign
        · cases hassign
        · cases hassign
        · next i₁ hset => exact ih ((map_slot_of_set hset).trans h) hassign

end Instance

/-! ## Reading the columns -/

namespace Selection

variable {entity : String} {row : Row} {columns : List ColumnBinding} {i i' : Instance}

/-- The first field that a row fails for is reported, and no later one. -/
theorem assign_of_fails {before after : List ColumnBinding} {b : ColumnBinding}
    {fault : MaterializationFault} (hfields : (columns.map (·.field)).Nodup)
    (hcells : ∀ b ∈ columns, ∃ cell, i.find? (·.field = b.field) = some cell ∧
      cell.setter.fieldType = b.type)
    (hcolumns : columns = before ++ b :: after) (hbefore : ∀ c ∈ before, ∃ w, row.Holds c w)
    (hb : row.Fails b fault) :
    assign entity row (columns.map fun b => ⟨b.field, b.field, b.column, b.type⟩) i =
      .error (.materialization entity fault) := by
  subst hcolumns
  rw [List.map_append] at hfields
  obtain ⟨i', hassign, -⟩ := assign_append entity hfields.of_append_left hbefore
    (fun c hc => hcells c (List.mem_append_left _ hc))
    ((b :: after).map fun b => ⟨b.field, b.field, b.column, b.type⟩)
  rw [List.map_append, hassign, List.map_cons, assign, hb.read_eq]

/-- A row that is read as a whole has a value for every field. -/
theorem holds_of_assign (hfields : (columns.map (·.field)).Nodup)
    (hcells : ∀ b ∈ columns, ∃ cell, i.find? (·.field = b.field) = some cell ∧
      cell.setter.fieldType = b.type)
    (h : assign entity row (columns.map fun b => ⟨b.field, b.field, b.column, b.type⟩) i = .ok i') :
    ∀ b ∈ columns, ∃ w, row.Holds b w := by
  refine (row.holds_or_exists_first columns).resolve_right ?_
  rintro ⟨before, b, after, fault, hcolumns, hbefore, hb⟩
  rw [assign_of_fails hfields hcells hcolumns hbefore hb] at h
  cases h

end Selection

/-! ## What a row is read as -/

/-- An instance is a new one in which a row was read, field by field. -/
structure Row.Fills (row : Row) (m : Metadata) (d : EntityDeclaration) (i : Instance) : Prop where
  /-- It has the fields of its type. -/
  type : i.IsOf d
  /-- A mapped field holds the coerced value, but null is kept out of a field that does not
      admit it. -/
  mapped : ∀ b ∈ m.columns, ∀ w, row.Holds b w → i.get? b.field =
    if w = .null ∧ b.type.isNullable = false then d.new.get? b.field else some w
  /-- Any other field holds what it holds in a new instance. -/
  unmapped : ∀ f, f ∉ m.columns.map (·.field) → i.get? f = d.new.get? f

/-- What a plan for the entities of a declared type makes of a row. -/
structure Plan.Reads (p : Plan) (m : Metadata) (d : EntityDeclaration) (row : Row) : Prop where
  /-- An entity is made exactly if the row has a value for every mapped field. -/
  succeeds : (∃ i, p.readEntity d row = .ok i) ↔ ∀ b ∈ m.columns, ∃ w, row.Holds b w
  fills : ∀ i, p.readEntity d row = .ok i → row.Fills m d i
  /-- What is reported is the fault of the first field that fails. -/
  fails : ∀ e, p.readEntity d row = .error e ↔
    ∃ before b after fault, m.columns = before ++ b :: after ∧
      (∀ c ∈ before, ∃ w, row.Holds c w) ∧ row.Fails b fault ∧
      e = .materialization p.entity.name fault
  /-- The setter of a mapped field takes whatever it is handed. -/
  sets : ∀ i : Instance, i.IsOf d → ∀ b ∈ m.columns, ∀ w, row.Holds b w →
    ¬(w = .null ∧ b.type.isNullable = false) → ∃ i', i.set b.field w = .ok (some i')

namespace Plan

variable {σ : Type} {w : World σ} {c : Chain} {p : Plan} {m : Metadata} {d : EntityDeclaration}

/-- The plan of a query for whole entities reads the columns in their order, each into its
    field. -/
theorem readEntity_eq (hof : IsOf m c p) (hproj : c.projection? = none) (d : EntityDeclaration)
    (row : Row) :
    p.readEntity d row = Selection.assign p.entity.name row (everyColumn m) d.new := by
  have houtput := hof.output
  rw [hproj] at houtput
  obtain ⟨hselection, hshape⟩ := Prod.mk.inj (Except.ok.inj houtput)
  rw [readEntity, if_pos hshape.symm, hselection]

/-- The plan of a query for whole entities makes an entity of a row that has a value for
    every mapped field, and reports the first field that any other row fails for. -/
theorem readEntity_reads (hresolve : (w.resolve c.root).1 = .ok m)
    (hmapping : Metadata.ofMapping c.root d.mapping = .ok m) (hsetters : d.SetsAsDeclared)
    (hp : (w.translate c).1 = .ok p) (hproj : c.projection? = none) (row : Row) :
    p.Reads m d row := by
  have hread := readEntity_eq (World.isOf_of_translate hresolve hp) hproj d row
  have hfields := Metadata.nodup_fields hmapping
  have hcells := fun b hb => EntityDeclaration.find?_new hmapping hsetters (b := b) hb
  have hall (hrow : ∀ b ∈ m.columns, ∃ v, row.Holds b v) :
      ∃ i, p.readEntity d row = .ok i ∧ row.Fills m d i := by
    obtain ⟨i, hi, hmapped, hunmapped⟩ :=
      Selection.assign_columns p.entity.name hfields hrow hcells
    exact ⟨i, hread.trans hi, Instance.IsOf.assign (i := d.new) rfl hi, hmapped, hunmapped⟩
  have hfirst {before after b fault} (hcolumns : m.columns = before ++ b :: after)
      (hbefore : ∀ c ∈ before, ∃ v, row.Holds c v) (hb : row.Fails b fault) :
      p.readEntity d row = .error (.materialization p.entity.name fault) :=
    hread.trans (Selection.assign_of_fails hfields hcells hcolumns hbefore hb)
  have hholds {i : Instance} (hi : p.readEntity d row = .ok i) :
      ∀ b ∈ m.columns, ∃ v, row.Holds b v :=
    Selection.holds_of_assign hfields hcells (hread.symm.trans hi)
  refine ⟨⟨fun ⟨i, hi⟩ => hholds hi, fun hrow => (hall hrow).imp fun _ h => h.1⟩, ?_, ?_, ?_⟩
  · intro i hi
    obtain ⟨i', hi', hfills⟩ := hall (hholds hi)
    rwa [← Except.ok.inj (hi'.symm.trans hi)]
  · intro e
    constructor
    · intro he
      rcases row.holds_or_exists_first m.columns with
        hrow | ⟨before, b, after, fault, hcolumns, hbefore, hb⟩
      · obtain ⟨i, hi, -⟩ := hall hrow
        rw [hi] at he
        cases he
      · exact ⟨before, b, after, fault, hcolumns, hbefore, hb,
          Except.error.inj (he.symm.trans (hfirst hcolumns hbefore hb))⟩
    · rintro ⟨before, b, after, fault, hcolumns, hbefore, hb, rfl⟩
      exact hfirst hcolumns hbefore hb
  · intro i hi b hb v hv hadmits
    obtain ⟨cell, hcell, hsetter⟩ := hcells b hb
    obtain ⟨cell', hcell', hsetter'⟩ := hi.find?_of_new hcell
    obtain ⟨i', hset, -⟩ := Instance.set_eq_ok hcell' (hv.read_eq (hsetter' ▸ hsetter) hadmits)
    exact ⟨i', hset⟩

end Plan

namespace Demo.Users

/-- A row that names the columns in another order and one of them twice, lacks a name and
    has its numbers in other types. -/
def awkward : Row :=
  ⟨["age", "note", "name", "id", "age"], [.string " 25 ", .bool true, .null, .int64 7]⟩

/-- The awkward row is read into a user of 25 years without a name. -/
theorem readEntity_reads_awkward :
    (Search.world.translate (.ofSource type)).1 = .ok (.everything type Search.metadata) ∧
      (Plan.everything type Search.metadata).Reads Search.metadata declaration awkward ∧
      ∃ i, (Plan.everything type Search.metadata).readEntity declaration awkward = .ok i ∧
        i.map (·.value) = [.int32 7, .string "", .int32 25] := by
  have hresolve : (Search.world.resolve type).1 = .ok Search.metadata := by decide
  have hplan := World.translate_eq_ok_iff.2 ⟨_, hresolve, Plan.isOf_everything type _⟩
  exact ⟨hplan, Plan.readEntity_reads hresolve (by decide) setsAsDeclared hplan rfl awkward,
    _, rfl, by decide⟩

end Demo.Users

end EntityQuery
