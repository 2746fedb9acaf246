import EntityQuery.Proofs.Construction

/-!
# Projections and whole entities

The two ways to read a row agree (`Plan.readRecord_agrees`): the members of a projection are
the fields of the entity, each in the place of the field that was selected for it, under
whatever name and however often.

They differ for a null in a field that does not admit it (`Row.Lacks`). The entity then has
in the field what a new one has, while a projection has nothing to put in the place and is
refused. This is the only difference: of a row that is read into an entity a projection is
made exactly if it lacks none of the projected fields.
-/

namespace EntityQuery

/-- A selector projects some fields, in this order: a single one, or the members of a record
    under names of their own. -/
inductive Expr.Projects : Expr → List String → Prop
  | field (name : String) : Projects (.field name) [name]
  | record (members : List (String × String)) :
      Projects (.record (members.map fun member => (member.1, .field member.2)))
        (members.map (·.2))

/-- An entity type declares that a field is stored, and of which type it is. -/
def EntityDeclaration.Stores (d : EntityDeclaration) (field : String) (t : MemberType) : Prop :=
  ∃ p ∈ d.properties, p.field = field ∧ p.column.isSome = true ∧ p.type = t

/-- A row has null for a stored field that does not admit it. -/
def Row.Lacks (row : Row) (m : Metadata) (field : String) : Prop :=
  ∃ b, m.column? field = some b ∧ b.type.isNullable = false ∧ row.get? b.column = some .null

/-- What is made of a row by the plan of whole entities, and by that of a projection of some
    fields. -/
structure Plan.Agrees (whole part : Plan) (m : Metadata) (d : EntityDeclaration)
    (fields : List String) (o : Output) (row : Row) : Prop where
  /-- Each member is what the entity holds in the field. -/
  members : ∀ i ws, whole.readEntity d row = .ok i → part.readRecord o row = .ok ws →
    List.Forall₂ (fun field w => i.get? field = some w) fields ws
  /-- Of a row that is read into an entity, the projection is made unless a field is lacking. -/
  succeeds : ∀ i, whole.readEntity d row = .ok i →
    ((∃ ws, part.readRecord o row = .ok ws) ↔ ∀ field ∈ fields, ¬row.Lacks m field)
  /-- A lacking field is as in a new entity, and absent to the projection. -/
  lacks : ∀ i, whole.readEntity d row = .ok i → ∀ field ∈ fields, row.Lacks m field →
    i.get? field = d.new.get? field ∧ ∃ t, part.readRecord o row =
      .error (.materialization part.entity.name (.member ⟨Value.null.text, t, .absent⟩))

/-! ## Selectors -/

namespace Plan

variable {m : Metadata}

theorem select_binding {field target : String} {s : Selection}
    (h : select m field target = .ok s) : m.column? field = some s.binding := by
  obtain ⟨b, hb, rfl⟩ := select_eq_ok_iff.1 h
  obtain ⟨-, rfl⟩ := Metadata.mem_columns_of_column? hb
  exact hb

theorem selectMembers_bindings {members : List (String × String)} {ss : List Selection}
    (h : selectMembers m (members.map fun member => (member.1, .field member.2)) = .ok ss) :
    List.Forall₂ (fun field s => m.column? field = some s.binding) (members.map (·.2)) ss := by
  induction members generalizing ss with
  | nil =>
    cases h
    exact .nil
  | cons member members ih =>
    rw [List.map_cons, selectMembers] at h
    split at h
    · cases h
    · next s hs =>
      split at h
      · cases h
      · next others hothers =>
        cases h
        exact .cons (select_binding hs) (ih hothers)

/-- A selector that projects fields selects the columns that they are bound to. -/
theorem bindings_of_projects {selector : Expr} {fields : List String} {ss : List Selection}
    {shape : Shape} (hselector : selector.Projects fields)
    (h : output m (some selector) = .ok (ss, shape)) :
    shape ≠ .entity ∧
      List.Forall₂ (fun field s => m.column? field = some s.binding) fields ss := by
  rcases hselector with name | members
  · rcases output_eq_ok_iff.1 h with - | hs | -
    exact ⟨nofun, .cons (select_binding hs) .nil⟩
  · rcases output_eq_ok_iff.1 h with - | - | ⟨-, hss⟩
    exact ⟨nofun, selectMembers_bindings hss⟩

end Plan

/-- A field that a type stores is bound to a column of its type. -/
theorem EntityDeclaration.Stores.fieldType_eq {d : EntityDeclaration} {entity : EntityType}
    {m : Metadata} {field : String} {t : MemberType} {b : ColumnBinding}
    (h : d.Stores field t) (hmapping : Metadata.ofMapping entity d.mapping = .ok m)
    (hb : m.column? field = some b) : t.fieldType = b.type := by
  obtain ⟨p, hp, rfl, hcolumn, rfl⟩ := h
  obtain ⟨column, hcolumn⟩ := Option.isSome_iff_exists.1 hcolumn
  obtain ⟨-, -, hcolumns⟩ := Metadata.ofMapping_eq_ok hmapping
  have hmem : (⟨p.field, column, p.type.fieldType⟩ : ColumnBinding) ∈ m.columns := by
    rw [hcolumns, List.mem_filterMap]
    exact ⟨_, List.mem_map_of_mem hp, congrArg (Option.map _) hcolumn⟩
  rw [← Option.some.inj ((Metadata.column?_of_mem (Metadata.nodup_fields hmapping) hmem).symm.trans
    hb)]

/-! ## One member -/

namespace Row

variable {row : Row} {m : Metadata} {field : String} {t : MemberType} {v w : Value}

/-- A row offers a value for a field to a member of the declared type. -/
def Offers (row : Row) (m : Metadata) (field : String) (tv : MemberType × Value) : Prop :=
  ∃ b, m.column? field = some b ∧ tv.1.fieldType = b.type ∧ row.Holds b tv.2

/-- What a row lacks is null and not admitted. -/
theorem lacks_iff {b : ColumnBinding} (hb : m.column? field = some b) (hv : row.Holds b v) :
    row.Lacks m field ↔ v = .null ∧ b.type.isNullable = false := by
  obtain ⟨raw, hraw, hconvert⟩ := hv
  constructor
  · rintro ⟨b', hb', hnullable, hnull⟩
    cases hb.symm.trans hb'
    cases hraw.symm.trans hnull
    exact ⟨(Except.ok.inj hconvert).symm, hnullable⟩
  · rintro ⟨rfl, hnullable⟩
    rw [Value.convert_eq_null_iff.1 hconvert] at hraw
    exact ⟨b, hb, hnullable, hraw⟩

/-- A member of the declared type takes the value that a row offers as it is, unless the row
    lacks the field. -/
theorem Offers.takes (h : row.Offers m field (t, v)) (hlacks : ¬row.Lacks m field) :
    t.Takes v v := by
  obtain ⟨b, hb, ht, hv⟩ := h
  rw [lacks_iff hb hv] at hlacks
  exact MemberType.read_eq_ok_iff.1 (hv.read_eq ht hlacks)

/-- A member takes nothing for a field that a row lacks, and of any other no other value. -/
theorem Offers.of_takes (h : row.Offers m field (t, v)) (hw : t.Takes v w) :
    ¬row.Lacks m field ∧ w = v := by
  have hlacks : ¬row.Lacks m field := by
    obtain ⟨b, hb, ht, hv⟩ := h
    rw [lacks_iff hb hv, ← ht, MemberType.fieldType_isNullable]
    rintro ⟨rfl, hnullable⟩
    rcases hw with hadmits | ⟨hne, -⟩
    · rw [hnullable] at hadmits
      cases hadmits
    · exact hne rfl
  refine ⟨hlacks, ?_⟩
  have hread := MemberType.read_eq_ok_iff.2 hw
  rw [MemberType.read_eq_ok_iff.2 (h.takes hlacks)] at hread
  exact (Except.ok.inj hread).symm

/-- A member that refuses what a row offers misses a value. -/
theorem Offers.of_refuses {e : CoercionError} (h : row.Offers m field (t, v))
    (he : t.Refuses v e) : e = ⟨Value.null.text, t.scalarType, .absent⟩ := by
  by_cases hlacks : row.Lacks m field
  · obtain ⟨b, hb, -, hv⟩ := h
    obtain ⟨rfl, -⟩ := (lacks_iff hb hv).1 hlacks
    rcases he with - | ⟨hne, -⟩
    · rfl
    · exact absurd rfl hne
  · have hread := MemberType.read_eq_error_iff.2 he
    rw [MemberType.read_eq_ok_iff.2 (h.takes hlacks)] at hread
    cases hread

/-- An entity that a row fills holds what the row offers, unless the row lacks the field. -/
theorem Fills.get?_of_offers {d : EntityDeclaration} {i : Instance} (hi : row.Fills m d i)
    (h : row.Offers m field (t, v)) (hlacks : ¬row.Lacks m field) : i.get? field = some v := by
  obtain ⟨b, hb, -, hv⟩ := h
  obtain ⟨hmem, rfl⟩ := Metadata.mem_columns_of_column? hb
  rw [hi.mapped b hmem v hv, if_neg (mt (lacks_iff hb hv).2 hlacks)]

/-- A field that the row lacks is as in a new entity. -/
theorem Fills.get?_of_lacks {d : EntityDeclaration} {i : Instance} (hi : row.Fills m d i)
    (hlacks : row.Lacks m field) : i.get? field = d.new.get? field := by
  obtain ⟨b, hb, hnullable, hnull⟩ := hlacks
  obtain ⟨hmem, rfl⟩ := Metadata.mem_columns_of_column? hb
  rw [hi.mapped b hmem .null ⟨_, hnull, rfl⟩, if_pos ⟨rfl, hnullable⟩]

end Row

/-! ## All members -/

section Places

variable {α β γ : Type} {R : α → β → Prop} {S : β → γ → Prop} {as : List α} {bs : List β}
  {cs : List γ}

/-- Lists that are related to a third, place by place, are related. -/
theorem forall₂_trans {T : α → γ → Prop} (h : ∀ a b c, R a b → S b c → T a c)
    (hr : List.Forall₂ R as bs) (hs : List.Forall₂ S bs cs) : List.Forall₂ T as cs := by
  induction hr generalizing cs with
  | nil =>
    cases hs
    exact .nil
  | cons hab _ ih =>
    rcases hs with - | ⟨hbc, hs⟩
    exact .cons (h _ _ _ hab hbc) (ih hs)

/-- Every element of a list is related to one in its place. -/
theorem exists_of_forall₂ (h : List.Forall₂ R as bs) : ∀ b ∈ bs, ∃ a ∈ as, R a b := by
  induction h with
  | nil => exact nofun
  | cons hab _ ih =>
    intro b hb
    rcases List.mem_cons.1 hb with rfl | hb
    · exact ⟨_, List.mem_cons_self, hab⟩
    · obtain ⟨a, ha, hab⟩ := ih b hb
      exact ⟨a, List.mem_cons_of_mem _ ha, hab⟩

end Places

namespace Plan

variable {m : Metadata} {d : EntityDeclaration} {entity : EntityType} {p : Plan} {o : Output}
  {row : Row} {fields : List String} {vs ws : List Value}

/-- A plan of a projection selects fields, for members of their declared types. -/
structure ProjectsFields (p : Plan) (m : Metadata) (o : Output) (fields : List String) : Prop where
  shape : p.shape ≠ .entity
  selection : List.Forall₂ (fun field s => m.column? field = some s.binding) fields p.selection
  members : List.Forall₂ (fun field t => ∀ b, m.column? field = some b → t.fieldType = b.type)
    fields o.members

namespace ProjectsFields

theorem width (h : p.ProjectsFields m o fields) : o.members.length = p.selection.length :=
  h.members.length_eq.symm.trans h.selection.length_eq

/-- A row that has a value for each selection offers it to the member in its place. -/
theorem offers (h : p.ProjectsFields m o fields)
    (hvs : List.Forall₂ (fun s v => row.Holds s.binding v) p.selection vs) :
    List.Forall₂ (row.Offers m) fields (o.members.zip vs) := by
  obtain ⟨-, hselection, hmembers⟩ := h
  generalize p.selection = ss at hselection hvs
  generalize o.members = ts at hmembers
  induction hselection generalizing ts vs with
  | nil =>
    cases hmembers
    exact .nil
  | cons hs _ ih =>
    rcases hmembers with - | ⟨ht, hmembers⟩
    rcases hvs with - | ⟨hv, hvs⟩
    exact .cons ⟨_, hs, ht _ hs, hv⟩ (ih hvs _ hmembers)

/-- Where something is made of a row, the members are what the row offers, and no field is
    lacking. -/
theorem offers_of_readRecord (h : p.ProjectsFields m o fields)
    (hws : p.readRecord o row = .ok ws) :
    List.Forall₂ (fun field w => ¬row.Lacks m field ∧ ∃ t, row.Offers m field (t, w))
      fields ws := by
  obtain ⟨-, vs, hvs, htakes⟩ := (readRecord_eq_ok_iff h.shape).1 hws
  refine forall₂_trans (fun field tv w hoffers hw => ?_) (h.offers hvs) htakes
  obtain ⟨hlacks, rfl⟩ := hoffers.of_takes hw
  exact ⟨hlacks, tv.1, hoffers⟩

/-- Where no field is lacking, something is made of a row that has a value for each. -/
theorem exists_readRecord (h : p.ProjectsFields m o fields)
    (hrow : ∀ s ∈ p.selection, ∃ v, row.Holds s.binding v)
    (hlacks : ∀ field ∈ fields, ¬row.Lacks m field) : ∃ ws, p.readRecord o row = .ok ws := by
  obtain ⟨vs, hvs⟩ := Store.Seeding.exists_forall₂ hrow
  obtain ⟨ws, hws⟩ := Store.Seeding.exists_forall₂
    (R := fun (tv : MemberType × Value) w => tv.1.Takes tv.2 w) (l := o.members.zip vs)
    fun tv htv => by
      obtain ⟨field, hfield, hoffers⟩ := exists_of_forall₂ (h.offers hvs) tv htv
      exact ⟨tv.2, hoffers.takes (hlacks field hfield)⟩
  exact ⟨ws, (readRecord_eq_ok_iff h.shape).2 ⟨h.width, vs, hvs, hws⟩⟩

/-- What is reported of a row that has a value for each selection is an absent value. -/
theorem error_of_readRecord (h : p.ProjectsFields m o fields)
    (hrow : ∀ s ∈ p.selection, ∃ v, row.Holds s.binding v) {e : Error}
    (he : p.readRecord o row = .error e) :
    ∃ t, e = .materialization p.entity.name (.member ⟨Value.null.text, t, .absent⟩) := by
  obtain ⟨fault, hfault, rfl⟩ := (readRecord_eq_error_iff h.shape).1 he
  rcases hfault with hwidth | ⟨-, hs, -, hfails⟩ | ⟨-, hvs, hzip, -, hrefuses⟩
  · exact absurd h.width hwidth
  · obtain ⟨v, hv⟩ := hrow _ (hs ▸ List.mem_append_right _ List.mem_cons_self)
    have hread : Selection.read "" row _ = .error _ :=
      Selection.read_eq_error_iff.2 ⟨_, hfails, rfl⟩
    rw [Selection.read_eq_ok_iff.2 hv] at hread
    cases hread
  · obtain ⟨field, -, hoffers⟩ := exists_of_forall₂ (h.offers hvs) _
      (hzip ▸ List.mem_append_right _ List.mem_cons_self)
    rw [hoffers.of_refuses hrefuses]
    exact ⟨_, rfl⟩

end ProjectsFields

section Chains

variable {σ : Type} {w : World σ} {c c' : Chain} {p p' : Plan} {selector : Expr}

/-- A row that is read into an entity has a value for each stored field, and fills the
    entity with them. -/
theorem fills_of_readEntity (hof : IsOf m c p) (hproj : c.projection? = none)
    (hmapping : Metadata.ofMapping entity d.mapping = .ok m) (hsetters : d.SetsAsDeclared)
    {i : Instance} (hi : p.readEntity d row = .ok i) :
    (∀ b ∈ m.columns, ∃ v, row.Holds b v) ∧ row.Fills m d i := by
  have hfields := Metadata.nodup_fields hmapping
  have hcells := fun b hb => EntityDeclaration.find?_new hmapping hsetters (b := b) hb
  rw [readEntity_eq hof hproj] at hi
  have hrow := Selection.holds_of_assign hfields hcells hi
  obtain ⟨i', hi', hmapped, hunmapped⟩ :=
    Selection.assign_columns p.entity.name hfields hrow hcells
  cases hi.symm.trans hi'
  exact ⟨hrow, Instance.IsOf.assign (i := d.new) rfl hi, hmapped, hunmapped⟩

/-- The plan of a chain with a projection of stored fields selects them. -/
theorem projectsFields (hof : IsOf m c p) (hproj : c.projection? = some selector)
    (hselector : selector.Projects fields) (hmembers : List.Forall₂ d.Stores fields o.members)
    (hmapping : Metadata.ofMapping entity d.mapping = .ok m) : p.ProjectsFields m o fields := by
  have houtput := hof.output
  rw [hproj] at houtput
  obtain ⟨hshape, hselection⟩ := bindings_of_projects hselector houtput
  exact ⟨hshape, hselection, hmembers.imp fun _ _ hstores _ => hstores.fieldType_eq hmapping⟩

/-- A projection of stored fields, read into members of their types, agrees with the entity
    that is read from the same row; it is made exactly if the row lacks none of the fields. -/
theorem readRecord_agrees (hresolve : (w.resolve c.root).1 = .ok m)
    (hmapping : Metadata.ofMapping c.root d.mapping = .ok m) (hsetters : d.SetsAsDeclared)
    (hp : (w.translate c).1 = .ok p) (hproj : c.projection? = none)
    (hroot : c'.root = c.root) (hp' : (w.translate c').1 = .ok p')
    (hproj' : c'.projection? = some selector) (hselector : selector.Projects fields)
    (hmembers : List.Forall₂ d.Stores fields o.members) (row : Row) :
    p.Agrees p' m d fields o row := by
  have hof := World.isOf_of_translate hresolve hp
  have hof' := World.isOf_of_translate (hroot ▸ hresolve) hp'
  have hpart := projectsFields hof' hproj' hselector hmembers hmapping
  have hfills {i : Instance} (hi : p.readEntity d row = .ok i) :
      (∀ b ∈ m.columns, ∃ v, row.Holds b v) ∧ row.Fills m d i :=
    fills_of_readEntity hof hproj hmapping hsetters hi
  have hrow {i : Instance} (hi : p.readEntity d row = .ok i) :
      ∀ s ∈ p'.selection, ∃ v, row.Holds s.binding v := by
    intro s hs
    obtain ⟨field, -, hb⟩ := exists_of_forall₂ hpart.selection s hs
    exact (hfills hi).1 _ (Metadata.mem_columns_of_column? hb).1
  refine ⟨fun i ws hi hws => ?_, fun i hi => ⟨?_, hpart.exists_readRecord (hrow hi)⟩,
    fun i hi field hfield hlacks => ⟨(hfills hi).2.get?_of_lacks hlacks, ?_⟩⟩
  · refine (hpart.offers_of_readRecord hws).imp fun field v hv => ?_
    obtain ⟨hlacks, t, hoffers⟩ := hv
    exact (hfills hi).2.get?_of_offers hoffers hlacks
  · rintro ⟨ws, hws⟩
    exact ((List.forall₂_and_left _ _).1 (hpart.offers_of_readRecord hws)).1
  · rcases hread : p'.readRecord o row with e | ws
    · obtain ⟨t, rfl⟩ := hpart.error_of_readRecord (hrow hi) hread
      exact ⟨t, rfl⟩
    · have hfull := ((List.forall₂_and_left _ _).1 (hpart.offers_of_readRecord hread)).1
      exact absurd hlacks (hfull field hfield)

end Chains

end Plan

namespace Demo.Members

/-- The entity type of the members of a club: some have a nickname, and notes are not stored. -/
def declaration : EntityDeclaration :=
  ⟨⟨"club::Member"⟩, some "members", [Users.stored "id" .int64,
    ⟨"name", .scalar .string, some "full_name", some (.scalar .string), .string ""⟩,
    ⟨"nick", .optional (.optional (.scalar .string)), some "nick",
      some (.optional (.optional (.scalar .string))), .null⟩,
    ⟨"note", .scalar .string, none, none, .string ""⟩]⟩

/-- The metadata of members. -/
def metadata : Metadata :=
  ⟨declaration.type, "members", [⟨"id", "id", .scalar .int64⟩,
    ⟨"name", "full_name", .scalar .string⟩, ⟨"nick", "nick", .optional .string⟩]⟩

/-- A world in which members are declared. -/
def world : World Unit := (World.ofStore ()).declare declaration

/-- A selector of the nickname, the number and the nickname again, under names of other
    fields. -/
def badge : Expr :=
  .record [("name", .field "nick"), ("id", .field "id"), ("note", .field "nick")]

/-- The plan for badges. -/
def plan : Plan :=
  ⟨declaration.type, some metadata, [⟨"nick", "name", "nick", .optional .string⟩,
    ⟨"id", "id", "id", .scalar .int64⟩, ⟨"nick", "note", "nick", .optional .string⟩],
    .record ["name", "id", "note"], none, none⟩

/-- What is written on a badge. -/
def output : Output :=
  ⟨"Badge", [.optional (.optional (.scalar .string)), .scalar .int64,
    .optional (.optional (.scalar .string))]⟩

/-- A row of a member who has no name and no nickname, with the number as a text. -/
def nameless : Row := ⟨["nick", "full_name", "id", "nick"], [.null, .null, .string "7"]⟩

theorem setsAsDeclared : declaration.SetsAsDeclared := by
  intro p hp hcolumn
  simp only [declaration, List.mem_cons, List.not_mem_nil, or_false] at hp
  rcases hp with rfl | rfl | rfl | rfl
  · exact ⟨_, rfl, rfl⟩
  · exact ⟨_, rfl, rfl⟩
  · exact ⟨_, rfl, rfl⟩
  · cases hcolumn

theorem stores_output : List.Forall₂ declaration.Stores ["nick", "id", "nick"] output.members := by
  have hnick : declaration.Stores "nick" (.optional (.optional (.scalar .string))) :=
    ⟨_, List.mem_cons_of_mem _ (List.mem_cons_of_mem _ List.mem_cons_self), rfl, rfl, rfl⟩
  have hid : declaration.Stores "id" (.scalar .int64) := ⟨_, List.mem_cons_self, rfl, rfl, rfl⟩
  exact .cons hnick (.cons hid (.cons hnick .nil))

/-- A member without a name is read as one with an empty name, and has a badge, on which the
    name is not. -/
theorem readRecord_agrees_nameless :
    (Plan.everything declaration.type metadata).Agrees plan metadata declaration
        ["nick", "id", "nick"] output nameless ∧
      (∃ i, (Plan.everything declaration.type metadata).readEntity declaration nameless = .ok i ∧
        i.map (·.value) = [.int64 7, .string "", .null]) ∧
      plan.readRecord output nameless = .ok [.null, .int64 7, .null] := by
  have hresolve : (world.resolve declaration.type).1 = .ok metadata := by decide
  have heveryone : (world.translate (.ofSource declaration.type)).1 =
      .ok (.everything declaration.type metadata) :=
    World.translate_eq_ok_iff.2 ⟨_, hresolve, Plan.isOf_everything _ _⟩
  have hbadges : (world.translate ((Chain.ofSource declaration.type).push (.project badge))).1 =
      .ok plan := by decide
  have hroot : ((Chain.ofSource declaration.type).push (.project badge)).root =
      (Chain.ofSource declaration.type).root := rfl
  exact ⟨Plan.readRecord_agrees hresolve (by decide) setsAsDeclared heveryone rfl hroot
      hbadges rfl (.record [("name", "nick"), ("id", "id"), ("note", "nick")]) stores_output
      nameless,
    ⟨_, rfl, by decide⟩, by decide⟩

end Demo.Members

end EntityQuery
