import EntityQuery.Proofs.Denotation
import EntityQuery.Proofs.Seeding

/-!
# Valid mappings

A mapping is valid (`Mapping.IsValid`) if it names a table with something other than
blanks in its name, declares no field twice, whether the field is stored or not, and stores
at least one. What is wrong with a mapping that is not valid is said by `Mapping.Blames`:
the table comes first, then the first field that was declared before, then that nothing is
stored. It is said of the mapping itself, without a look at how it is read.

`Metadata.ofMapping` accepts the valid mappings and no others, keeps them intact
(`Metadata.Keeps`), and refuses the others for what is to blame (`Metadata.accepts_valid`).
-/

namespace EntityQuery

/-! ## What mappings declare -/

/-- A stored field is bound to its column, with the name and the type that it declares. -/
def FieldMapping.Binds (f : FieldMapping) (b : ColumnBinding) : Prop :=
  b.field = f.field ∧ f.column = some b.column ∧ b.type = f.type

namespace Mapping

variable {mapping : Mapping}

/-- A mapping names a table, and not by blanks alone. -/
def Tabled (mapping : Mapping) (table : String) : Prop :=
  mapping.table = some table ∧ ∃ c ∈ table.toList, Text.isBlank c = false

/-- A mapping names a table, declares no field twice and stores at least one. -/
structure IsValid (mapping : Mapping) : Prop where
  table : ∃ table, mapping.Tabled table
  fields : (mapping.fields.map (·.field)).Nodup
  columns : ∃ f ∈ mapping.fields, f.column.isSome = true

/-- What is to blame for a mapping that is not valid. -/
inductive Blames (mapping : Mapping) : MappingFault → Prop
  | noTable (htable : mapping.table = .none) : Blames mapping .noTable
  | emptyTable {table : String} (htable : mapping.table = some table)
      (hblank : Text.Blank table.toList) : Blames mapping .emptyTable
  | repeatedField {table : String} (htable : mapping.Tabled table)
      {before after : List FieldMapping} {f : FieldMapping}
      (hfields : mapping.fields = before ++ f :: after)
      (hbefore : (before.map (·.field)).Nodup) (hf : ∃ g ∈ before, g.field = f.field) :
      Blames mapping (.repeatedField f.field)
  | noColumns {table : String} (htable : mapping.Tabled table)
      (hfields : (mapping.fields.map (·.field)).Nodup)
      (hcolumns : ∀ f ∈ mapping.fields, f.column = .none) : Blames mapping .noColumns

end Mapping

/-- Metadata keep a mapping intact: the table as it is declared, the stored fields in the
    order of their declaration, and under each name the one field that has it. -/
structure Metadata.Keeps (m : Metadata) (mapping : Mapping) : Prop where
  table : mapping.table = some m.table
  columns : List.Forall₂ FieldMapping.Binds (mapping.fields.filter (·.column.isSome)) m.columns
  fields : (m.columns.map (·.field)).Nodup
  found : ∀ (name : String) (b : ColumnBinding), m.column? name = some b ↔
    ∃ f : FieldMapping, (∀ g, g ∈ mapping.fields ∧ g.field = name ↔ g = f) ∧ f.Binds b

/-! ## Tables -/

namespace Text

theorem trimChars_eq_nil_iff {cs : List Char} : trimChars cs = [] ↔ Blank cs := by
  constructor
  · intro h
    obtain ⟨before, after, hbefore, hafter, heq⟩ := exists_blank_trimChars cs
    rw [h, List.nil_append] at heq
    rw [heq]
    exact fun c hc => (List.mem_append.1 hc).elim (hbefore c) (hafter c)
  · intro h
    have hstart : trimStart cs = [] := List.dropWhile_eq_nil_iff.2 h
    rw [trimChars, hstart]
    rfl

/-- Nothing is left of a text exactly if it has only blanks. -/
theorem isEmpty_trim_iff {s : String} : (trim s).isEmpty = true ↔ Blank s.toList := by
  rw [String.isEmpty_iff, trim, ← String.toList_inj, String.toList_ofList, String.toList_empty,
    trimChars_eq_nil_iff]

end Text

namespace Metadata

variable {mapping : Mapping}

theorem tableOf_of_tabled {table : String} (h : mapping.Tabled table) :
    tableOf mapping = .ok table := by
  obtain ⟨htable, c, hc, hblank⟩ := h
  have hempty : ¬(Text.trim table).isEmpty = true := fun hempty =>
    Bool.eq_false_iff.1 hblank (Text.isEmpty_trim_iff.1 hempty c hc)
  simp only [tableOf, htable, if_neg hempty]

/-- A mapping names a table, or is refused for it. -/
theorem tableOf_cases (mapping : Mapping) :
    (∃ table, mapping.Tabled table ∧ tableOf mapping = .ok table) ∨
      ∃ fault, mapping.Blames fault ∧ tableOf mapping = .error fault := by
  cases htable : mapping.table with
  | none => exact .inr ⟨_, .noTable htable, by rw [tableOf, htable]⟩
  | some table =>
    by_cases hblank : Text.Blank table.toList
    · refine .inr ⟨_, .emptyTable htable hblank, ?_⟩
      simp only [tableOf, htable, if_pos (Text.isEmpty_trim_iff.2 hblank)]
    · have htabled : mapping.Tabled table := by
        rw [Text.Blank] at hblank
        push Not at hblank
        simpa only [Mapping.Tabled, htable, true_and, Bool.not_eq_true] using hblank
      exact .inl ⟨table, htabled, tableOf_of_tabled htabled⟩

end Metadata

/-! ## Fields -/

theorem firstRepeatedFrom_eq_some_iff {seen names : List String} {s : String} :
    firstRepeatedFrom seen names = some s ↔ ∃ before after, names = before ++ s :: after ∧
      before.Nodup ∧ (∀ a ∈ before, a ∉ seen) ∧ (s ∈ seen ∨ s ∈ before) := by
  induction names generalizing seen with
  | nil => simp [firstRepeatedFrom]
  | cons a rest ih =>
    by_cases ha : a ∈ seen
    · rw [firstRepeatedFrom, if_pos ha]
      constructor
      · rintro ⟨⟩
        exact ⟨[], rest, rfl, List.nodup_nil, by simp, .inl ha⟩
      · rintro ⟨_ | ⟨c, before⟩, after, heq, -, hseen, -⟩
        · exact congrArg some (List.cons.inj heq).1
        · -- A text before the first repeated one is new, and `a` is not.
          obtain ⟨rfl, -⟩ := List.cons.inj heq
          exact absurd ha (hseen a List.mem_cons_self)
    · rw [firstRepeatedFrom, if_neg ha, ih]
      constructor
      · rintro ⟨before, after, rfl, hnodup, hseen, hs⟩
        simp only [List.mem_cons, not_or] at hseen hs
        refine ⟨a :: before, after, rfl,
          List.nodup_cons.2 ⟨fun h => (hseen a h).1 rfl, hnodup⟩,
          List.forall_mem_cons.2 ⟨ha, fun c hc => (hseen c hc).2⟩, ?_⟩
        rw [List.mem_cons]
        tauto
      · rintro ⟨_ | ⟨c, before⟩, after, heq, hnodup, hseen, hs⟩
        · obtain ⟨rfl, -⟩ := List.cons.inj heq
          exact absurd (hs.resolve_right List.not_mem_nil) ha
        · obtain ⟨rfl, rfl⟩ := List.cons.inj heq
          obtain ⟨hnew, hnodup⟩ := List.nodup_cons.1 hnodup
          refine ⟨before, after, rfl, hnodup, fun c hc => ?_, ?_⟩
          · rw [List.mem_cons, not_or]
            exact ⟨fun h => hnew (h ▸ hc), hseen c (List.mem_cons_of_mem _ hc)⟩
          · rw [List.mem_cons] at hs ⊢
            tauto

/-- The first repeated text of a list is the one after the longest beginning without
    repetitions. -/
theorem firstRepeated?_eq_some_iff {names : List String} {s : String} :
    firstRepeated? names = some s ↔ ∃ before after, names = before ++ s :: after ∧
      before.Nodup ∧ s ∈ before := by
  simp [firstRepeated?, firstRepeatedFrom_eq_some_iff]

theorem FieldMapping.binding?_eq_some_iff {f : FieldMapping} {b : ColumnBinding} :
    f.binding? = some b ↔ f.Binds b := by
  obtain ⟨field, column, type⟩ := b
  rw [binding?, Option.map_eq_some_iff, Binds]
  constructor
  · rintro ⟨_, hcolumn, ⟨⟩⟩
    exact ⟨rfl, hcolumn, rfl⟩
  · rintro ⟨rfl, hcolumn, rfl⟩
    exact ⟨_, hcolumn, rfl⟩

/-- The columns of fields are those of the stored ones, each bound to its field. -/
theorem forall₂_bindings (fields : List FieldMapping) :
    List.Forall₂ FieldMapping.Binds (fields.filter (·.column.isSome))
      (fields.filterMap (·.binding?)) := by
  induction fields with
  | nil => exact .nil
  | cons f fields ih =>
    cases hcolumn : f.column with
    | none =>
      have hbinding : f.binding? = none := by rw [FieldMapping.binding?, hcolumn, Option.map_none]
      rw [List.filterMap_cons_none hbinding, List.filter_cons_of_neg (by simp [hcolumn])]
      exact ih
    | some column =>
      have hbinding : f.binding? = some ⟨f.field, column, f.type⟩ := by
        rw [FieldMapping.binding?, hcolumn, Option.map_some]
      rw [List.filterMap_cons_some hbinding, List.filter_cons_of_pos (by simp [hcolumn])]
      exact .cons (FieldMapping.binding?_eq_some_iff.1 hbinding) ih

namespace Metadata

variable {entity : EntityType} {mapping : Mapping} {m : Metadata}

/-- A column is found exactly for the name of a stored field. -/
theorem column?_eq_some_iff (hfields : (m.columns.map (·.field)).Nodup) {name : String}
    {b : ColumnBinding} : m.column? name = some b ↔ b ∈ m.columns ∧ b.field = name := by
  constructor
  · intro h
    exact ⟨List.mem_of_find?_eq_some h, beq_iff_eq.1 (List.find?_some h :)⟩
  · rintro ⟨hb, rfl⟩
    exact column?_of_mem hfields hb

/-- Metadata have the table of their mapping. -/
theorem tabled_of_ofMapping (h : ofMapping entity mapping = .ok m) : mapping.Tabled m.table := by
  obtain ⟨table, htabled, htable⟩ | ⟨fault, -, htable⟩ := tableOf_cases mapping
  · simp only [ofMapping, htable] at h
    split at h
    · cases h
    · split at h
      · cases h
      · cases h
        exact htabled
  · simp only [ofMapping, htable] at h
    cases h

/-- Metadata that are made of a mapping keep it intact. -/
theorem keeps_of_ofMapping (h : ofMapping entity mapping = .ok m) : m.Keeps mapping := by
  obtain ⟨-, hnodup, hcolumns⟩ := ofMapping_eq_ok h
  have hfields := nodup_fields h
  refine ⟨(tabled_of_ofMapping h).1, hcolumns ▸ forall₂_bindings _, hfields, fun name b => ?_⟩
  rw [column?_eq_some_iff hfields, hcolumns, List.mem_filterMap]
  simp only [FieldMapping.binding?_eq_some_iff]
  constructor
  · -- No other field has the name, whether it is stored or not.
    rintro ⟨⟨f, hf, hb⟩, rfl⟩
    refine ⟨f, fun g => ⟨fun hg => ?_, ?_⟩, hb⟩
    · exact List.inj_on_of_nodup_map hnodup hg.1 hf (hg.2.trans hb.1)
    · rintro rfl
      exact ⟨hf, hb.1.symm⟩
  · rintro ⟨f, hname, hb⟩
    obtain ⟨hf, rfl⟩ := (hname f).2 rfl
    exact ⟨⟨f, hf, hb⟩, hb.1⟩

/-- A mapping is accepted and kept intact if it is valid, and something is to blame if not. -/
theorem ofMapping_cases (entity : EntityType) (mapping : Mapping) :
    (∃ m, ofMapping entity mapping = .ok m ∧ mapping.IsValid ∧ m.entity = entity ∧
        m.Keeps mapping) ∨
      ∃ fault, ofMapping entity mapping = .error fault ∧ mapping.Blames fault := by
  -- The cases are the checks in their order: the table, repeated fields, and columns.
  obtain ⟨table, htabled, htable⟩ | ⟨fault, hblames, htable⟩ := tableOf_cases mapping
  swap
  · exact .inr ⟨fault, by simp only [ofMapping, htable], hblames⟩
  cases hrepeated : firstRepeated? (mapping.fields.map (·.field)) with
  | some s =>
    refine .inr ⟨.repeatedField s, by simp only [ofMapping, htable, hrepeated], ?_⟩
    obtain ⟨before, after, heq, hbefore, hs⟩ := firstRepeated?_eq_some_iff.1 hrepeated
    obtain ⟨fs, gs, hfields, rfl, hafter⟩ := List.map_eq_append_iff.1 heq
    obtain ⟨f, gs, rfl, rfl, -⟩ := List.map_eq_cons_iff.1 hafter
    exact .repeatedField htabled hfields hbefore (List.mem_map.1 hs)
  | none =>
    have hnodup := firstRepeated?_eq_none_iff.1 hrepeated
    cases hcolumns : mapping.fields.filterMap (·.binding?) with
    | nil =>
      refine .inr ⟨.noColumns, by simp only [ofMapping, htable, hrepeated, hcolumns],
        .noColumns htabled hnodup fun f hf => ?_⟩
      exact Option.map_eq_none_iff.1 (List.filterMap_eq_nil_iff.1 hcolumns f hf)
    | cons b bs =>
      have hok : ofMapping entity mapping = .ok ⟨entity, table, b :: bs⟩ := by
        simp only [ofMapping, htable, hrepeated, hcolumns]
      obtain ⟨f, hf, hb⟩ := List.mem_filterMap.1 (hcolumns ▸ List.mem_cons_self (a := b) (l := bs))
      have hcolumn := (FieldMapping.binding?_eq_some_iff.1 hb).2.1
      exact .inl ⟨_, hok, ⟨⟨table, htabled⟩, hnodup, f, hf, Option.isSome_of_eq_some hcolumn⟩, rfl,
        keeps_of_ofMapping hok⟩

/-- What is to blame for a mapping is what it is refused for. -/
theorem ofMapping_of_blames {fault : MappingFault} (h : mapping.Blames fault) :
    ofMapping entity mapping = .error fault := by
  cases h with
  | noTable htable => simp only [ofMapping, tableOf, htable]
  | emptyTable htable hblank =>
    simp only [ofMapping, tableOf, htable, if_pos (Text.isEmpty_trim_iff.2 hblank)]
  | @repeatedField _ htable before after f hfields hbefore hf =>
    have hrepeated : firstRepeated? (mapping.fields.map (·.field)) = some f.field := by
      rw [firstRepeated?_eq_some_iff, hfields, List.map_append, List.map_cons]
      exact ⟨_, _, rfl, hbefore, List.mem_map.2 hf⟩
    simp only [ofMapping, tableOf_of_tabled htable, hrepeated]
  | noColumns htable hfields hcolumns =>
    have hbindings : mapping.fields.filterMap (·.binding?) = [] :=
      List.filterMap_eq_nil_iff.2 fun f hf => by
        rw [FieldMapping.binding?, hcolumns f hf, Option.map_none]
    simp only [ofMapping, tableOf_of_tabled htable, firstRepeated?_eq_none_iff.2 hfields,
      hbindings]

/-- Nothing is to blame for a valid mapping. -/
theorem not_blames_of_isValid (h : mapping.IsValid) (fault : MappingFault) :
    ¬mapping.Blames fault := by
  obtain ⟨⟨table, htable, c, hc, hblank⟩, hnodup, f, hf, hcolumn⟩ := h
  rintro (hnone | ⟨hsome, hblank'⟩ | ⟨-, hfields, -, hrepeated⟩ | ⟨-, -, hcolumns⟩)
  · exact Option.some_ne_none _ (htable.symm.trans hnone)
  · obtain rfl := Option.some.inj (htable.symm.trans hsome)
    exact Bool.eq_false_iff.1 hblank (hblank' c hc)
  · rw [hfields, List.map_append, List.map_cons] at hnodup
    exact (List.nodup_append.1 hnodup).2.2 _ (List.mem_map.2 hrepeated) _ List.mem_cons_self rfl
  · rw [hcolumns f hf] at hcolumn
    cases hcolumn

/-- A mapping is accepted exactly if it is valid, and then kept intact; one that is not is
    refused for what is to blame. -/
theorem accepts_valid (entity : EntityType) (mapping : Mapping) :
    ((∃ m, ofMapping entity mapping = .ok m) ↔ mapping.IsValid) ∧
      (∀ m, ofMapping entity mapping = .ok m → m.entity = entity ∧ m.Keeps mapping) ∧
      ∀ fault, ofMapping entity mapping = .error fault ↔ mapping.Blames fault := by
  obtain ⟨m, hok, hvalid, hkeeps⟩ | ⟨fault, herror, hblames⟩ := ofMapping_cases entity mapping
  · refine ⟨⟨fun _ => hvalid, fun _ => ⟨m, hok⟩⟩, fun m' hm' => ?_, fun fault => ⟨fun h => ?_,
      fun h => absurd h (not_blames_of_isValid hvalid fault)⟩⟩
    · obtain rfl := Except.ok.inj (hok.symm.trans hm')
      exact hkeeps
    · cases hok.symm.trans h
  · refine ⟨⟨?_, fun h => absurd hblames (not_blames_of_isValid h fault)⟩, fun m' hm' => ?_,
      fun fault' => ⟨fun h => ?_, ofMapping_of_blames⟩⟩
    · rintro ⟨m', hm'⟩
      cases herror.symm.trans hm'
    · cases herror.symm.trans hm'
    · obtain rfl := Except.error.inj (herror.symm.trans h)
      exact hblames

end Metadata

namespace Demo.Guests

def guest : EntityType := ⟨"hotel::Guest"⟩

/-- Guests have a nickname, which is not stored. -/
def mapping : Mapping :=
  ⟨some " guests", [⟨"id", some "id", .scalar .int64⟩, ⟨"nickname", none, .scalar .string⟩,
    ⟨"name", some "full_name", .optional .string⟩]⟩

/-- The metadata of guests. -/
def metadata : Metadata :=
  ⟨guest, " guests", [⟨"id", "id", .scalar .int64⟩, ⟨"name", "full_name", .optional .string⟩]⟩

/-- Guests whose nickname is declared once more, as a stored field. -/
def twice : Mapping :=
  { mapping with fields := mapping.fields ++ [⟨"nickname", some "nick", .scalar .string⟩] }

/-- The mapping of guests is valid and kept, and the repeated nickname is to blame, although
    only one of the two is stored. -/
theorem accepts_valid_guests :
    mapping.IsValid ∧ metadata.Keeps mapping ∧ twice.Blames (.repeatedField "nickname") := by
  obtain ⟨hvalid, hkeeps, -⟩ := Metadata.accepts_valid guest mapping
  have hok : Metadata.ofMapping guest mapping = .ok metadata := by decide
  obtain ⟨-, -, hblames⟩ := Metadata.accepts_valid guest twice
  exact ⟨hvalid.1 ⟨metadata, hok⟩, (hkeeps metadata hok).2, (hblames _).1 (by decide)⟩

end Demo.Guests

end EntityQuery
