import EntityQuery.Proofs.Creation
import EntityQuery.Proofs.Forms
import EntityQuery.Proofs.Validity

/-!
# Definitions of entity types

The statement that makes the table of an entity type, by its tokens: the names that it
declares stand after the opening parenthesis and after the commas, and a column is marked
as the key by the words `PRIMARY KEY`. Where all names are plain identifiers, the names are
the columns of the stored fields in their order, and there is a mark for each stored field
that is called `id`, in whatever case (`TableDefinition.defines_fields`).

A statement is well formed if it declares no name twice, letter case apart, and marks one
key at most; a database makes a table of no other
(`TableDefinition.check_eq_ok_iff_wellFormed`). Not every mapping that is accepted has a
statement that is well formed: two fields must have different names, but these may be `id`
and `Id`, and any two fields may share a column (`Demo.Crowded.not_wellFormed`).
-/

namespace EntityQuery

namespace Sql

/-- The words that stand after an opening parenthesis or a comma. -/
def declared : List Token → List String
  | .sign "(" :: .word w :: ts | .sign "," :: .word w :: ts => w :: declared ts
  | _ :: ts => declared ts
  | [] => []

/-- How often the words `PRIMARY KEY` occur. -/
def keyMarks : List Token → Nat
  | .word a :: .word b :: ts =>
    (if sameName a "primary" && sameName b "key" then 1 else 0) + keyMarks (.word b :: ts)
  | _ :: ts => keyMarks ts
  | [] => 0

/-- A definition declares no name twice, letter case apart, and marks one key at most. -/
structure WellFormed (definition : List Token) : Prop where
  names : (declared definition).Pairwise fun a b => sameName a b = false
  keys : keyMarks definition ≤ 1

theorem keyMarks_of_ne {a b : String} (h : sameName a "primary" = false ∨ sameName b "key" = false)
    (ts : List Token) : keyMarks (.word a :: .word b :: ts) = keyMarks (.word b :: ts) := by
  have hmark : (sameName a "primary" && sameName b "key") = false := by
    rwa [Bool.and_eq_false_iff]
  rw [keyMarks, hmark]
  exact Nat.zero_add _

end Sql

namespace Store

open Sql

namespace ColumnDefinition

/-- A column of a plain name and some type. -/
structure IsPlain (c : ColumnDefinition) : Prop where
  name : isIdentifier c.name = true
  type : isIdentifier c.type.sql = true

variable {c : ColumnDefinition}

theorem IsPlain.isWhole (h : c.IsPlain) : c.IsWhole := ⟨whole_of_isIdentifier h.name, h.type⟩

theorem IsPlain.tokens_eq (h : c.IsPlain) :
    c.tokens = .word c.name :: .word c.type.sql :: c.keyTokens := by
  rw [tokens, scan_of_isIdentifier h.name]
  rfl

/-- A column marks a key exactly if it is one, whatever its name is. -/
theorem IsPlain.keyMarks_tokens (h : c.IsPlain) (sign : String) (ts : List Token) :
    keyMarks (c.tokens ++ .sign sign :: ts) = (if c.isKey then 1 else 0) + keyMarks ts := by
  have htype : sameName c.type.sql "key" = false ∧ sameName c.type.sql "primary" = false := by
    cases c.type <;> decide
  have hmark (rest : List Token) :
      keyMarks (.word "PRIMARY" :: .word "KEY" :: rest) = 1 + keyMarks (.word "KEY" :: rest) := rfl
  rw [h.tokens_eq, List.cons_append, List.cons_append, keyMarks_of_ne (.inr htype.1), keyTokens,
    isKey]
  cases c.key with
  | plain => exact (Nat.zero_add _).symm
  | unique =>
    simp only [List.cons_append, List.nil_append]
    rw [keyMarks_of_ne (.inl htype.2), hmark]
    rfl
  | numbering =>
    simp only [List.cons_append, List.nil_append]
    rw [keyMarks_of_ne (.inl htype.2), hmark, keyMarks_of_ne (.inl (by decide))]
    rfl

/-- A column declares its name, after a parenthesis or a comma. -/
theorem IsPlain.declared_tokens (h : c.IsPlain) {sign : String} (hsign : sign = "(" ∨ sign = ",")
    (ts : List Token) : declared (.sign sign :: (c.tokens ++ ts)) = c.name :: declared ts := by
  rw [h.tokens_eq, keyTokens]
  obtain rfl | rfl := hsign <;> cases c.key <;> rfl

end ColumnDefinition

namespace TableDefinition

variable {columns : List ColumnDefinition}

/-- Columns mark as many keys as there are among them. -/
theorem keyMarks_columnTokens (hcolumns : ∀ c ∈ columns, c.IsPlain) :
    keyMarks (columnTokens columns ++ [.sign ")"]) = columns.countP (·.isKey) := by
  induction columns with
  | nil => rfl
  | cons c columns ih =>
    obtain ⟨hc, hcolumns⟩ := List.forall_mem_cons.1 hcolumns
    rw [List.countP_cons, Nat.add_comm, ← ih hcolumns]
    cases columns with
    | nil =>
      rw [columnTokens_singleton]
      exact hc.keyMarks_tokens ")" []
    | cons c' columns =>
      rw [columnTokens_cons_cons, List.append_assoc, List.cons_append]
      exact hc.keyMarks_tokens "," _

/-- Columns declare their names, in their order. -/
theorem declared_columnTokens {sign : String} (hsign : sign = "(" ∨ sign = ",")
    (hcolumns : ∀ c ∈ columns, c.IsPlain) :
    declared (.sign sign :: (columnTokens columns ++ [.sign ")"])) = columns.map (·.name) := by
  induction columns generalizing sign with
  | nil => obtain rfl | rfl := hsign <;> rfl
  | cons c columns ih =>
    obtain ⟨hc, hcolumns⟩ := List.forall_mem_cons.1 hcolumns
    cases columns with
    | nil =>
      rw [columnTokens_singleton]
      exact hc.declared_tokens hsign _
    | cons c' columns =>
      rw [columnTokens_cons_cons, List.append_assoc, hc.declared_tokens hsign, List.cons_append,
        ih (.inr rfl) hcolumns]
      rfl

/-- The name of a table is plain, and so are its columns. -/
structure IsPlain (d : TableDefinition) : Prop where
  name : isIdentifier d.name = true
  columns : ∀ c ∈ d.columns, c.IsPlain

variable {d : TableDefinition}

theorem IsPlain.tokens_eq (h : d.IsPlain) : d.tokens =
    .word "CREATE" :: .word "TABLE" :: .word "IF" :: .word "NOT" :: .word "EXISTS" ::
      .word d.name :: .sign "(" :: (columnTokens d.columns ++ [.sign ")"]) := by
  rw [tokens, scan_of_isIdentifier h.name]
  rfl

/-- A definition of plain names has the tokens that its text shows. -/
theorem IsPlain.tokens_sql (h : d.IsPlain) : Sql.tokens d.sql = d.tokens :=
  TableDefinition.tokens_sql (whole_of_isIdentifier h.name) fun c hc => (h.columns c hc).isWhole

theorem IsPlain.declared_tokens (h : d.IsPlain) :
    declared d.tokens = d.columns.map (·.name) := by
  rw [h.tokens_eq]
  exact declared_columnTokens (.inl rfl) h.columns

theorem IsPlain.keyMarks_tokens (h : d.IsPlain) :
    keyMarks d.tokens = d.columns.countP (·.isKey) := by
  rw [← keyMarks_columnTokens h.columns, h.tokens_eq]
  iterate 5 rw [keyMarks_of_ne (.inl (by decide))]
  rfl

/-- At most one element of a list is of a kind exactly if no two are. -/
theorem countP_le_one_iff {α : Type} {p : α → Bool} {l : List α} :
    l.countP p ≤ 1 ↔ l.Pairwise fun a b => (p a && p b) = false := by
  induction l with
  | nil => simp
  | cons a l ih =>
    rw [List.countP_cons, List.pairwise_cons]
    by_cases ha : p a = true
    · have hnone : l.countP p + 1 ≤ 1 ↔ ∀ b ∈ l, ¬p b = true := by
        rw [← List.countP_eq_zero]
        omega
      simp only [ha, if_true, Bool.true_and, hnone, Bool.not_eq_true]
      refine ⟨fun h => ⟨h, ?_⟩, fun h => h.1⟩
      exact List.pairwise_of_forall_mem_list fun b hb c _ => by rw [h b hb, Bool.false_and]
    · rw [if_neg ha, Nat.add_zero, ih]
      simp [ha]

/-- A database makes a table of a definition of plain names exactly if the statement is well
    formed. -/
theorem check_eq_ok_iff_wellFormed (h : d.IsPlain) :
    d.check = .ok () ↔ WellFormed (Sql.tokens d.sql) := by
  have hapart : d.columns.Pairwise ColumnDefinition.Apart ↔
      (d.columns.Pairwise fun a b => sameName a.name b.name = false) ∧
        d.columns.Pairwise fun a b => (a.isKey && b.isKey) = false := List.pairwise_and_iff
  have hnames : (d.columns.map (·.name)).Pairwise (fun a b => sameName a b = false) ↔
      d.columns.Pairwise fun a b => sameName a.name b.name = false := List.pairwise_map
  rw [check_eq_ok_iff, hapart, ← countP_le_one_iff, ← h.keyMarks_tokens, ← hnames,
    ← h.declared_tokens, ← h.tokens_sql]
  exact ⟨fun h => ⟨h.1, h.2⟩, fun h => ⟨h.names, h.keys⟩⟩

end TableDefinition

/-! ## Definitions of mappings -/

/-- A column is the key exactly if its field is called `id`. -/
theorem ColumnDefinition.isKey_ofBinding (b : ColumnBinding) :
    (ColumnDefinition.ofBinding b).isKey = b.isKey := by
  have hkey : (ColumnDefinition.ofBinding b).key =
      if b.isKey then roleOfKey (.ofScalar b.type.scalarType) else .plain := rfl
  rw [isKey, hkey]
  cases b.isKey with
  | false => rfl
  | true =>
    rw [if_pos rfl, roleOfKey]
    split <;> rfl

theorem ColumnDefinition.isPlain_ofBinding {b : ColumnBinding} (h : isIdentifier b.column = true) :
    (ColumnDefinition.ofBinding b).IsPlain :=
  ⟨h, (isWhole_ofBinding (whole_of_isIdentifier h)).type⟩

end Store

/-- A stored field that is called `id`, in whatever case. -/
def FieldMapping.isKey (f : FieldMapping) : Bool := f.column.isSome && Text.lower f.field == "id"

/-- The table and the columns of a mapping are called by plain identifiers. -/
structure Mapping.IsPlain (mapping : Mapping) : Prop where
  table : ∀ table ∈ mapping.table, Sql.isIdentifier table = true
  columns : ∀ f ∈ mapping.fields, ∀ column ∈ f.column, Sql.isIdentifier column = true

namespace Store.TableDefinition

open Sql

variable {entity : EntityType} {mapping : Mapping} {m : Metadata}

/-- The definition of a mapping with plain names is plain. -/
theorem isPlain_ofMetadata (h : Metadata.ofMapping entity mapping = .ok m)
    (hplain : mapping.IsPlain) : (ofMetadata m).IsPlain := by
  refine ⟨hplain.table _ (Metadata.tabled_of_ofMapping h).1, fun c hc => ?_⟩
  obtain ⟨b, hb, rfl⟩ := List.mem_map.1 hc
  rw [(Metadata.ofMapping_eq_ok h).2.2] at hb
  obtain ⟨f, hf, hbinding⟩ := List.mem_filterMap.1 hb
  exact ColumnDefinition.isPlain_ofBinding
    (hplain.columns f hf _ (FieldMapping.binding?_eq_some_iff.1 hbinding).2.1)

/-- The columns of a mapping are those of its stored fields. -/
theorem names_ofMetadata (h : Metadata.ofMapping entity mapping = .ok m) :
    (ofMetadata m).columns.map (·.name) = mapping.fields.filterMap (·.column) := by
  rw [ofMetadata, List.map_map, (Metadata.ofMapping_eq_ok h).2.2, List.map_filterMap]
  refine congrArg (List.filterMap · _) (funext fun f => ?_)
  rw [FieldMapping.binding?, Option.map_map]
  exact Option.map_id'

/-- The keys of a mapping are its stored fields that are called `id`. -/
theorem countP_ofMetadata (h : Metadata.ofMapping entity mapping = .ok m) :
    (ofMetadata m).columns.countP (·.isKey) = mapping.fields.countP (·.isKey) := by
  have hkey : (·.isKey) ∘ ColumnDefinition.ofBinding = ColumnBinding.isKey :=
    funext ColumnDefinition.isKey_ofBinding
  rw [ofMetadata, List.countP_map, hkey, (Metadata.ofMapping_eq_ok h).2.2, List.countP_filterMap]
  refine congrArg (List.countP · _) (funext fun f => ?_)
  rw [FieldMapping.binding?, FieldMapping.isKey]
  cases f.column <;> rfl

/-- The statement for the table of a mapping with plain names declares the columns of the
    stored fields, in their order, and has a mark for each stored field that is called `id`.
    So it is well formed exactly if the columns differ, letter case apart, and one such field
    is stored at most. -/
theorem defines_fields (h : Metadata.ofMapping entity mapping = .ok m)
    (hplain : mapping.IsPlain) :
    declared (Sql.tokens (ofMetadata m).sql) = mapping.fields.filterMap (·.column) ∧
      keyMarks (Sql.tokens (ofMetadata m).sql) = mapping.fields.countP (·.isKey) ∧
      (WellFormed (Sql.tokens (ofMetadata m).sql) ↔
        ((mapping.fields.filterMap (·.column)).Pairwise fun a b => sameName a b = false) ∧
          mapping.fields.countP (·.isKey) ≤ 1) := by
  have hd := isPlain_ofMetadata h hplain
  have hdeclared : declared (Sql.tokens (ofMetadata m).sql) =
      mapping.fields.filterMap (·.column) := by
    rw [hd.tokens_sql, hd.declared_tokens, names_ofMetadata h]
  have hmarks : keyMarks (Sql.tokens (ofMetadata m).sql) = mapping.fields.countP (·.isKey) := by
    rw [hd.tokens_sql, hd.keyMarks_tokens, countP_ofMetadata h]
  refine ⟨hdeclared, hmarks, ?_⟩
  rw [← hdeclared, ← hmarks]
  exact ⟨fun hwell => ⟨hwell.names, hwell.keys⟩, fun hwell => ⟨hwell.1, hwell.2⟩⟩

end Store.TableDefinition

namespace Demo.Users

/-- The statement for the table of users declares their fields, and one key. -/
theorem defines_fields_users :
    declaration.mapping.IsPlain ∧
      Sql.WellFormed (Sql.tokens (Store.TableDefinition.ofMetadata Search.metadata).sql) := by
  have hplain : declaration.mapping.IsPlain := ⟨by decide, by decide⟩
  have hok : Metadata.ofMapping type declaration.mapping = .ok Search.metadata := by
    decide
  refine ⟨hplain, (Store.TableDefinition.defines_fields hok hplain).2.2.2 ?_⟩
  decide

end Demo.Users

namespace Demo.Crowded

/-- The entity type of items. -/
def item : EntityType := ⟨"shop::Item"⟩

/-- Items with two fields that are called `id`. -/
def keys : Mapping :=
  ⟨some "items", [⟨"id", some "id", .scalar .int64⟩, ⟨"Id", some "code", .scalar .int64⟩]⟩

/-- Items with two fields that share a column. -/
def names : Mapping :=
  ⟨some "items", [⟨"first", some "name", .scalar .string⟩,
    ⟨"second", some "NAME", .scalar .string⟩]⟩

/-- Both mappings are accepted, but the statement for the one has two keys, and that for the
    other declares a name twice, so that no database makes a table of either. -/
theorem not_wellFormed :
    (keys.IsPlain ∧ ∃ m, Metadata.ofMapping item keys = .ok m ∧
      ¬Sql.WellFormed (Sql.tokens (Store.TableDefinition.ofMetadata m).sql) ∧
      (Store.TableDefinition.ofMetadata m).check = .error (.severalKeys "items")) ∧
    names.IsPlain ∧ ∃ m, Metadata.ofMapping item names = .ok m ∧
      ¬Sql.WellFormed (Sql.tokens (Store.TableDefinition.ofMetadata m).sql) ∧
      (Store.TableDefinition.ofMetadata m).check = .error (.repeatedColumn "NAME") := by
  refine ⟨⟨⟨by decide, by decide⟩, ⟨item, "items", _⟩, rfl, fun h => ?_, by decide⟩,
    ⟨by decide, by decide⟩, ⟨item, "items", _⟩, rfl, fun h => ?_, by decide⟩
  · exact absurd h.keys (by decide +kernel)
  · exact absurd h.names (by decide +kernel)

end Demo.Crowded

end EntityQuery
