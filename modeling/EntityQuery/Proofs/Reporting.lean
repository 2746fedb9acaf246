import EntityQuery.Proofs.Documents
import EntityQuery.Report.Section
import Mathlib.Data.List.Induction

/-!
# Reports as documents

The text of a report as a document carries every section and every value
(`Report.Format.json_carries`). It is read as one document and no other, an object for each
section with its title and an object for each row. The members of a row are those columns that
the row has a value for, each with its value; of several columns of one name the last one that
has a value counts (`Report.CarriesRow`).

Members are put into an object one after the other, in the order of their names, so that no
name occurs twice (`Report.sorted_putMember`).
-/

namespace EntityQuery

/-- A document carries a value as it is; bytes are the array of their numbers. Numbers with a
    fraction are left out. -/
inductive Value.Carries : Value → Json → Prop
  | null : Carries .null .null
  | bool (b : Bool) : Carries (.bool b) (.bool b)
  | int32 (n : Int32) : Carries (.int32 n) (.integer n.toInt)
  | int64 (n : Int64) : Carries (.int64 n) (.integer n.toInt)
  | string (s : String) : Carries (.string s) (.string s)
  | bytes (b : ByteArray) : Carries (.bytes b) (.array (b.toList.map fun n => .integer n.toNat))

theorem Value.carries_iff {v : Value} (h : ∀ x, v ≠ .float64 x) {d : Json} :
    v.Carries d ↔ d = v.json := by
  constructor
  · rintro ⟨⟩ <;> rfl
  · rintro rfl
    cases v with
    | null => exact .null
    | bool b => exact .bool b
    | int32 n => exact .int32 n
    | int64 n => exact .int64 n
    | float64 x => exact absurd rfl (h x)
    | string s => exact .string s
    | bytes b => exact .bytes b

theorem Value.exact_json {v : Value} (h : ∀ x, v ≠ .float64 x) : v.json.Exact := by
  cases v with
  | null => exact .null
  | bool b => exact .bool b
  | int32 n => exact .integer _
  | int64 n => exact .integer _
  | float64 x => exact absurd rfl (h x)
  | string s => exact .string s
  | bytes b =>
    refine .array fun e he => ?_
    obtain ⟨n, -, rfl⟩ := List.mem_map.1 he
    exact .integer _

namespace Report

/-! ## Members of a row -/

/-- The members of an object are in the order of their names. -/
def Sorted (ms : List (String × Json)) : Prop := ms.Pairwise fun m m' => m.1 < m'.1

variable {name : String} {d : Json} {ms : List (String × Json)}

/-- A member that is put takes the place of one of its name, and leaves every other. -/
theorem mem_putMember (hms : Sorted ms) {m : String × Json} :
    m ∈ putMember name d ms ↔ m = (name, d) ∨ m.1 ≠ name ∧ m ∈ ms := by
  induction ms with
  | nil => simp [putMember]
  | cons first rest ih =>
    obtain ⟨n, e⟩ := first
    obtain ⟨hfirst, hrest⟩ := List.pairwise_cons.1 hms
    -- A name before all others is none of them.
    have hne {n' : String} (hle : n' = n ∨ n' < n) (hm : m ∈ rest) : m.1 ≠ n' := by
      rintro rfl
      rcases hle with h | h
      · exact String.lt_irrefl _ (h ▸ hfirst m hm)
      · exact String.lt_irrefl _ (String.lt_trans h (hfirst m hm))
    rw [putMember]
    split
    · next heq =>
      subst heq
      simp only [List.mem_cons]
      refine or_congr_right ⟨fun hm => ⟨hne (.inl rfl) hm, .inr hm⟩, ?_⟩
      rintro ⟨hname, rfl | hm⟩
      · exact absurd rfl hname
      · exact hm
    · next hneq =>
      split
      · next hlt =>
        simp only [List.mem_cons]
        refine or_congr_right ⟨?_, And.right⟩
        rintro (rfl | hm)
        · exact ⟨Ne.symm hneq, .inl rfl⟩
        · exact ⟨hne (.inr hlt) hm, .inr hm⟩
      · simp only [List.mem_cons, ih hrest]
        constructor
        · rintro (rfl | rfl | ⟨hname, hm⟩)
          · exact .inr ⟨Ne.symm hneq, .inl rfl⟩
          · exact .inl rfl
          · exact .inr ⟨hname, .inr hm⟩
        · rintro (rfl | ⟨hname, rfl | hm⟩)
          · exact .inr (.inl rfl)
          · exact .inl rfl
          · exact .inr (.inr ⟨hname, hm⟩)

theorem Sorted.putMember (hms : Sorted ms) : Sorted (putMember name d ms) := by
  induction ms with
  | nil => exact List.pairwise_singleton _ _
  | cons first rest ih =>
    obtain ⟨n, e⟩ := first
    obtain ⟨hfirst, hrest⟩ := List.pairwise_cons.1 hms
    rw [Report.putMember]
    split
    · next heq =>
      subst heq
      exact List.pairwise_cons.2 ⟨hfirst, hrest⟩
    · next hneq =>
      split
      · next hlt =>
        refine List.pairwise_cons.2 ⟨List.forall_mem_cons.2 ⟨hlt, fun m hm => ?_⟩, hms⟩
        exact String.lt_trans hlt (hfirst m hm)
      · next hnlt =>
        refine List.pairwise_cons.2 ⟨fun m hm => ?_, ih hrest⟩
        rcases (mem_putMember hrest).1 hm with rfl | ⟨-, hm⟩
        · exact String.not_le.1 fun hle => hneq (String.le_antisymm hle (String.not_lt.1 hnlt))
        · exact hfirst m hm

theorem Sorted.nodup (hms : Sorted ms) : (ms.map (·.1)).Nodup := by
  refine List.pairwise_map.2 (List.Pairwise.imp ?_ hms)
  rintro m m' hlt h
  exact String.lt_irrefl _ (h ▸ hlt)

/-- Under each name a row has what the last column of the name has that the row reaches. -/
theorem mem_rowMembers (columns : List String) (row : List Value) :
    Sorted (rowMembers columns row) ∧ ∀ m, m ∈ rowMembers columns row ↔
      ((columns.zip row).reverse.lookup m.1).map (·.json) = some m.2 := by
  rw [rowMembers]
  generalize columns.zip row = pairs
  induction pairs using List.reverseRecOn with
  | nil => exact ⟨.nil, fun m => ⟨nofun, nofun⟩⟩
  | append_singleton pairs p ih =>
    obtain ⟨hsorted, hmem⟩ := ih
    obtain ⟨name, v⟩ := p
    rw [List.foldl_append, List.reverse_append]
    refine ⟨hsorted.putMember, fun m => ?_⟩
    obtain ⟨n, d⟩ := m
    rw [List.foldl_cons, List.foldl_nil, mem_putMember hsorted, hmem]
    by_cases hn : n = name
    · subst hn
      simp [eq_comm]
    · simp [hn, List.lookup_cons, beq_eq_false_iff_ne.2 hn]

/-- An object carries a row: its names differ, and under each name it has what the last column
    of that name has that the row reaches. -/
inductive CarriesRow (columns : List String) (row : List Value) : Json → Prop
  | mk {ms : List (String × Json)} : (ms.map (·.1)).Nodup →
    (∀ name d, (name, d) ∈ ms ↔
      ∃ v, (columns.zip row).reverse.lookup name = some v ∧ v.Carries d) →
    CarriesRow columns row (.object ms)

/-- An object carries a section: its title, and an object for each row. -/
inductive CarriesSection (s : Section) : Json → Prop
  | mk {rows : List Json} : List.Forall₂ (CarriesRow s.columns) s.rows rows →
    CarriesSection s (.object [("title", .string s.title), ("rows", .array rows)])

/-! ## Sections -/

theorem mem_of_lookup_zip {columns : List String} {row : List Value} {v : Value}
    (h : (columns.zip row).reverse.lookup name = some v) : v ∈ row := by
  obtain ⟨before, after, hpairs, -⟩ := List.lookup_eq_some_iff.1 h
  have hmem : (name, v) ∈ (columns.zip row).reverse := by simp [hpairs]
  exact (List.of_mem_zip (List.mem_reverse.1 hmem)).2

section Row

variable {columns : List String} {row : List Value}

theorem carriesRow_rowMembers (hrow : ∀ v ∈ row, ∀ x, v ≠ .float64 x) :
    CarriesRow columns row (.object (rowMembers columns row)) := by
  obtain ⟨hsorted, hmem⟩ := mem_rowMembers columns row
  refine .mk hsorted.nodup fun name d => (hmem (name, d)).trans ?_
  rw [Option.map_eq_some_iff]
  refine exists_congr fun v => and_congr_right fun hv => ?_
  rw [Value.carries_iff (hrow v (mem_of_lookup_zip hv)), eq_comm]

theorem exact_rowMembers (hrow : ∀ v ∈ row, ∀ x, v ≠ .float64 x) :
    (Json.object (rowMembers columns row)).Exact := by
  refine .object fun m hm => ?_
  obtain ⟨v, hv, hm⟩ := Option.map_eq_some_iff.1 (((mem_rowMembers columns row).2 m).1 hm)
  rw [← hm]
  exact Value.exact_json (hrow v (mem_of_lookup_zip hv))

end Row

theorem exact_json {s : Section} (hs : ∀ row ∈ s.rows, ∀ v ∈ row, ∀ x, v ≠ .float64 x) :
    s.json.Exact := by
  have hrows : (Json.array (s.rows.map fun row => .object (rowMembers s.columns row))).Exact := by
    refine .array fun e he => ?_
    obtain ⟨row, hrow, rfl⟩ := List.mem_map.1 he
    exact exact_rowMembers (hs row hrow)
  exact .object (List.forall_mem_cons.2 ⟨.string _, List.forall_mem_singleton.2 hrows⟩)

/-- The text of a report as a document is that of one document, in which every section has its
    title and its rows, and every row the values of its columns. -/
theorem Format.json_carries (sections : List Section)
    (h : ∀ s ∈ sections, ∀ row ∈ s.rows, ∀ v ∈ row, ∀ x, v ≠ .float64 x) :
    ∃ objects, (∀ d : Json, d.IsText (Format.json.write sections) ↔ d = .array objects) ∧
      List.Forall₂ CarriesSection sections objects := by
  refine ⟨sections.map Section.json, fun d => ?_, ?_⟩
  · refine Json.Exact.isText_pretty_iff (.array fun e he => ?_)
    obtain ⟨s, hs, rfl⟩ := List.mem_map.1 he
    exact exact_json (h s hs)
  · refine List.forall₂_map_right_iff.2 (List.forall₂_same.2 fun s hs => ?_)
    exact .mk (List.forall₂_map_right_iff.2
      (List.forall₂_same.2 fun row hrow => carriesRow_rowMembers (h s hs row hrow)))

/-- A section with a column that is named twice, rows that are too short and too long, and
    texts with characters that do not stand for themselves. -/
def mixed : Section :=
  ⟨"A \"title\"\n", ["id", "name", "id"],
    [[.int32 1, .string "\\ \u2003\x00é", .int64 (-2)], [.null],
      [.bool true, .bytes ⟨#[0, 255]⟩, .null, .int32 5]]⟩

/-- The text of the section is read as one object, which carries it. -/
theorem json_carries_mixed :
    ∃ d : Json, d.IsText (Format.json.write [mixed]) ∧
      ∃ o, d = .array [o] ∧ CarriesSection mixed o := by
  obtain ⟨objects, htext, hcarries⟩ := Format.json_carries [mixed] (by simp [mixed])
  cases hcarries with
  | cons hmixed hnil =>
    cases hnil
    exact ⟨_, (htext _).2 rfl, _, rfl, hmixed⟩

end Report

end EntityQuery
