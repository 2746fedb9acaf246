import EntityQuery.Value.Basic

/-!
# Rows

A `Row` of a result holds values and the names of the result's columns. The two
need not be of one length, and a name may occur more than once: the value of a
name is the one at the first place where the name occurs, if the row reaches as
far.
-/

namespace EntityQuery

/-- A row of a result, with the names of the columns. -/
structure Row where
  columns : List String
  values : List Value
  deriving DecidableEq

namespace Row

/-- The value of a column. -/
def get? (r : Row) (column : String) : Option Value :=
  (r.columns.idxOf? column).bind fun i => r.values[i]?

/-- The place of a column is the first one where its name stands. -/
def IsPlaceOf (r : Row) (column : String) (i : Nat) : Prop :=
  r.columns[i]? = some column ∧ ∀ j < i, r.columns[j]? ≠ some column

variable {r : Row} {column : String}

theorem idxOf?_eq_some_iff {i : Nat} :
    r.columns.idxOf? column = some i ↔ r.IsPlaceOf column i := by
  rw [List.idxOf?_eq_some_iff]
  constructor
  · rintro ⟨hlt, hname, hfirst⟩
    refine ⟨by rw [List.getElem?_eq_getElem hlt, hname], fun j hj hcolumn => ?_⟩
    exact hfirst j hj (List.getElem?_eq_some_iff.1 hcolumn).2
  · rintro ⟨hname, hfirst⟩
    obtain ⟨hlt, hi⟩ := List.getElem?_eq_some_iff.1 hname
    refine ⟨hlt, hi, fun j hj hcolumn => hfirst j hj ?_⟩
    rw [List.getElem?_eq_getElem (Nat.lt_trans hj hlt), hcolumn]

/-- What a row has for a column is the value in the place of the column. -/
theorem get?_eq_some_iff {v : Value} :
    r.get? column = some v ↔ ∃ i, r.IsPlaceOf column i ∧ r.values[i]? = some v := by
  simp only [get?, Option.bind_eq_some_iff, idxOf?_eq_some_iff]

/-- A row has nothing for a column if it does not have the name, or ends before its place. -/
theorem get?_eq_none_iff :
    r.get? column = none ↔
      column ∉ r.columns ∨ ∃ i, r.IsPlaceOf column i ∧ r.values.length ≤ i := by
  rw [get?]
  cases h : r.columns.idxOf? column with
  | none => simp [List.idxOf?_eq_none_iff.1 h]
  | some i =>
    have hplace := idxOf?_eq_some_iff.1 h
    have hunique : ∀ j, r.IsPlaceOf column j ↔ j = i := fun j => by
      rw [← idxOf?_eq_some_iff, h, Option.some.injEq, eq_comm]
    simp [hunique, List.mem_of_getElem? hplace.1]

end Row

end EntityQuery
