import EntityQuery.Proofs.Assignment

/-!
# Outputs of arbitrary rows

What the plan of a projection makes of a row, whatever the plan, the row and the output are
(`Plan.readRecord_builds`). Each member gets a value that was coerced twice: to the declared
type of the selected field, and then to the member's own type, which need not have anything
to do with it. Only the second coercion can tell a null from a value (`MemberType.Takes`).

What is reported otherwise (`Plan.Blames`) is said in the order in which it is looked for:
the number of the members first, then the first column that fails, and only when all
columns were read the first member that refuses its value. Both loops are the same one,
up to the first failure in a list (`mapM_eq_ok_iff`, `mapM_eq_error_iff`).
-/

namespace EntityQuery

/-! ## Up to the first failure -/

section FirstFailure

variable {α β ε : Type} {f : α → Except ε β} {l : List α}

/-- A list is made something of exactly if each of its elements is. -/
theorem mapM_eq_ok_iff {bs : List β} :
    l.mapM f = .ok bs ↔ List.Forall₂ (fun a b => f a = .ok b) l bs := by
  induction l generalizing bs with
  | nil =>
    rw [List.mapM_nil, List.forall₂_nil_left_iff]
    exact ⟨fun h => (Except.ok.inj h).symm, fun h => congrArg Except.ok h.symm⟩
  | cons a l ih =>
    rw [List.mapM_cons, List.forall₂_cons_left_iff]
    constructor
    · intro h
      rcases hb : f a with _ | b
      · rw [hb] at h
        cases h
      · rcases hl : l.mapM f with _ | rest
        · rw [hb, hl] at h
          cases h
        · rw [hb, hl] at h
          exact ⟨b, rest, rfl, ih.1 hl, (Except.ok.inj h).symm⟩
    · rintro ⟨b, rest, hb, hl, rfl⟩
      rw [hb, ih.2 hl]
      rfl

/-- Otherwise what is reported is the failure of the first element that fails. -/
theorem mapM_eq_error_iff {e : ε} :
    l.mapM f = .error e ↔ ∃ before a after, l = before ++ a :: after ∧
      (∀ x ∈ before, ∃ b, f x = .ok b) ∧ f a = .error e := by
  induction l with
  | nil =>
    rw [List.mapM_nil]
    refine ⟨nofun, ?_⟩
    rintro ⟨before, a, after, h, -⟩
    exact absurd h.symm (List.append_ne_nil_of_right_ne_nil _ (List.cons_ne_nil _ _))
  | cons a l ih =>
    rw [List.mapM_cons]
    rcases ha : f a with e' | b
    · constructor
      · intro h
        exact ⟨[], a, l, rfl, nofun, ha.trans (congrArg _ (Except.error.inj h))⟩
      · -- The first element fails, so that there is nothing before the one that fails.
        rintro ⟨_ | ⟨x, before⟩, y, after, h, hbefore, hy⟩
        · obtain ⟨rfl, rfl⟩ := List.cons.inj h
          exact congrArg _ (Except.error.inj (ha.symm.trans hy))
        · obtain ⟨rfl, -⟩ := List.cons.inj h
          obtain ⟨b, hb⟩ := hbefore _ List.mem_cons_self
          cases ha.symm.trans hb
    · have hrest : ((do let bs ← l.mapM f; pure (b :: bs) : Except ε (List β)) = .error e) ↔
          l.mapM f = .error e := by
        rcases l.mapM f with _ | bs
        · exact ⟨fun h => h, fun h => h⟩
        · exact ⟨nofun, nofun⟩
      refine hrest.trans (ih.trans ?_)
      constructor
      · rintro ⟨before, y, after, rfl, hbefore, hy⟩
        exact ⟨a :: before, y, after, rfl, List.forall_mem_cons.2 ⟨⟨b, ha⟩, hbefore⟩, hy⟩
      · rintro ⟨_ | ⟨x, before⟩, y, after, h, hbefore, hy⟩
        · obtain ⟨rfl, -⟩ := List.cons.inj h
          cases ha.symm.trans hy
        · obtain ⟨-, rfl⟩ := List.cons.inj h
          exact ⟨before, y, after, rfl, fun x hx => hbefore x (List.mem_cons_of_mem _ hx), hy⟩

end FirstFailure

/-! ## Members -/

namespace MemberType

variable {t : MemberType} {v w : Value} {e : CoercionError}

/-- What a member makes of a value: null is taken where it is admitted, however often, and
    anything else is coerced to the scalar type. -/
inductive Takes (t : MemberType) : Value → Value → Prop
  | null : t.isNullable = true → Takes t .null .null
  | value {v w : Value} : v ≠ .null → v.coerce t.scalarType = .ok w → Takes t v w

/-- Why a member refuses a value: null is absent where it is not admitted, and anything else
    may have no counterpart in the scalar type. -/
inductive Refuses (t : MemberType) : Value → CoercionError → Prop
  | null : t.isNullable = false → Refuses t .null ⟨Value.null.text, t.scalarType, .absent⟩
  | value {v : Value} {e : CoercionError} : v ≠ .null → v.coerce t.scalarType = .error e →
      Refuses t v e

/-- What a member reads is what it takes. -/
theorem read_eq_ok_iff : t.read v = .ok w ↔ t.Takes v w := by
  by_cases hv : v = .null
  · subst hv
    rw [read_null]
    constructor
    · intro h
      split at h
      · next hnullable =>
        cases h
        exact .null hnullable
      · cases h
    · rintro (hnullable | ⟨hne, -⟩)
      · rw [if_pos hnullable]
      · exact absurd rfl hne
  · rw [read_of_ne_null hv]
    refine ⟨.value hv, ?_⟩
    rintro (- | ⟨-, h⟩)
    · exact absurd rfl hv
    · exact h

/-- What a member does not read it refuses, and for what reason. -/
theorem read_eq_error_iff : t.read v = .error e ↔ t.Refuses v e := by
  by_cases hv : v = .null
  · subst hv
    rw [read_null]
    constructor
    · intro h
      split at h
      · cases h
      · next hnullable =>
        cases h
        exact .null (Bool.eq_false_iff.2 hnullable)
    · rintro (hnullable | ⟨hne, -⟩)
      · rw [if_neg (Bool.eq_false_iff.1 hnullable)]
      · exact absurd rfl hne
  · rw [read_of_ne_null hv]
    refine ⟨.value hv, ?_⟩
    rintro (- | ⟨-, h⟩)
    · exact absurd rfl hv
    · exact h

end MemberType

/-- The members of an output are read one after the other, each from its own value. -/
theorem Output.read_eq_mapM {ts : List MemberType} {vs : List Value} (h : ts.length = vs.length) :
    Output.read ts vs = (ts.zip vs).mapM fun tv => tv.1.read tv.2 := by
  induction ts generalizing vs with
  | nil => rfl
  | cons t ts ih =>
    obtain ⟨v, vs, rfl⟩ := List.exists_cons_of_length_eq_add_one h.symm
    rw [read, List.zip_cons_cons, List.mapM_cons, List.headD_cons, List.tail_cons,
      ← ih (Nat.succ.inj h)]
    rcases t.read v with _ | w
    · rfl
    · rcases read ts vs with _ | ws <;> rfl

/-- Members that have a value each are read exactly if each takes its own. -/
theorem Output.read_eq_ok_iff {ts : List MemberType} {vs ws : List Value}
    (h : ts.length = vs.length) : Output.read ts vs = .ok ws ↔
      List.Forall₂ (fun tv w => tv.1.Takes tv.2 w) (ts.zip vs) ws := by
  rw [read_eq_mapM h, mapM_eq_ok_iff]
  simp only [MemberType.read_eq_ok_iff]

/-- Otherwise the first member that refuses its value says why. -/
theorem Output.read_eq_error_iff {ts : List MemberType} {vs : List Value} {e : CoercionError}
    (h : ts.length = vs.length) : Output.read ts vs = .error e ↔
      ∃ before t v after, ts.zip vs = before ++ (t, v) :: after ∧
        (∀ tv ∈ before, ∃ w, tv.1.Takes tv.2 w) ∧ t.Refuses v e := by
  rw [read_eq_mapM h, mapM_eq_error_iff]
  simp only [MemberType.read_eq_ok_iff, MemberType.read_eq_error_iff, Prod.exists]

/-! ## Columns -/

namespace Selection

variable {entity : String} {row : Row} {s : Selection} {ss : List Selection} {v : Value}

/-- The field that a selection is read for, with its column. -/
def binding (s : Selection) : ColumnBinding := ⟨s.field, s.column, s.type⟩

/-- What is read for a selection is what the row holds for the field. -/
theorem read_eq_ok_iff : s.read entity row = .ok v ↔ row.Holds s.binding v := by
  rw [read]
  constructor
  · intro h
    split at h
    · cases h
    · next raw hraw =>
      split at h
      · cases h
      · next hv =>
        cases h
        exact ⟨raw, hraw, Value.coerce_eq_ok_iff.1 hv⟩
  · rintro ⟨raw, hraw, hv⟩
    rw [binding] at hraw hv
    simp only [hraw, Value.coerce_eq_ok_iff.2 hv]

/-- What is reported for a selection is why the row has nothing of use for the field. -/
theorem read_eq_error_iff {e : Error} : s.read entity row = .error e ↔
    ∃ fault, row.Fails s.binding fault ∧ e = .materialization entity fault := by
  constructor
  · intro h
    rcases row.holds_or_fails s.binding with ⟨v, hv⟩ | ⟨fault, hfault⟩
    · rw [read_eq_ok_iff.2 hv] at h
      cases h
    · exact ⟨fault, hfault, Except.error.inj (h.symm.trans (hfault.read_eq entity))⟩
  · rintro ⟨fault, hfault, rfl⟩
    exact hfault.read_eq entity

/-- The selected columns are read one after the other. -/
theorem readAll_eq_mapM : readAll entity row ss = ss.mapM (read entity row) := by
  induction ss with
  | nil => rfl
  | cons s ss ih =>
    rw [readAll, List.mapM_cons, ih]
    rcases s.read entity row with _ | v
    · rfl
    · rcases ss.mapM (read entity row) with _ | vs <;> rfl

/-- The values that are read for a selection are those that the row holds. -/
theorem readAll_eq_ok_iff {vs : List Value} :
    readAll entity row ss = .ok vs ↔ List.Forall₂ (fun s v => row.Holds s.binding v) ss vs := by
  rw [readAll_eq_mapM, mapM_eq_ok_iff]
  simp only [read_eq_ok_iff]

/-- Otherwise the first column that fails is reported. -/
theorem readAll_eq_error_iff {e : Error} : readAll entity row ss = .error e ↔
    ∃ before s after fault, ss = before ++ s :: after ∧
      (∀ s ∈ before, ∃ v, row.Holds s.binding v) ∧ row.Fails s.binding fault ∧
      e = .materialization entity fault := by
  rw [readAll_eq_mapM, mapM_eq_error_iff]
  simp only [read_eq_ok_iff, read_eq_error_iff]
  constructor
  · rintro ⟨before, s, after, hs, hbefore, fault, hfault, he⟩
    exact ⟨before, s, after, fault, hs, hbefore, hfault, he⟩
  · rintro ⟨before, s, after, fault, hs, hbefore, hfault, he⟩
    exact ⟨before, s, after, hs, hbefore, fault, hfault, he⟩

end Selection

/-! ## Outputs -/

namespace Plan

variable {p : Plan} {o : Output} {row : Row}

/-- What a plan makes of a row for an output: each member takes the value that the row holds
    for the selection in its place. -/
structure Makes (p : Plan) (o : Output) (row : Row) (ws : List Value) : Prop where
  width : o.members.length = p.selection.length
  members : ∃ vs, List.Forall₂ (fun s v => row.Holds s.binding v) p.selection vs ∧
    List.Forall₂ (fun tv w => tv.1.Takes tv.2 w) (o.members.zip vs) ws

/-- Why a plan makes nothing of a row for an output. -/
inductive Blames (p : Plan) (o : Output) (row : Row) : MaterializationFault → Prop
  /-- The output has another number of members, whatever the row is. -/
  | width : o.members.length ≠ p.selection.length →
      Blames p o row (.noConstructor o.name p.selection.length)
  /-- A column fails, and none before it does, whatever the members are. -/
  | column {before after : List Selection} {s : Selection} {fault : MaterializationFault} :
      o.members.length = p.selection.length → p.selection = before ++ s :: after →
      (∀ s ∈ before, ∃ v, row.Holds s.binding v) → row.Fails s.binding fault →
      Blames p o row fault
  /-- All columns are read, but a member refuses its value, and none before it does. -/
  | member {vs : List Value} {before after : List (MemberType × Value)} {t : MemberType}
      {v : Value} {e : CoercionError} :
      o.members.length = p.selection.length →
      List.Forall₂ (fun s v => row.Holds s.binding v) p.selection vs →
      o.members.zip vs = before ++ (t, v) :: after →
      (∀ tv ∈ before, ∃ w, tv.1.Takes tv.2 w) → t.Refuses v e → Blames p o row (.member e)

/-- A plan of a projection makes something of a row exactly if it should. -/
theorem readRecord_eq_ok_iff (hshape : p.shape ≠ .entity) {ws : List Value} :
    p.readRecord o row = .ok ws ↔ p.Makes o row ws := by
  rw [readRecord, if_neg hshape]
  by_cases hwidth : o.members.length = p.selection.length
  · rw [if_neg (not_not.2 hwidth)]
    constructor
    · intro h
      split at h
      · cases h
      · next vs hvs =>
        split at h
        · cases h
        · next ws' hws =>
          cases h
          rw [Selection.readAll_eq_ok_iff] at hvs
          rw [Output.read_eq_ok_iff (hwidth.trans hvs.length_eq)] at hws
          exact ⟨hwidth, vs, hvs, hws⟩
    · rintro ⟨-, vs, hvs, hws⟩
      rw [← Output.read_eq_ok_iff (hwidth.trans hvs.length_eq)] at hws
      simp only [Selection.readAll_eq_ok_iff.2 hvs, hws]
  · rw [if_pos hwidth]
    exact ⟨nofun, fun h => absurd h.width hwidth⟩

/-- Otherwise it reports what is to blame. -/
theorem readRecord_eq_error_iff (hshape : p.shape ≠ .entity) {e : Error} :
    p.readRecord o row = .error e ↔
      ∃ fault, p.Blames o row fault ∧ e = .materialization p.entity.name fault := by
  rw [readRecord, if_neg hshape]
  by_cases hwidth : o.members.length = p.selection.length
  · rw [if_neg (not_not.2 hwidth)]
    constructor
    · intro h
      split at h
      · next e' he =>
        cases h
        obtain ⟨before, s, after, fault, hs, hbefore, hfault, rfl⟩ :=
          Selection.readAll_eq_error_iff.1 he
        exact ⟨fault, .column hwidth hs hbefore hfault, rfl⟩
      · -- All columns are read before any member is.
        next vs hvs =>
        rw [Selection.readAll_eq_ok_iff] at hvs
        split at h
        · next e' he =>
          cases h
          rw [Output.read_eq_error_iff (hwidth.trans hvs.length_eq)] at he
          obtain ⟨before, t, v, after, hzip, hbefore, hrefuses⟩ := he
          exact ⟨_, .member hwidth hvs hzip hbefore hrefuses, rfl⟩
        · cases h
    · rintro ⟨fault, hfault | ⟨-, hs, hbefore, hfault⟩ | ⟨-, hvs, hzip, hbefore, hrefuses⟩, rfl⟩
      · exact absurd hwidth hfault
      · simp only [Selection.readAll_eq_error_iff.2 ⟨_, _, _, _, hs, hbefore, hfault, rfl⟩]
      · simp only [Selection.readAll_eq_ok_iff.2 hvs,
          (Output.read_eq_error_iff (hwidth.trans hvs.length_eq)).2
            ⟨_, _, _, _, hzip, hbefore, hrefuses⟩]
  · rw [if_pos hwidth]
    constructor
    · intro h
      exact ⟨_, .width hwidth, (Except.error.inj h).symm⟩
    · rintro ⟨fault, - | ⟨h, -⟩ | ⟨h, -⟩, rfl⟩
      · rfl
      · exact absurd h hwidth
      · exact absurd h hwidth

/-- What a plan makes of a row for an output, or reports. -/
structure Builds (p : Plan) (o : Output) (row : Row) : Prop where
  succeeds : ∀ ws, p.readRecord o row = .ok ws ↔ p.Makes o row ws
  fails : ∀ e, p.readRecord o row = .error e ↔
    ∃ fault, p.Blames o row fault ∧ e = .materialization p.entity.name fault

/-- The plan of a projection makes of a row for an output what the members take of the values
    that the row holds, and reports the first fault of any other row or output. -/
theorem readRecord_builds (hshape : p.shape ≠ .entity) (o : Output) (row : Row) :
    p.Builds o row where
  succeeds _ := readRecord_eq_ok_iff hshape
  fails _ := readRecord_eq_error_iff hshape

end Plan

namespace Demo.Mixed

/-- A plan for a number, a note and the number again, put together by hand. -/
def plan : Plan :=
  ⟨⟨"shop::Entry"⟩, none, [⟨"count", "first", "n", .scalar .int32⟩,
    ⟨"note", "note", "remark", .optional .string⟩, ⟨"count", "second", "n", .scalar .int32⟩],
    .record ["first", "note", "second"], none, none⟩

/-- A row that lacks a note and has the number as a text, with blanks and a sign. -/
def row : Row := ⟨["remark", "n", "n"], [.null, .string " +7 "]⟩

/-- An output whose members have other types than the fields. -/
def other : Output :=
  ⟨"Other", [.scalar .string, .optional (.optional (.scalar .int64)), .scalar .float64]⟩

/-- An output that has no place for null, nor for the number. -/
def narrow : Output := ⟨"Narrow", [.scalar .int64, .scalar .int64, .scalar .bool]⟩

/-- The text of the number is not the one in the row, for it was a number in between; of what
    the narrow output refuses, the null comes first. -/
theorem readRecord_builds_mixed :
    (plan.Builds other row ∧
      plan.readRecord other row = .ok [.string "7", .null, .float64 (.ofInt 7)]) ∧
    plan.Builds narrow row ∧ plan.readRecord narrow row =
      .error (.materialization "Entry" (.member ⟨"NULL", .int64, .absent⟩)) :=
  ⟨⟨Plan.readRecord_builds (by decide) other row, by decide⟩,
    Plan.readRecord_builds (by decide) narrow row, by decide⟩

end Demo.Mixed

end EntityQuery
