import EntityQuery.Proofs.Projection

/-!
# Coercion is stable

A coercion gives null or a value of the scalar type, and these are the values that it leaves
alone (`Value.coerce_eq_self_iff`, `Value.exists_coerce_eq_iff`). So to coerce twice is to
coerce once.

A type reads a value by coercing it to the scalar type at its core, however often it admits
null around that. It then reads a value as it reads what the value is coerced to, and refuses
it for the reason that the coercion gives (`MemberType.read_eq_bind`); of coerced values it
refuses null at most (`MemberType.read_of_coerce`). `Value.coerce_stable` says so of every
value.

The reading of rows depends on it. There each value is coerced to the declared type of its
column first, and coerced again by the setter of a field or by a member of an output. Where
these have the declared types, the second coercion has nothing to add: a row is refused for
what the first one refuses, for a field without a setter (`Selection.fails_of_assign`) or for
a null that a member does not admit (`Plan.absent_of_readRecord`).
-/

namespace EntityQuery

/-! ## Coercing twice -/

namespace Value

variable {v w : Value} {t : ScalarType}

/-- A coercion gives null or a value of the scalar type. -/
theorem eq_null_or_of_coerce (h : v.coerce t = .ok w) : w = null ∨ w.scalarType? = some t :=
  eq_null_or_of_convert (coerce_eq_ok_iff.1 h)

/-- Only null is coerced to null. -/
theorem eq_null_iff_of_coerce (h : v.coerce t = .ok w) : w = null ↔ v = null := by
  rw [← convert_eq_null_iff (v := v) (t := t), coerce_eq_ok_iff.1 h, Except.ok.injEq]

/-- A coercion leaves alone null and the values of the scalar type, and no others. -/
theorem coerce_eq_self_iff : w.coerce t = .ok w ↔ w = null ∨ w.scalarType? = some t := by
  refine ⟨eq_null_or_of_coerce, ?_⟩
  rintro (rfl | hw)
  · exact coerce_eq_ok_iff.2 (convert_null t)
  · exact coerce_eq_ok_iff.2 (convert_of_scalarType? hw)

/-- What is coerced already is coerced to itself. -/
theorem coerce_of_coerce (h : v.coerce t = .ok w) : w.coerce t = .ok w :=
  coerce_eq_self_iff.2 (eq_null_or_of_coerce h)

/-- The values that a coercion gives are those that it leaves alone. -/
theorem exists_coerce_eq_iff : (∃ v : Value, v.coerce t = .ok w) ↔ w.coerce t = .ok w :=
  ⟨fun ⟨_, h⟩ => coerce_of_coerce h, fun h => ⟨w, h⟩⟩

end Value

/-! ## Reading what was coerced -/

namespace MemberType

variable {s : MemberType} {v w : Value}

/-- A type reads a coerced value as it is, unless that is null and the type does not admit it. -/
theorem read_of_coerce (h : v.coerce s.scalarType = .ok w) : s.read w =
    if w = .null ∧ s.isNullable = false then
      .error ⟨Value.null.text, s.scalarType, .absent⟩ else .ok w := by
  by_cases hw : w = .null
  · subst hw
    rw [read_null]
    cases s.isNullable <;> rfl
  · rw [if_neg fun hnull => hw hnull.1]
    exact read_eq_ok (.inr ((Value.eq_null_or_of_coerce h).resolve_left hw))

/-- To read a value is to coerce it and to read what comes out. -/
theorem read_eq_bind (s : MemberType) (v : Value) :
    s.read v = v.coerce s.scalarType >>= s.read := by
  by_cases hv : v = .null
  · subst hv
    rw [Value.coerce_eq_self_iff.2 (.inl rfl)]
    rfl
  · rw [read_of_ne_null hv]
    cases h : v.coerce s.scalarType with
    | error e => rfl
    | ok w =>
      -- What comes out is no null either, and is coerced to itself.
      have hw : w ≠ .null := mt (Value.eq_null_iff_of_coerce h).1 hv
      exact (Value.coerce_of_coerce h).symm.trans (read_of_ne_null hw).symm

/-- Of a coerced value a type refuses null at most, and says that it is absent. -/
theorem absent_of_refuses {e : CoercionError} (h : v.coerce s.scalarType = .ok w)
    (hrefuses : s.Refuses w e) :
    s.isNullable = false ∧ e = ⟨Value.null.text, s.scalarType, .absent⟩ := by
  cases hrefuses with
  | null hnullable => exact ⟨hnullable, rfl⟩
  | value _ he => cases he.symm.trans (Value.coerce_of_coerce h)

end MemberType

/-- A value has landed in a scalar type as `w`: that is null or of the type, and the value is
    read by the types over it as if it had been `w` from the start. -/
structure Value.LandsIn (v : Value) (t : ScalarType) (w : Value) : Prop where
  /-- Null stays null, and nothing else becomes null. -/
  null : w = .null ↔ v = .null
  /-- Anything else has the scalar type. -/
  type : w ≠ .null → w.scalarType? = some t
  /-- It is coerced to itself. -/
  again : w.coerce t = .ok w
  /-- A type over the scalar type reads it as it is, and refuses null at most. -/
  reads : ∀ s : MemberType, s.scalarType = t → s.read w =
    if w = .null ∧ s.isNullable = false then .error ⟨Value.null.text, t, .absent⟩ else .ok w
  /-- It is what such a type reads of the value itself. -/
  same : ∀ s : MemberType, s.scalarType = t → s.read v = s.read w

/-- A value that is coerced to a scalar type is null or of that type, and it makes no
    difference from then on that it was another one before. A value that is refused is refused
    by every type over the scalar type, for the same reason. -/
theorem Value.coerce_stable (v : Value) (t : ScalarType) :
    (∀ w, v.coerce t = .ok w → v.LandsIn t w) ∧
    ∀ e, v.coerce t = .error e → ∀ s : MemberType, s.scalarType = t → s.read v = .error e := by
  refine ⟨fun w h => ⟨eq_null_iff_of_coerce h, (eq_null_or_of_coerce h).resolve_left,
    coerce_of_coerce h, ?_, ?_⟩, ?_⟩
  · rintro s rfl
    exact MemberType.read_of_coerce h
  · rintro s rfl
    rw [s.read_eq_bind v, h]
    rfl
  · rintro e h s rfl
    rw [s.read_eq_bind v, h]
    rfl

namespace Demo.Mixed

/-- The number that is given as a text is read through two layers that admit null, null stays
    null, and a byte of no text is refused as it is by the coercion. -/
theorem coerce_stable_mixed :
    ((Value.string " +7 ").LandsIn .int32 (.int32 7) ∧
      (MemberType.optional (.optional (.scalar .int32))).read (.string " +7 ") =
        .ok (.int32 7)) ∧
    Value.null.LandsIn .string .null ∧
    (MemberType.optional (.scalar .string)).read (.bytes ⟨#[0xC3]⟩) =
      .error ⟨"<1 bytes>", .string, .invalidUtf8⟩ := by
  have hnumber : (Value.string " +7 ").LandsIn .int32 (.int32 7) :=
    (Value.coerce_stable _ _).1 _ (by decide)
  refine ⟨⟨hnumber, ?_⟩, (Value.coerce_stable _ _).1 _ rfl,
    (Value.coerce_stable _ _).2 _ (by decide) _ rfl⟩
  rw [hnumber.same _ rfl, hnumber.reads _ rfl]
  rfl

end Demo.Mixed

/-! ## The second coercion of a row -/

/-- A value that is not set is refused by the setter of the field. -/
theorem Instance.exists_refused {i : Instance} {field : String} {v : Value} {e : CoercionError}
    (h : i.set field v = .error e) :
    ∃ slot ∈ i.map Cell.slot, slot.1 = field ∧ slot.2.read v = .error e := by
  induction i with
  | nil => cases h
  | cons c rest ih =>
    rw [set] at h
    split at h
    · next hfield =>
      split at h
      · next e' hread =>
        cases h
        exact ⟨c.slot, List.mem_cons_self, hfield, hread⟩
      · cases h
    · split at h
      · next e' hset =>
        cases h
        obtain ⟨slot, hslot, hrefused⟩ := ih hset
        exact ⟨slot, List.mem_cons_of_mem _ hslot, hrefused⟩
      · cases h
      · cases h

namespace Selection

variable {entity : String} {row : Row} {ss : List Selection} {i : Instance} {e : Error}

/-- A row that is not read into an instance whose setters have the declared types fails for a
    selected column, or a selected field has no setter: no setter refuses a value. -/
theorem fails_of_assign
    (hsetters : ∀ s ∈ ss, ∀ slot ∈ i.map Cell.slot, slot.1 = s.field → slot.2.fieldType = s.type)
    (h : assign entity row ss i = .error e) :
    ∃ s ∈ ss, s.read entity row = .error e ∨
      s.field ∉ i.map (·.field) ∧ e = .materialization entity (.noSetter s.field) := by
  fun_induction assign entity row ss i with
  | case1 i => cases h
  | case2 s ss i e' hread =>
    cases h
    exact ⟨s, List.mem_cons_self, .inl hread⟩
  | case3 s ss i v hread hskip ih =>
    obtain ⟨s', hs', hfails⟩ := ih (fun s' hs' => hsetters s' (List.mem_cons_of_mem _ hs')) h
    exact ⟨s', List.mem_cons_of_mem _ hs', hfails⟩
  | case4 s ss i v hread hskip e' hset =>
    -- The setter would have to refuse what was coerced to its type, and is no skipped null.
    obtain ⟨slot, hslot, hfield, hrefused⟩ := Instance.exists_refused hset
    have htype := hsetters s List.mem_cons_self slot hslot hfield
    rw [(read_eq_ok_iff.1 hread).read_eq htype (by simpa [binding] using hskip)] at hrefused
    cases hrefused
  | case5 s ss i v hread hskip hset =>
    cases h
    exact ⟨s, List.mem_cons_self, .inr ⟨Instance.set_eq_none_iff.1 hset, rfl⟩⟩
  | case6 s ss i v hread hskip i' hset ih =>
    have hslots := Instance.map_slot_of_set hset
    have hfields : i'.map (·.field) = i.map (·.field) := by
      have hfirst := congrArg (List.map Prod.fst) hslots
      rwa [List.map_map, List.map_map] at hfirst
    rw [hslots, hfields] at ih
    obtain ⟨s', hs', hfails⟩ := ih (fun s' hs' => hsetters s' (List.mem_cons_of_mem _ hs')) h
    exact ⟨s', List.mem_cons_of_mem _ hs', hfails⟩

end Selection

/-- A member of the declared scalar type refuses nothing but a null that it does not admit. -/
theorem Plan.absent_of_readRecord {p : Plan} {o : Output} {row : Row} {e : CoercionError}
    (hshape : p.shape ≠ .entity)
    (htypes : List.Forall₂ (fun t s => t.scalarType = s.type.scalarType) o.members p.selection)
    (h : p.readRecord o row = .error (.materialization p.entity.name (.member e))) :
    ∃ t ∈ o.members, t.isNullable = false ∧ e = ⟨Value.null.text, t.scalarType, .absent⟩ := by
  obtain ⟨fault, hblames, hfault⟩ := (readRecord_eq_error_iff hshape).1 h
  obtain ⟨-, rfl⟩ := Error.materialization.inj hfault
  cases hblames with
  | column _ _ _ hfails => cases hfails
  | @member vs before after t v e hwidth hvs hzip hbefore hrefuses =>
    have hmem : (t, v) ∈ o.members.zip vs := by
      rw [hzip]
      exact List.mem_append_right _ List.mem_cons_self
    -- The value was coerced to the type of the member already.
    have hcoerced : List.Forall₂ (fun (t : MemberType) w =>
        ∃ raw : Value, raw.coerce t.scalarType = .ok w) o.members vs := by
      refine forall₂_trans (fun t s w htype hw => ?_) htypes hvs
      obtain ⟨raw, -, hconvert⟩ := hw
      exact ⟨raw, htype ▸ Value.coerce_eq_ok_iff.2 hconvert⟩
    obtain ⟨raw, hraw⟩ := List.forall₂_zip hcoerced hmem
    exact ⟨t, (List.of_mem_zip hmem).1, MemberType.absent_of_refuses hraw hrefuses⟩

end EntityQuery
