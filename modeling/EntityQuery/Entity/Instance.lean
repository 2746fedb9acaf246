import EntityQuery.Entity.Mapping

/-!
# Instances

An `EntityDeclaration` is all that an entity type says of itself: its mapping,
and for each field whether it can be set, by a setter of which type, and what it
holds before. An `Instance` holds the fields that can be set, in the order of
their declaration. A field that is declared more than once is set where it comes
first.

* `Instance.set_eq_none_iff`: setting reports a field without a setter.
-/

namespace EntityQuery

/-- What an entity type declares of a field. -/
structure Property where
  field : String
  type : MemberType
  column : Option String
  /-- The type that the setter reads values into, if there is a setter. -/
  setter : Option MemberType
  /-- What the field holds in a new instance. -/
  initial : Value

/-- What an entity type declares of itself. -/
structure EntityDeclaration where
  type : EntityType
  table : Option String
  properties : List Property

/-- A field of an instance, with the type that it is set by. -/
structure Cell where
  field : String
  setter : MemberType
  value : Value

/-- The settable fields of an entity, with their values. -/
abbrev Instance := List Cell

namespace EntityDeclaration

/-- The mapping that the type declares. -/
def mapping (d : EntityDeclaration) : Mapping :=
  ⟨d.table, d.properties.map fun p => ⟨p.field, p.column, p.type.fieldType⟩⟩

/-- A new instance. -/
def new (d : EntityDeclaration) : Instance :=
  d.properties.filterMap fun p => p.setter.map fun setter => ⟨p.field, setter, p.initial⟩

end EntityDeclaration

/-- The declaration of a type that says nothing of itself. -/
def EntityDeclaration.none (type : EntityType) : EntityDeclaration := ⟨type, .none, []⟩

namespace Instance

/-- The instance after a value was read into a field; no instance if the field
    has no setter, and the failure if the value does not fit. -/
def set (field : String) (v : Value) : Instance → Except CoercionError (Option Instance)
  | [] => .ok none
  | cell :: rest =>
    if cell.field = field then
      match cell.setter.read v with
      | .error e => .error e
      | .ok w => .ok (some ({ cell with value := w } :: rest))
    else
      match set field v rest with
      | .error e => .error e
      | .ok none => .ok none
      | .ok (some rest) => .ok (some (cell :: rest))

/-- The value of a field, where it comes first. -/
def get? (i : Instance) (field : String) : Option Value :=
  (i.find? (·.field = field)).map (·.value)

/-- Setting gives no instance exactly if the field is not among those that can
    be set. -/
theorem set_eq_none_iff {field : String} {v : Value} {i : Instance} :
    i.set field v = .ok none ↔ field ∉ i.map (·.field) := by
  induction i with
  | nil => simp [set]
  | cons cell rest ih =>
    by_cases h : cell.field = field
    · simp only [set, h, if_true, List.map_cons, List.mem_cons, true_or, not_true_eq_false,
        iff_false]
      split <;> simp
    · have h' : field ≠ cell.field := fun e => h e.symm
      simp only [set, h, if_false, List.map_cons, List.mem_cons, h', false_or]
      rw [← ih]
      split <;> simp_all

end Instance

end EntityQuery
