import EntityQuery.Entity.Instance
import EntityQuery.Entity.Metadata

/-!
# The catalogue

The `Catalogue` knows what every entity type declares at the moment, and keeps
the metadata it has made. Metadata are made when a type is first asked for, and
kept under the type's identity for as long as the catalogue lives, whatever the
type declares later; a mapping that is refused is read again the next time.

Every reading of a mapping counts as a *build*, and what is kept bears the number
of its build, so that two answers can be told to be the same one.

* `resolve_of_kept`: a kept answer is given again, without a build;
* `resolve_of_not_kept`: any other question is one build.
-/

namespace EntityQuery

/-- Metadata that were made, with the number of the build that made them. -/
structure Resolved where
  build : Nat
  metadata : Metadata
  deriving DecidableEq, Repr

/-- What the entity types declare, the metadata kept for them, and the number of
    mappings read so far. -/
structure Catalogue where
  declared : List EntityDeclaration
  kept : List Resolved
  builds : Nat

namespace Catalogue

/-- The catalogue of no types. -/
def empty : Catalogue := ⟨[], [], 0⟩

/-- The catalogue after a type declared itself, perhaps anew. -/
def declare (d : EntityDeclaration) (c : Catalogue) : Catalogue :=
  { c with declared := d :: c.declared }

/-- What a type declares at the moment. -/
def declarationOf (c : Catalogue) (t : EntityType) : EntityDeclaration :=
  (c.declared.find? (·.type = t)).getD (.none t)

/-- The answer kept for a type. -/
def kept? (c : Catalogue) (t : EntityType) : Option Resolved :=
  c.kept.find? (·.metadata.entity = t)

/-- How many types an answer is kept for. -/
def size (c : Catalogue) : Nat := c.kept.length

/-- The metadata of a type, and the catalogue after they were asked for. -/
def resolve (t : EntityType) (c : Catalogue) : Except Error Resolved × Catalogue :=
  match c.kept? t with
  | some resolved => (.ok resolved, c)
  | none =>
    let builds := c.builds + 1
    match Metadata.ofMapping t (c.declarationOf t).mapping with
    | .error fault => (.error (.mapping t.name fault), { c with builds })
    | .ok metadata =>
      let resolved : Resolved := ⟨builds, metadata⟩
      (.ok resolved, { c with builds, kept := c.kept ++ [resolved] })

/-- A kept answer is given again, and nothing changes. -/
theorem resolve_of_kept {c : Catalogue} {t : EntityType} {r : Resolved} (h : c.kept? t = some r) :
    c.resolve t = (.ok r, c) := by
  simp [resolve, h]

/-- What is not kept is read from the mapping, once. -/
theorem resolve_of_not_kept {c : Catalogue} {t : EntityType} (h : c.kept? t = none) :
    (c.resolve t).2.builds = c.builds + 1 := by
  simp only [resolve, h]
  split <;> rfl

end Catalogue

end EntityQuery
