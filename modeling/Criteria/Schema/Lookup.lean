import Criteria.Schema.Field

/-!
# Looking up fields through parents

A schema answers which entity has a name. A lookup of a field starts at an entity and goes from
parent to parent until one declares the field. It stops at an entity whose name it has passed, so
that parents which lead in a circle end it too.
-/

namespace Criteria

/-- Which entity has a name, and how many parents of an entity are followed at most. Names may be
answered with entities of another name; parents and targets may be missing. -/
structure Schema where
  entity? : String → Option Entity
  reach : Nat

namespace Schema

/-- The parents met from an entity on, nearest first, given the names passed and the parent to look
up next. -/
def ancestors (schema : Schema) : Nat → List String → Option String → List Entity
  | 0, _, _ => []
  | steps + 1, passed, parent =>
    match parent.bind schema.entity? with
    | none => []
    | some entity =>
      if entity.name ∈ passed then []
      else entity :: schema.ancestors steps (entity.name :: passed) entity.parent

/-- An entity and its parents, nearest first, up to the last known one or to the last before one
would be met again. -/
def lineage (schema : Schema) (entity : Entity) : List Entity :=
  entity :: schema.ancestors schema.reach [entity.name] entity.parent

/-- Whether the parents of an entity lead back to one of them: the last of its lineage still has a
known parent. -/
def isCircular (schema : Schema) (entity : Entity) : Bool :=
  (schema.lineage entity).getLast?.any fun last => (last.parent.bind schema.entity?).isSome

/-- A field together with the entity that declares it. -/
structure Found where
  declaring : Entity
  field : Field
deriving DecidableEq, Repr

/-- The nearest declaration of a field along the lineage of an entity. -/
def find? (schema : Schema) (entity : Entity) (name : String) : Option Found :=
  (schema.lineage entity).findSome? fun declaring =>
    (declaring.declared? name).map fun field => ⟨declaring, field⟩

end Schema

end Criteria
