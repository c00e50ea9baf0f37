import Criteria.Dictionary
import Criteria.Names
import Criteria.Schema.Lookup

/-!
# The registry of entities

Entities are registered one by one under their names. Registration looks only at the entity itself
and at the names taken, so entities may refer to ones that come later; `Registry.validate` checks
the references when all are there.
-/

namespace Criteria

/-- What is wrong with an entity of a registry. -/
inductive SchemaError where
  | duplicateEntity (entity : String)
  | duplicateField (entity field : String)
  | unknownParent (entity parent : String)
  | unknownTarget (entity field target : String)
  | circularParents (entity : String)
deriving DecidableEq, Repr

def SchemaError.message : SchemaError → String
  | duplicateEntity entity => s!"entity '{entity}' is already registered"
  | duplicateField entity field => s!"entity '{entity}' declares field '{field}' more than once"
  | unknownParent entity parent => s!"entity '{entity}' extends unknown entity '{parent}'"
  | unknownTarget entity field target =>
    s!"field '{entity}.{field}' targets unknown entity '{target}'"
  | circularParents entity => s!"entity '{entity}' has a cyclic parent chain"

/-- Entities under their own names. -/
structure Registry where
  byName : Dictionary Entity
  named : ∀ entry ∈ byName.entries, entry.1 = entry.2.name

namespace Registry

/-- The registry without entities. -/
def empty : Registry := ⟨∅, by rintro _ ⟨⟩⟩

instance : EmptyCollection Registry := ⟨empty⟩
instance : Inhabited Registry := ⟨∅⟩

/-- The entity of a name. -/
def entity? (registry : Registry) (name : String) : Option Entity := registry.byName.get? name

/-- All entities in the order of their names. -/
def entities (registry : Registry) : List Entity := registry.byName.values

def size (registry : Registry) : Nat := registry.byName.size

/-- An entity is found under its own name. -/
theorem name_of_entity? {registry : Registry} {name : String} {entity : Entity}
    (h : registry.entity? name = some entity) : entity.name = name :=
  (registry.named _ (Dictionary.mem_entries_of_get? h)).symm

theorem mem_entities_of_entity? {registry : Registry} {name : String} {entity : Entity}
    (h : registry.entity? name = some entity) : entity ∈ registry.entities :=
  List.mem_map.mpr ⟨_, Dictionary.mem_entries_of_get? h, rfl⟩

/-! ## Registration -/

/-- The registry with one more entity under its name. -/
def insert (registry : Registry) (entity : Entity) : Registry where
  byName := registry.byName.insert entity.name entity
  named entry mem := by
    rcases Dictionary.eq_or_mem_of_mem_insert mem with rfl | mem
    · rfl
    · exact registry.named entry mem

/-- Registers an entity. A name that is taken is refused first, then a repeated field name. -/
def register (registry : Registry) (entity : Entity) : Except SchemaError Registry :=
  if registry.byName.contains entity.name then .error (.duplicateEntity entity.name)
  else
    match Names.repeated? (entity.fields.map (·.name)) with
    | some field => .error (.duplicateField entity.name field)
    | none => .ok (registry.insert entity)

theorem entity?_insert (registry : Registry) (entity : Entity) (name : String) :
    (registry.insert entity).entity? name =
      if name = entity.name then some entity else registry.entity? name :=
  Dictionary.get?_insert ..

theorem not_contains_of_entity? {registry : Registry} {name : String}
    (free : registry.entity? name = none) : ¬ registry.byName.contains name = true := by
  rw [Dictionary.contains, ← entity?, free]
  exact Bool.false_ne_true

section Register

variable {registry registry' : Registry} {entity : Entity}

theorem register_of_taken {held : Entity} (taken : registry.entity? entity.name = some held) :
    registry.register entity = .error (.duplicateEntity entity.name) :=
  if_pos (Option.isSome_of_mem taken)

theorem register_of_repeated {field : String} (free : registry.entity? entity.name = none)
    (repeated : Names.repeated? (entity.fields.map (·.name)) = some field) :
    registry.register entity = .error (.duplicateField entity.name field) := by
  rw [register, if_neg (not_contains_of_entity? free), repeated]

theorem register_of_nodup (free : registry.entity? entity.name = none)
    (nodup : (entity.fields.map (·.name)).Nodup) :
    registry.register entity = .ok (registry.insert entity) := by
  rw [register, if_neg (not_contains_of_entity? free), Names.repeated?_eq_none_iff.mpr nodup]

/-- An entity is registered when its name is free and its field names are distinct. -/
theorem register_eq_ok_iff : registry.register entity = .ok registry' ↔
    registry.entity? entity.name = none ∧ (entity.fields.map (·.name)).Nodup ∧
      registry' = registry.insert entity := by
  constructor
  · intro registers
    cases found : registry.entity? entity.name with
    | some held => cases (register_of_taken found).symm.trans registers
    | none =>
      cases repeated : Names.repeated? (entity.fields.map (·.name)) with
      | some field => cases (register_of_repeated found repeated).symm.trans registers
      | none =>
        have nodup := Names.repeated?_eq_none_iff.mp repeated
        exact ⟨rfl, nodup, Except.ok.inj (registers.symm.trans (register_of_nodup found nodup))⟩
  · rintro ⟨free, nodup, rfl⟩
    exact register_of_nodup free nodup

end Register

/-! ## Lookup -/

/-- The schema in which a name stands for the entity registered under its actual name. It reaches
as far as there are entities, and so through all parents that differ in name. -/
def schemaVia (registry : Registry) (actual : String → String) : Schema where
  entity? name := registry.entity? (actual name)
  reach := registry.size

/-- The schema in which every name stands for the entity registered under it. -/
def schema (registry : Registry) : Schema := registry.schemaVia id

@[simp]
theorem entity?_schema (registry : Registry) : registry.schema.entity? = registry.entity? := rfl

/-! ## Validation -/

/-- The first field of an entity that targets an entity unknown to the registry. -/
def danglingField? (registry : Registry) (entity : Entity) : Option (Field × String) :=
  entity.fields.findSome? fun field =>
    match field.target? with
    | some target =>
      if (registry.entity? target).isNone then some (field, target) else none
    | none => none

/-- What is wrong with the references of one entity: its parent is unknown, a field targets an
unknown entity, or its parents lead in a circle, in this order. -/
def fault? (registry : Registry) (entity : Entity) : Option SchemaError :=
  match entity.parent.filter fun parent => (registry.entity? parent).isNone with
  | some parent => some (.unknownParent entity.name parent)
  | none =>
    match registry.danglingField? entity with
    | some (field, target) => some (.unknownTarget entity.name field.name target)
    | none =>
      if registry.schema.isCircular entity then some (.circularParents entity.name) else none

/-- Checks the references of all entities, in the order of their names. -/
def validate (registry : Registry) : Except SchemaError Unit :=
  match registry.entities.findSome? registry.fault? with
  | some error => .error error
  | none => .ok ()

end Registry

end Criteria
