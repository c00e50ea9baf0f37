import Criteria.Proofs.Join.Typing
import Criteria.Proofs.Schema.Astray

/-!
# Registries that pass validation

In a registry that passes validation every parent and every target is registered, and no parents
lead in a circle. Paths then never come to an entity that is unknown: from a registered entity, one
that goes astray does so at a field, `PathError.BlamesField`.
-/

namespace Criteria

namespace Registry

variable {registry : Registry} {entity : Entity}

/-! ## What validation checks -/

/-- The entity referred to, when it is unknown. -/
def unknown? (registry : Registry) (reference : Option String) : Option String :=
  reference.filter fun name => (registry.entity? name).isNone

theorem unknown?_eq_some_iff {reference : Option String} {name : String} :
    registry.unknown? reference = some name ↔
      reference = some name ∧ registry.entity? name = none := by
  rw [unknown?, Option.filter_eq_some_iff, Option.isNone_iff_eq_none]

theorem unknown?_eq_none_iff {reference : Option String} : registry.unknown? reference = none ↔
    ∀ name, reference = some name → (registry.entity? name).isSome := by
  rw [unknown?, Option.filter_eq_none_iff]
  simp [Option.isSome_iff_ne_none]

theorem danglingField?_eq (registry : Registry) (entity : Entity) :
    registry.danglingField? entity = entity.fields.findSome? fun field =>
      (registry.unknown? field.target?).map fun target => (field, target) := by
  unfold danglingField?
  congr 1
  funext field
  cases field.target? with
  | none => rfl
  | some target =>
    rw [unknown?, Option.filter_some]
    dsimp only
    split <;> rfl

theorem danglingField?_eq_none_iff : registry.danglingField? entity = none ↔
    ∀ field ∈ entity.fields, ∀ target, field.target? = some target →
      (registry.entity? target).isSome := by
  rw [danglingField?_eq, List.findSome?_eq_none_iff]
  simp only [Option.map_eq_none_iff, unknown?_eq_none_iff]

/-- The first fault of an entity: its parent, then its fields, then the circle. -/
theorem fault?_eq (registry : Registry) (entity : Entity) : registry.fault? entity =
    match registry.unknown? entity.parent, registry.danglingField? entity with
    | some parent, _ => some (.unknownParent entity.name parent)
    | none, some (field, target) => some (.unknownTarget entity.name field.name target)
    | none, none =>
      if registry.schema.isCircular entity then some (.circularParents entity.name) else none := by
  rw [fault?, unknown?]
  cases entity.parent.filter fun parent => (registry.entity? parent).isNone with
  | some parent => rfl
  | none => cases registry.danglingField? entity <;> rfl

/-- Nothing is wrong with an entity when its parent is registered, if it has one, the targets of its
fields are, and its parents do not lead in a circle. -/
theorem fault?_eq_none_iff : registry.fault? entity = none ↔
    (∀ parent, entity.parent = some parent → (registry.entity? parent).isSome) ∧
      (∀ field ∈ entity.fields, ∀ target, field.target? = some target →
        (registry.entity? target).isSome) ∧
      registry.schema.isCircular entity = false := by
  rw [fault?_eq, ← unknown?_eq_none_iff, ← danglingField?_eq_none_iff]
  cases registry.unknown? entity.parent with
  | some parent => simp
  | none => cases registry.danglingField? entity <;> simp

theorem validate_eq_ok_iff :
    registry.validate = .ok () ↔ ∀ entity ∈ registry.entities, registry.fault? entity = none := by
  rw [validate, ← List.findSome?_eq_none_iff]
  cases registry.entities.findSome? registry.fault? <;> simp

/-- What a field that is found targets is registered. -/
theorem isSome_entity?_of_validate (valid : registry.validate = .ok ())
    (registered : registry.entity? entity.name = some entity) {name target : String}
    {found : Schema.Found} (finds : registry.schema.find? entity name = some found)
    (targets : found.field.target? = some target) : (registry.entity? target).isSome := by
  obtain ⟨mem, declared⟩ := Schema.declared_of_find? finds
  have listed := mem_entities_of_entity? (lineage_registered registered mem)
  obtain ⟨-, known, -⟩ := fault?_eq_none_iff.mp (validate_eq_ok_iff.mp valid _ listed)
  exact known _ (List.mem_of_find?_eq_some declared) _ targets

end Registry

/-! ## Errors that are left -/

/-- The error is about a field: there is none of the name, or it is not of the kind that its place
on the path asks for. -/
inductive PathError.BlamesField : PathError → Prop
  | unknownField (entity field : String) : BlamesField (.unknownField entity field)
  | expectedAssociation (entity field : String) : BlamesField (.expectedAssociation entity field)
  | expectedColumn (entity field : String) : BlamesField (.expectedColumn entity field)
  | notTraversable (entity field : String) (type : FieldType) :
      BlamesField (.notTraversable entity field type)

namespace Registry

variable {registry : Registry} {entity : Entity} {name : String} {error : PathError}

theorem registered_of_crosses {hop : Hop} {next : Entity}
    (crosses : registry.schema.Crosses entity hop next) :
    registry.entity? next.name = some next := by
  obtain ⟨-, -, -, -, known⟩ := exists_found_of_crosses crosses
  rwa [name_of_entity? known]

theorem blamesField_of_blocks (valid : registry.validate = .ok ())
    (registered : registry.entity? entity.name = some entity)
    (blocks : registry.schema.Blocks entity name error) : error.BlamesField := by
  cases blocks with
  | absent => exact .unknownField _ _
  | column => exact .expectedAssociation _ _
  | untraversable => exact .notTraversable _ _ _
  | dangling finds targets unknown =>
    have known := isSome_entity?_of_validate valid registered finds targets
    rw [entity?_schema] at unknown
    simp [unknown] at known

theorem blamesField_of_lacks (lacks : registry.schema.Lacks entity name error) :
    error.BlamesField := by
  cases lacks with
  | absent => exact .unknownField _ _
  | association => exact .expectedColumn _ _

/-- Associations lead from registered entities to registered entities, so that only a field is left
to go astray at. -/
theorem blamesField_of_strays (valid : registry.validate = .ok ())
    (registered : registry.entity? entity.name = some entity) {rest : List String}
    (strays : registry.schema.Strays entity name rest error) : error.BlamesField := by
  induction strays with
  | hop blocks => exact blamesField_of_blocks valid registered blocks
  | terminal lacks => exact blamesField_of_lacks lacks
  | across crosses _ ih => exact ih (registered_of_crosses crosses)

theorem blamesField_of_resolve (valid : registry.validate = .ok ()) {root : String}
    (known : (registry.entity? root).isSome) {path : List String} (nonempty : path ≠ [])
    (fails : registry.schema.resolve root path = .error error) : error.BlamesField := by
  cases Schema.resolve_eq_error_iff.mp fails with
  | empty => exact absurd rfl nonempty
  | rootless unknown =>
    rw [entity?_schema] at unknown
    simp [unknown] at known
  | astray at_root strays =>
    refine blamesField_of_strays valid ?_ strays
    rwa [name_of_entity? at_root]

end Registry

end Criteria
