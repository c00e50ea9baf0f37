import Criteria.Proofs.Schema.Lineage
import Criteria.Proofs.Schema.Validation
import Mathlib.Data.List.Nodup

/-!
# What validation finds

Validation accepts the registries of sound entities: all parents and targets are registered, and
going up from an entity never comes to one entity twice. Otherwise it blames the entity at fault
that comes first by name, for its parent rather than for a target, for the first target that is
unknown, and for a circle only when it refers to nothing unknown.
-/

namespace Criteria

/-- Going up from an entity comes to one entity twice, to itself or to one further up. -/
def Schema.Revisits (schema : Schema) (entity : Entity) : Prop :=
  ∃ earlier later again, earlier < later ∧ schema.above? entity earlier = some again ∧
    schema.above? entity later = some again

/-- Nothing lies higher than where nothing lies. -/
theorem Schema.above?_eq_none_of_le {schema : Schema} {entity : Entity} {steps more : Nat}
    (le : steps ≤ more) (none : schema.above? entity steps = none) :
    schema.above? entity more = .none := by
  induction le with
  | refl => exact none
  | step _ ih => rw [above?, ih, Option.bind_none]

namespace Registry

variable {registry : Registry} {entity : Entity} {error : SchemaError}

/-! ## Circles -/

/-- The parents of a registered entity lead in a circle exactly when going up comes to one entity
twice: where nothing is met again, the entities met are all there are, each at one height. -/
theorem isCircular_iff_revisits (known : registry.entity? entity.name = some entity) :
    registry.schema.isCircular entity = true ↔ registry.schema.Revisits entity := by
  obtain ⟨round, climbs⟩ := exists_climbs_lineage known
  have circular : registry.schema.isCircular entity = round := by
    cases climbs with
    | up _ onward => exact onward.isSome_parent?_getLast?
  rw [circular]
  cases round with
  | true =>
    obtain ⟨again, at_top, passed | met⟩ := climbs.exists_again
    · cases passed
    · obtain ⟨earlier, mem, same⟩ := List.mem_map.mp met
      have registered := registered_of_above? known at_top
      obtain rfl := eq_of_name_eq (lineage_registered known mem) registered same
      obtain ⟨place, at_place⟩ := List.mem_iff_getElem?.mp mem
      obtain ⟨lt, -⟩ := List.getElem?_eq_some_iff.mp at_place
      rw [getElem?_lineage known lt] at at_place
      exact iff_of_true rfl ⟨place, _, earlier, lt, at_place, at_top⟩
  | false =>
    refine iff_of_false Bool.false_ne_true fun ⟨earlier, later, again, lt, low, high⟩ => ?_
    have top := climbs.eq_none
    rcases Nat.lt_or_ge later (registry.schema.lineage entity).length with within | beyond
    · rw [← getElem?_lineage known (Nat.lt_trans lt within)] at low
      rw [← getElem?_lineage known within] at high
      have nodup := List.Nodup.of_map _ climbs.nodup.1
      have same := (List.getElem?_inj (Nat.lt_trans lt within) nodup).mp (low.trans high.symm)
      exact Nat.ne_of_lt lt same
    · cases high.symm.trans (Schema.above?_eq_none_of_le beyond top)

/-! ## One entity -/

/-- An entity that refers only to what is registered, and whose parents do not lead in a circle. -/
structure Sound (registry : Registry) (entity : Entity) : Prop where
  parent : ∀ parent, entity.parent = some parent → (registry.entity? parent).isSome
  targets : ∀ field ∈ entity.fields, ∀ target, field.type.Holds (.entity target) →
    (registry.entity? target).isSome
  straight : ¬ registry.schema.Revisits entity

/-- What is wrong with an entity: its parent is unknown; or its parent is known, if it has one, and
of its fields one is the first to target something unknown; or all these are known, and the parents
come round. -/
inductive Offends (registry : Registry) (entity : Entity) : SchemaError → Prop
  | parent {parent : String} (extended : entity.parent = some parent)
      (unknown : registry.entity? parent = none) :
      Offends registry entity (.unknownParent entity.name parent)
  | target {before after : List Field} {field : Field} {target : String}
      (parent : ∀ parent, entity.parent = some parent → (registry.entity? parent).isSome)
      (split : entity.fields = before ++ field :: after)
      (first : ∀ earlier ∈ before, ∀ target, earlier.type.Holds (.entity target) →
        (registry.entity? target).isSome)
      (targets : field.type.Holds (.entity target)) (unknown : registry.entity? target = none) :
      Offends registry entity (.unknownTarget entity.name field.name target)
  | circle (parent : ∀ parent, entity.parent = some parent → (registry.entity? parent).isSome)
      (targets : ∀ field ∈ entity.fields, ∀ target, field.type.Holds (.entity target) →
        (registry.entity? target).isSome)
      (revisits : registry.schema.Revisits entity) :
      Offends registry entity (.circularParents entity.name)

theorem fault?_eq_none_iff_sound (known : registry.entity? entity.name = some entity) :
    registry.fault? entity = none ↔ registry.Sound entity := by
  rw [fault?_eq_none_iff, ← Bool.not_eq_true, isCircular_iff_revisits known]
  simp only [Field.target?_eq_some_iff]
  exact ⟨fun ⟨parent, targets, straight⟩ => ⟨parent, targets, straight⟩,
    fun sound => ⟨sound.parent, sound.targets, sound.straight⟩⟩

theorem danglingField?_eq_some_iff {field : Field} {target : String} :
    registry.danglingField? entity = some (field, target) ↔
      ∃ before after, entity.fields = before ++ field :: after ∧
        (∀ earlier ∈ before, ∀ target, earlier.type.Holds (.entity target) →
          (registry.entity? target).isSome) ∧
        field.type.Holds (.entity target) ∧ registry.entity? target = none := by
  rw [danglingField?_eq, List.findSome?_eq_some_iff]
  simp only [Option.map_eq_none_iff, Option.map_eq_some_iff, unknown?_eq_none_iff,
    unknown?_eq_some_iff, Field.target?_eq_some_iff, Prod.mk.injEq]
  constructor
  · rintro ⟨before, _, after, split, ⟨_, ⟨targets, unknown⟩, rfl, rfl⟩, first⟩
    exact ⟨before, after, split, first, targets, unknown⟩
  · rintro ⟨before, after, split, first, targets, unknown⟩
    exact ⟨before, field, after, split, ⟨target, ⟨targets, unknown⟩, rfl, rfl⟩, first⟩

theorem fault?_eq_some_iff (known : registry.entity? entity.name = some entity) :
    registry.fault? entity = some error ↔ registry.Offends entity error := by
  have parents : registry.unknown? entity.parent = none ↔ _ := unknown?_eq_none_iff
  have targets : registry.danglingField? entity = none ↔ _ := danglingField?_eq_none_iff
  have circular := isCircular_iff_revisits known
  simp only [Field.target?_eq_some_iff] at targets
  rw [fault?_eq]
  constructor
  · intro h
    split at h
    case h_1 parent _ unknown =>
      obtain rfl := Option.some.inj h
      obtain ⟨extended, unknown⟩ := unknown?_eq_some_iff.mp unknown
      exact .parent extended unknown
    case h_2 field target parent dangling =>
      obtain rfl := Option.some.inj h
      obtain ⟨before, after, split, first, targets, unknown⟩ :=
        danglingField?_eq_some_iff.mp dangling
      exact .target (parents.mp parent) split first targets unknown
    case h_3 parent none =>
      split at h
      case isTrue comes =>
        obtain rfl := Option.some.inj h
        exact .circle (parents.mp parent) (targets.mp none) (circular.mp comes)
      case isFalse => cases h
  · intro offends
    cases offends with
    | parent extended unknown => rw [unknown?_eq_some_iff.mpr ⟨extended, unknown⟩]
    | target parent split first targets unknown =>
      rw [parents.mpr parent,
        danglingField?_eq_some_iff.mpr ⟨_, _, split, first, targets, unknown⟩]
    | circle parent known' revisits =>
      rw [parents.mpr parent, targets.mpr known']
      exact if_pos (circular.mpr revisits)

/-! ## All entities -/

theorem pairwise_entities (registry : Registry) :
    registry.entities.Pairwise fun entity other => entity.name < other.name := by
  refine List.pairwise_map.mpr (registry.byName.sorted.imp_of_mem fun mem mem' lt => ?_)
  rwa [← registry.named _ mem, ← registry.named _ mem']

/-- An error of validation is that of an entity before which, by name, nothing is wrong. -/
theorem validate_eq_error_iff : registry.validate = .error error ↔
    ∃ entity ∈ registry.entities, registry.fault? entity = some error ∧
      ∀ other ∈ registry.entities, other.name < entity.name → registry.fault? other = none := by
  have first : registry.validate = .error error ↔
      registry.entities.findSome? registry.fault? = some error := by
    rw [validate]
    cases registry.entities.findSome? registry.fault? <;> simp
  rw [first, List.findSome?_eq_some_iff]
  have sorted := registry.pairwise_entities
  constructor
  · rintro ⟨before, entity, after, split, fault, passed⟩
    rw [split] at sorted ⊢
    obtain ⟨-, sorted, -⟩ := List.pairwise_append.mp sorted
    refine ⟨entity, List.mem_append_right _ List.mem_cons_self, fault, fun other mem lt => ?_⟩
    rcases List.mem_append.mp mem with earlier | later
    · exact passed other earlier
    · rcases List.mem_cons.mp later with rfl | later
      · exact absurd lt (String.lt_irrefl _)
      · exact absurd lt (String.lt_asymm (List.rel_of_pairwise_cons sorted later))
  · rintro ⟨entity, mem, fault, passed⟩
    obtain ⟨before, after, split⟩ := List.append_of_mem mem
    rw [split] at sorted
    obtain ⟨-, -, ordered⟩ := List.pairwise_append.mp sorted
    refine ⟨before, entity, after, split, fault, fun other earlier => ?_⟩
    refine passed other ?_ (ordered other earlier entity List.mem_cons_self)
    rw [split]
    exact List.mem_append_left _ earlier

/-- Validation accepts a registry exactly when all its entities are sound. Otherwise it gives the
error of an entity at fault, before which all entities by name are sound. -/
theorem validates_iff_sound (registry : Registry) :
    (registry.validate = .ok () ↔ ∀ entity ∈ registry.entities, registry.Sound entity) ∧
    ∀ error, registry.validate = .error error ↔ ∃ entity ∈ registry.entities,
      registry.Offends entity error ∧
        ∀ other ∈ registry.entities, other.name < entity.name → registry.Sound other := by
  have sound : ∀ entity ∈ registry.entities,
      (registry.fault? entity = none ↔ registry.Sound entity) := fun entity mem =>
    fault?_eq_none_iff_sound (mem_entities_iff.mp mem)
  constructor
  · rw [validate_eq_ok_iff]
    exact forall₂_congr sound
  · intro error
    rw [validate_eq_error_iff]
    refine exists_congr fun entity => and_congr_right fun mem => and_congr ?_ ?_
    · exact fault?_eq_some_iff (mem_entities_iff.mp mem)
    · exact forall₂_congr fun other mem => imp_congr_right fun _ => sound other mem

end Registry

namespace Staff

/-- The parents of a clerk come round without the clerk, who is not the first at fault by name. An
account of an unknown parent is, whatever else is wrong with it. -/
theorem validates_brokerage :
    (∃ entity ∈ brokerage.entities, brokerage.Offends entity (.circularParents "Agent") ∧
      ∀ other ∈ brokerage.entities, other.name < entity.name → brokerage.Sound other) ∧
    ¬ (∀ entity ∈ brokerage.entities, brokerage.Sound entity) ∧
    ∃ entity, (brokerage.insert ⟨"Account", some "Ghost", [.relation "owner" "Nobody"]⟩).Offends
      entity (.unknownParent "Account" "Ghost") := by
  obtain ⟨accepts, refuses⟩ := Registry.validates_iff_sound brokerage
  obtain ⟨-, refuses'⟩ := Registry.validates_iff_sound
    (brokerage.insert ⟨"Account", some "Ghost", [.relation "owner" "Nobody"]⟩)
  refine ⟨(refuses _).mp rfl, fun sound => ?_, ?_⟩
  · cases accepts.mpr sound
  · obtain ⟨entity, -, offends, -⟩ := (refuses' _).mp rfl
    exact ⟨entity, offends⟩

end Staff

end Criteria
