import Criteria.Proofs.Join.Typing
import Mathlib.Data.List.Perm.Subperm

/-!
# The entities above an entity

`Schema.above?` counts the parents of an entity upwards, as far as they are known. Lookup and
validation both go up so, keep the names they have passed and stop at one that comes again;
`Schema.Climbs` and `Schema.Seeks` are these walks without any bound on their length. In a registry
the bound of `Schema.lineage` is never met, since the names passed are registered and none is passed
twice. And nothing new lies behind an entity that is met again, so the nearest declaration of a
field is found however the parents lead.
-/

namespace Criteria

namespace Schema

variable {schema : Schema} {entity : Entity} {name : String} {passed : List String}
  {start : Option Entity} {met : List Entity} {round : Bool}

/-! ## Going up -/

/-- The parent of an entity, if it has one that is known. -/
def parent? (schema : Schema) (entity : Entity) : Option Entity :=
  entity.parent.bind schema.entity?

/-- The entity that lies so many parents above another, if there are so many. -/
def above? (schema : Schema) (entity : Entity) : Nat → Option Entity
  | 0 => some entity
  | steps + 1 => (schema.above? entity steps).bind schema.parent?

/-- What lies above the parent of an entity lies one further above the entity. -/
theorem above?_succ (schema : Schema) (entity : Entity) (steps : Nat) :
    schema.above? entity (steps + 1) =
      (schema.parent? entity).bind fun parent => schema.above? parent steps := by
  induction steps with
  | zero =>
    change (some entity).bind schema.parent? = (schema.parent? entity).bind some
    rw [Option.bind_some, Option.bind_fun_some]
  | succ steps ih =>
    rw [above?, ih, Option.bind_assoc]
    rfl

/-- Going up from an entity, given the names passed before: the entities met, and whether the way
has come round to a name that was passed. Otherwise it ends where no parent is known. -/
inductive Climbs (schema : Schema) : List String → Option Entity → List Entity → Bool → Prop
  | top (passed : List String) : Climbs schema passed none [] false
  | round {passed : List String} {entity : Entity} (again : entity.name ∈ passed) :
      Climbs schema passed (some entity) [] true
  | up {passed : List String} {entity : Entity} {met : List Entity} {round : Bool}
      (fresh : entity.name ∉ passed)
      (onward : Climbs schema (entity.name :: passed) (schema.parent? entity) met round) :
      Climbs schema passed (some entity) (entity :: met) round

namespace Climbs

/-- The entities met are those above, in order. -/
theorem getElem?_eq (climbs : schema.Climbs passed start met round) {steps : Nat}
    (lt : steps < met.length) :
    met[steps]? = start.bind fun entity => schema.above? entity steps := by
  induction climbs generalizing steps with
  | top => cases lt
  | round => cases lt
  | up _ _ ih =>
    cases steps with
    | zero => rfl
    | succ steps =>
      rw [List.getElem?_cons_succ, ih (Nat.lt_of_succ_lt_succ lt), Option.bind_some, above?_succ]

/-- When the way ends without coming round, nothing lies above the entities met. -/
theorem eq_none (climbs : schema.Climbs passed start met false) :
    (start.bind fun entity => schema.above? entity met.length) = none := by
  generalize top : false = round at climbs
  induction climbs with
  | top => rfl
  | round => cases top
  | up _ _ ih => rw [Option.bind_some, List.length_cons, above?_succ, ih top]

/-- When the way comes round, above the entities met lies one whose name was passed. -/
theorem exists_again (climbs : schema.Climbs passed start met true) :
    ∃ again, (start.bind fun entity => schema.above? entity met.length) = some again ∧
      (again.name ∈ passed ∨ again.name ∈ met.map (·.name)) := by
  generalize comes : true = round at climbs
  induction climbs with
  | top => cases comes
  | round again => exact ⟨_, rfl, .inl again⟩
  | up _ _ ih =>
    obtain ⟨again, above, passed⟩ := ih comes
    refine ⟨again, ?_, ?_⟩
    · rw [Option.bind_some, List.length_cons, above?_succ, above]
    · rw [List.map_cons, List.mem_cons]
      rcases passed with passed | later
      · exact (List.mem_cons.mp passed).symm.imp_right .inl
      · exact .inr (.inr later)

/-- No name is met twice, and none that was passed. -/
theorem nodup (climbs : schema.Climbs passed start met round) :
    (met.map (·.name)).Nodup ∧ ∀ name ∈ met.map (·.name), name ∉ passed := by
  induction climbs with
  | top => exact ⟨.nil, nofun⟩
  | round => exact ⟨.nil, nofun⟩
  | up fresh _ ih =>
    obtain ⟨nodup, new⟩ := ih
    refine ⟨List.nodup_cons.mpr ⟨fun mem => new _ mem List.mem_cons_self, nodup⟩, ?_⟩
    refine List.forall_mem_cons.mpr ⟨fresh, fun name mem old => ?_⟩
    exact new name mem (List.mem_cons_of_mem _ old)

/-- The last entity met has a known parent exactly when the way comes round. -/
theorem isSome_parent?_getLast? (climbs : schema.Climbs passed (schema.parent? entity) met round) :
    (((entity :: met).getLast?).any fun last => (schema.parent? last).isSome) = round := by
  generalize above : schema.parent? entity = start at climbs
  induction climbs generalizing entity with
  | top => simp [above]
  | round => simp [above]
  | up _ _ ih =>
    rw [List.getLast?_cons_cons]
    exact ih rfl

end Climbs

/-! ## Looking for a field -/

/-- Looking for a field from an entity upwards, given the names passed before: how many entities
are looked at, and what is found. Each is looked at once its name is known to be new; the search
ends at the first that declares the field. -/
inductive Seeks (schema : Schema) (name : String) :
    List String → Option Entity → Nat → Option Found → Prop
  | top (passed : List String) : Seeks schema name passed none 0 none
  | round {passed : List String} {entity : Entity} (again : entity.name ∈ passed) :
      Seeks schema name passed (some entity) 1 none
  | here {passed : List String} {entity : Entity} {field : Field} (fresh : entity.name ∉ passed)
      (declared : entity.declared? name = some field) :
      Seeks schema name passed (some entity) 1 (some ⟨entity, field⟩)
  | up {passed : List String} {entity : Entity} {turns : Nat} {result : Option Found}
      (fresh : entity.name ∉ passed) (undeclared : entity.declared? name = none)
      (onward : Seeks schema name (entity.name :: passed) (schema.parent? entity) turns result) :
      Seeks schema name passed (some entity) (turns + 1) result

/-- Looking for a field meets no more entities than going up all the way. -/
theorem Climbs.exists_seeks (climbs : schema.Climbs passed start met round) (name : String) :
    ∃ turns ≤ met.length + 1, schema.Seeks name passed start turns
      (met.findSome? fun declaring =>
        (declaring.declared? name).map fun field => ⟨declaring, field⟩) := by
  induction climbs with
  | top passed => exact ⟨0, Nat.zero_le _, .top passed⟩
  | round again => exact ⟨1, Nat.le_refl _, .round again⟩
  | @up _ entity met _ fresh _ ih =>
    rw [List.findSome?_cons]
    cases declared : entity.declared? name with
    | some field => exact ⟨1, Nat.le_add_left _ _, .here fresh declared⟩
    | none =>
      obtain ⟨turns, le, onward⟩ := ih
      exact ⟨turns + 1, Nat.succ_le_succ le, .up fresh declared onward⟩

end Schema

/-! ## In a registry -/

theorem Dictionary.lookup_of_mem {α : Type} {entries : List (String × α)} {entry : String × α}
    (sorted : entries.Pairwise fun a b => a.1 < b.1) (mem : entry ∈ entries) :
    entries.lookup entry.1 = some entry.2 := by
  induction entries with
  | nil => cases mem
  | cons head rest ih =>
    obtain ⟨first, sorted⟩ := List.pairwise_cons.mp sorted
    rw [lookup_entry]
    rcases List.mem_cons.mp mem with rfl | mem
    · exact if_pos rfl
    · rw [if_neg fun same => String.lt_irrefl _ (same ▸ first entry mem), ih sorted mem]

namespace Registry

variable {registry : Registry} {entity above : Entity} {name : String} {steps : Nat}

/-- The entities of a registry are those that are found under their names. -/
theorem mem_entities_iff :
    entity ∈ registry.entities ↔ registry.entity? entity.name = some entity := by
  constructor
  · intro mem
    obtain ⟨entry, listed, rfl⟩ := List.mem_map.mp mem
    rw [← registry.named entry listed]
    exact Dictionary.lookup_of_mem registry.byName.sorted listed
  · exact mem_entities_of_entity?

/-- Parents that are known are registered under their own names. -/
theorem registered_of_bind {parent : Option String}
    (known : parent.bind registry.entity? = some above) :
    registry.entity? above.name = some above := by
  obtain ⟨name, -, known⟩ := Option.bind_eq_some_iff.mp known
  rwa [name_of_entity? known]

/-- All that lies above a registered entity is registered. -/
theorem registered_of_above? (known : registry.entity? entity.name = some entity)
    (h : registry.schema.above? entity steps = some above) :
    registry.entity? above.name = some above := by
  cases steps with
  | zero =>
    obtain rfl := Option.some.inj h
    exact known
  | succ steps =>
    obtain ⟨below, -, parent⟩ := Option.bind_eq_some_iff.mp h
    exact registered_of_bind parent

/-- Names that are registered, none of them twice, are no more than there are entities. -/
theorem length_le_size {names : List String} (nodup : names.Nodup)
    (registered : ∀ name ∈ names, (registry.entity? name).isSome) :
    names.length ≤ registry.size := by
  have within : names ⊆ registry.byName.keys := by
    intro name mem
    obtain ⟨entity, known⟩ := Option.isSome_iff_exists.mp (registered name mem)
    exact List.mem_map_of_mem (Dictionary.mem_entries_of_get? known)
  have le := (List.subperm_of_subset nodup within).length_le
  rwa [Dictionary.keys, List.length_map] at le

/-- With more steps left than names to pass, the ancestors are those of the walk without a bound. -/
theorem exists_climbs_ancestors {passed : List String} (nodup : passed.Nodup)
    (registered : ∀ name ∈ passed, (registry.entity? name).isSome)
    (room : registry.size < passed.length + steps) (parent : Option String) :
    ∃ round, registry.schema.Climbs passed (parent.bind registry.entity?)
      (registry.schema.ancestors steps passed parent) round := by
  induction steps generalizing passed parent with
  | zero => exact absurd (length_le_size nodup registered) (Nat.not_le_of_lt room)
  | succ steps ih =>
    rw [Schema.ancestors, entity?_schema]
    cases above : parent.bind registry.entity? with
    | none => exact ⟨false, .top passed⟩
    | some entity =>
      dsimp only
      split
      case isTrue again => exact ⟨true, .round again⟩
      case isFalse fresh =>
        have known : (registry.entity? entity.name).isSome :=
          Option.isSome_of_mem (registered_of_bind above)
        obtain ⟨round, onward⟩ := ih (List.nodup_cons.mpr ⟨fresh, nodup⟩)
          (List.forall_mem_cons.mpr ⟨known, registered⟩)
          (by rw [List.length_cons]; omega) entity.parent
        exact ⟨round, .up fresh onward⟩

/-- Going up from a registered entity meets its lineage. -/
theorem exists_climbs_lineage (known : registry.entity? entity.name = some entity) :
    ∃ round, registry.schema.Climbs [] (some entity) (registry.schema.lineage entity) round := by
  have room : registry.size < [entity.name].length + registry.size :=
    Nat.lt_add_of_pos_left Nat.one_pos
  obtain ⟨round, onward⟩ := exists_climbs_ancestors (List.pairwise_singleton _ entity.name)
    (List.forall_mem_singleton.mpr (Option.isSome_of_mem known)) room entity.parent
  exact ⟨round, .up List.not_mem_nil onward⟩

theorem getElem?_lineage (known : registry.entity? entity.name = some entity)
    (lt : steps < (registry.schema.lineage entity).length) :
    (registry.schema.lineage entity)[steps]? = registry.schema.above? entity steps := by
  obtain ⟨round, climbs⟩ := exists_climbs_lineage known
  exact climbs.getElem?_eq lt

/-- A lineage has no more entities than the registry. -/
theorem length_lineage_le (known : registry.entity? entity.name = some entity) :
    (registry.schema.lineage entity).length ≤ registry.size := by
  obtain ⟨round, climbs⟩ := exists_climbs_lineage known
  rw [← List.length_map (·.name)]
  refine length_le_size climbs.nodup.1 fun name mem => ?_
  obtain ⟨met, listed, rfl⟩ := List.mem_map.mp mem
  exact Option.isSome_of_mem (lineage_registered known listed)

/-- Two registered entities of one name are the same. -/
theorem eq_of_name_eq {other : Entity} (known : registry.entity? entity.name = some entity)
    (known' : registry.entity? other.name = some other) (same : entity.name = other.name) :
    entity = other := by
  rw [same] at known
  exact Option.some.inj (known.symm.trans known')

/-- Whatever lies above a registered entity is on its lineage: above the last of the lineage lies
nothing, or an entity that has been met. -/
theorem mem_lineage_of_above? (known : registry.entity? entity.name = some entity)
    (h : registry.schema.above? entity steps = some above) :
    above ∈ registry.schema.lineage entity := by
  induction steps generalizing above with
  | zero =>
    obtain rfl := Option.some.inj h
    exact List.mem_cons_self
  | succ steps ih =>
    obtain ⟨below, reached, parent⟩ := Option.bind_eq_some_iff.mp h
    -- the entity below is met somewhere on the lineage, and what comes after it there is its parent
    obtain ⟨place, at_place⟩ := List.mem_iff_getElem?.mp (ih reached)
    obtain ⟨lt, -⟩ := List.getElem?_eq_some_iff.mp at_place
    rw [getElem?_lineage known lt] at at_place
    have next : registry.schema.above? entity (place + 1) = some above := by
      rw [Schema.above?, at_place]
      exact parent
    obtain lt' | top : place + 1 < _ ∨ place + 1 = _ := Nat.lt_or_eq_of_le lt
    · rw [← getElem?_lineage known lt'] at next
      exact List.mem_of_getElem? next
    · obtain ⟨round, climbs⟩ := exists_climbs_lineage known
      rw [top] at next
      cases round with
      | false => cases climbs.eq_none.symm.trans next
      | true =>
        obtain ⟨again, at_top, passed | met⟩ := climbs.exists_again
        · cases passed
        · obtain rfl := Option.some.inj (next.symm.trans at_top)
          obtain ⟨earlier, mem, same⟩ := List.mem_map.mp met
          rw [← eq_of_name_eq (lineage_registered known mem) (registered_of_bind parent) same]
          exact mem

end Registry

/-! ## The nearest declaration -/

/-- Whether an entity itself declares a field of a name. -/
def Entity.Declares (entity : Entity) (name : String) : Prop :=
  ∃ field ∈ entity.fields, field.name = name

theorem Entity.declares_iff {entity : Entity} {name : String} :
    entity.Declares name ↔ (entity.declared? name).isSome := by
  rw [declared?, List.find?_isSome]
  simp [Declares]

/-- A declaration of a name that lies above an entity, or at it, with no entity in between that
declares the name too. -/
def Schema.Nearest (schema : Schema) (entity : Entity) (name : String) (found : Schema.Found) :
    Prop :=
  ∃ steps, schema.above? entity steps = some found.declaring ∧
    found.declaring.declared? name = some found.field ∧
    ∀ fewer < steps, ∀ below, schema.above? entity fewer = some below → ¬ below.Declares name

theorem Schema.Nearest.unique {schema : Schema} {entity : Entity} {name : String}
    {found found' : Schema.Found} (h : schema.Nearest entity name found)
    (h' : schema.Nearest entity name found') : found = found' := by
  obtain ⟨steps, above, declared, nearest⟩ := h
  obtain ⟨steps', above', declared', nearest'⟩ := h'
  have declares := Entity.declares_iff.mpr (Option.isSome_of_mem declared)
  have declares' := Entity.declares_iff.mpr (Option.isSome_of_mem declared')
  rcases Nat.lt_trichotomy steps steps' with lt | rfl | lt
  · exact absurd declares (nearest' steps lt _ above)
  · have same := Option.some.inj (above.symm.trans above')
    rw [same] at declared
    rcases found with ⟨declaring, field⟩
    rcases found' with ⟨declaring', field'⟩
    obtain rfl : declaring = declaring' := same
    obtain rfl : field = field' := Option.some.inj (declared.symm.trans declared')
    rfl
  · exact absurd declares' (nearest steps' lt _ above')

namespace Registry

variable {registry : Registry} {entity : Entity} {name : String} {found : Schema.Found}

theorem nearest_of_find? (known : registry.entity? entity.name = some entity)
    (finds : registry.schema.find? entity name = some found) :
    registry.schema.Nearest entity name found := by
  obtain ⟨before, declaring, after, split, declares, undeclared⟩ :=
    List.findSome?_eq_some_iff.mp finds
  obtain ⟨field, declared, rfl⟩ := Option.map_eq_some_iff.mp declares
  have length : (registry.schema.lineage entity).length = before.length + (after.length + 1) := by
    rw [split, List.length_append, List.length_cons]
  refine ⟨before.length, ?_, declared, ?_⟩
  · rw [← getElem?_lineage known (by omega), split, List.getElem?_append_right (Nat.le_refl _),
      Nat.sub_self]
    rfl
  · intro fewer lt below at_fewer
    rw [← getElem?_lineage known (by omega), split, List.getElem?_append_left lt] at at_fewer
    have none := Option.map_eq_none_iff.mp (undeclared below (List.mem_of_getElem? at_fewer))
    rw [Entity.declares_iff, none]
    nofun

theorem isSome_find?_of_declares {steps : Nat} {declaring : Entity}
    (known : registry.entity? entity.name = some entity)
    (above : registry.schema.above? entity steps = some declaring)
    (declares : declaring.Declares name) : (registry.schema.find? entity name).isSome := by
  obtain ⟨field, declared⟩ := Option.isSome_iff_exists.mp (Entity.declares_iff.mp declares)
  refine List.findSome?_isSome_iff.mpr ⟨declaring, mem_lineage_of_above? known above, ?_⟩
  rw [declared]
  rfl

theorem declares_of_nearest (nearest : registry.schema.Nearest entity name found) :
    ∃ steps declaring, registry.schema.above? entity steps = some declaring ∧
      declaring.Declares name := by
  obtain ⟨steps, above, declared, -⟩ := nearest
  exact ⟨steps, found.declaring, above, Entity.declares_iff.mpr (Option.isSome_of_mem declared)⟩

theorem find?_eq_some_iff_nearest (known : registry.entity? entity.name = some entity) :
    registry.schema.find? entity name = some found ↔
      registry.schema.Nearest entity name found := by
  constructor
  · exact nearest_of_find? known
  · intro nearest
    obtain ⟨steps, declaring, above, declares⟩ := declares_of_nearest nearest
    obtain ⟨found', finds⟩ :=
      Option.isSome_iff_exists.mp (isSome_find?_of_declares known above declares)
    rw [finds, nearest.unique (nearest_of_find? known finds)]

/-- Looking for a field from a registered entity comes to an end after no more entities than there
are, and one more at which it sees that the parents lead in a circle. It finds a field exactly when
some entity above declares the name, and then the nearest such entity with its declaration. -/
theorem seeks_nearest (listed : entity ∈ registry.entities) (name : String) :
    (∃ turns ≤ registry.size + 1, registry.schema.Seeks name [] (some entity) turns
      (registry.schema.find? entity name)) ∧
    ((registry.schema.find? entity name).isSome ↔ ∃ steps declaring,
      registry.schema.above? entity steps = some declaring ∧ declaring.Declares name) ∧
    ∀ found, registry.schema.find? entity name = some found ↔
      registry.schema.Nearest entity name found := by
  have known := mem_entities_iff.mp listed
  refine ⟨?_, ⟨fun finds => ?_, fun ⟨steps, declaring, above, declares⟩ => ?_⟩, fun found => ?_⟩
  · obtain ⟨round, climbs⟩ := exists_climbs_lineage known
    obtain ⟨turns, le, seeks⟩ := climbs.exists_seeks name
    refine ⟨turns, Nat.le_trans le (Nat.succ_le_succ ?_), seeks⟩
    exact length_lineage_le known
  · obtain ⟨found, finds⟩ := Option.isSome_iff_exists.mp finds
    exact declares_of_nearest (nearest_of_find? known finds)
  · exact isSome_find?_of_declares known above declares
  · exact find?_eq_some_iff_nearest known

end Registry

namespace Staff

/-- A clerk, who is an agent. -/
def clerk : Entity := ⟨"Clerk", some "Agent", [.column "desk" .int]⟩

/-- Agents and brokers extend each other. -/
def brokerage : Registry :=
  let agent : Entity := ⟨"Agent", some "Broker", [.column "name" .text]⟩
  let broker : Entity := ⟨"Broker", some "Agent", [.column "licence" .text, .column "desk" .text]⟩
  ((Registry.empty.insert clerk).insert agent).insert broker

/-- A clerk's licence is that of a broker, the clerk's desk is not, and a salary is looked for in
vain once around the circle. -/
theorem seeks_licence : clerk ∈ brokerage.entities ∧
    (brokerage.schema.find? clerk "licence").map (·.declaring.name) = some "Broker" ∧
    brokerage.schema.Nearest clerk "desk" ⟨clerk, .column "desk" .int⟩ ∧
    ∃ turns ≤ 4, brokerage.schema.Seeks "salary" [] (some clerk) turns none := by
  have listed : clerk ∈ brokerage.entities := Registry.mem_entities_iff.mpr rfl
  obtain ⟨-, -, desk⟩ := Registry.seeks_nearest listed "desk"
  obtain ⟨salary, -, -⟩ := Registry.seeks_nearest listed "salary"
  exact ⟨listed, rfl, (desk _).mp rfl, salary⟩

end Staff

end Criteria
