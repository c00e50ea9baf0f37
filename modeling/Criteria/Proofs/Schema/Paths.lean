import Criteria.Proofs.Schema.Astray
import Criteria.Schema.Registry

/-!
# Which paths resolve

The names of a path but the last have to lead from entity to entity, `Schema.Chain`, and the last
has to name a column of the entity reached. The route then tells what the chain has passed.
Otherwise the first name that cannot be taken decides the error: `Schema.Halts` says which it is for
each sort of field, by what the field holds in the end.
-/

namespace Criteria

namespace Schema

variable {schema : Schema} {entity next last : Entity} {name : String} {error : PathError}
  {hop : Hop} {hops : List Hop} {names : List String}

/-! ## Names that lead on -/

/-- A name leads from one entity to another: a field is found under it that holds entities of a
name, and the other is known under that name. -/
inductive Step (schema : Schema) (entity : Entity) (name : String) : Hop → Entity → Prop
  | intro {found : Found} {target : String} {next : Entity}
      (finds : schema.find? entity name = some found)
      (targets : found.field.type.Holds (.entity target))
      (known : schema.entity? target = some next) :
      Step schema entity name
        ⟨found.declaring.name, name, next.name, found.field.type.isCollection⟩ next

/-- Names lead from one entity to another, one after the other. -/
inductive Chain (schema : Schema) : Entity → List String → List Hop → Entity → Prop
  | here (entity : Entity) : Chain schema entity [] [] entity
  | on {entity next last : Entity} {name : String} {names : List String} {hop : Hop}
      {hops : List Hop} (step : schema.Step entity name hop next)
      (chain : Chain schema next names hops last) :
      Chain schema entity (name :: names) (hop :: hops) last

theorem step_iff_crosses :
    schema.Step entity name hop next ↔ schema.Crosses entity hop next ∧ hop.association = name := by
  constructor
  · intro step
    cases step with
    | intro finds targets known =>
      obtain rfl := name_of_find? finds
      exact ⟨.intro finds (Field.target?_eq_some_iff.mpr targets) known, rfl⟩
  · rintro ⟨crosses, rfl⟩
    cases crosses with
    | intro finds targets known => exact .intro finds (Field.target?_eq_some_iff.mp targets) known

theorem chain_iff_leads : schema.Chain entity names hops last ↔
    schema.Leads entity hops last ∧ hops.map (·.association) = names := by
  constructor
  · intro chain
    induction chain with
    | here entity => exact ⟨.here entity, rfl⟩
    | on step _ ih =>
      obtain ⟨crosses, rfl⟩ := step_iff_crosses.mp step
      obtain ⟨leads, rfl⟩ := ih
      exact ⟨.across crosses leads, rfl⟩
  · rintro ⟨leads, rfl⟩
    induction leads with
    | here entity => exact .here entity
    | across crosses _ ih => exact .on (step_iff_crosses.mpr ⟨crosses, rfl⟩) ih

/-! ## Names that do not -/

/-- Why a name cannot be taken at an entity, given the names after it. Where names follow, the field
has to hold entities that are known: one that is stored and holds neither entities nor variants of
an enumeration is a plain column, and any other that holds no entities cannot be traversed. As the
last name it must not hold entities. -/
inductive Halts (schema : Schema) (entity : Entity) (name : String) :
    List String → PathError → Prop
  | absent {after : List String} (missing : schema.find? entity name = none) :
      Halts schema entity name after (.unknownField entity.name name)
  | column {next : String} {after : List String} {found : Found} {held : FieldType}
      (finds : schema.find? entity name = some found) (holds : found.field.type.Holds held)
      (noEntity : ∀ target, held ≠ .entity target) (stored : found.field.stored = true)
      (noEnum : ∀ path, held ≠ .enum path) :
      Halts schema entity name (next :: after) (.expectedAssociation entity.name name)
  | untraversable {next : String} {after : List String} {found : Found} {held : FieldType}
      (finds : schema.find? entity name = some found) (holds : found.field.type.Holds held)
      (noEntity : ∀ target, held ≠ .entity target)
      (notPlain : found.field.stored = false ∨ ∃ path, held = .enum path) :
      Halts schema entity name (next :: after) (.notTraversable entity.name name found.field.type)
  | dangling {next : String} {after : List String} {found : Found} {target : String}
      (finds : schema.find? entity name = some found)
      (targets : found.field.type.Holds (.entity target))
      (unknown : schema.entity? target = none) :
      Halts schema entity name (next :: after) (.unknownEntity target)
  | association {found : Found} {target : String}
      (finds : schema.find? entity name = some found)
      (targets : found.field.type.Holds (.entity target)) :
      Halts schema entity name [] (.expectedColumn entity.name name)

theorem isAssociation_iff {field : Field} :
    field.isAssociation = true ↔ ∃ target, field.type.Holds (.entity target) := by
  rw [Field.isAssociation, Option.isSome_iff_exists]
  simp only [Field.target?_eq_some_iff]

theorem halts_nil_iff : schema.Halts entity name [] error ↔ schema.Lacks entity name error := by
  constructor
  · intro halts
    cases halts with
    | absent missing => exact .absent missing
    | association finds targets => exact .association finds (isAssociation_iff.mpr ⟨_, targets⟩)
  · intro lacks
    cases lacks with
    | absent missing => exact .absent missing
    | association finds associates =>
      obtain ⟨target, targets⟩ := isAssociation_iff.mp associates
      exact .association finds targets

/-- A field holds no entities exactly when what it holds in the end is of another sort. -/
theorem target?_eq_none_iff {field : Field} {held : FieldType} (holds : field.type.Holds held) :
    field.target? = none ↔ ∀ target, held ≠ .entity target := by
  rw [Option.eq_none_iff_forall_ne_some]
  refine forall_congr' fun target => not_congr ?_
  rw [Field.target?_eq_some_iff, FieldType.holds_iff, FieldType.holds_iff.mp holds]

theorem isPlainColumn_iff {field : Field} {held : FieldType} (holds : field.type.Holds held) :
    field.isPlainColumn = true ↔ field.stored = true ∧ (∀ target, held ≠ .entity target) ∧
      ∀ path, held ≠ .enum path := by
  have noEnum : held.isEnum = false ↔ ∀ path, held ≠ .enum path := by
    cases held <;> simp [FieldType.isEnum]
  rw [← target?_eq_none_iff holds, ← noEnum, Field.isPlainColumn, Field.isAssociation,
    FieldType.holds_iff.mp holds]
  simp [and_assoc]

theorem halts_cons_iff {following : String} {after : List String} :
    schema.Halts entity name (following :: after) error ↔ schema.Blocks entity name error := by
  constructor
  · intro halts
    cases halts with
    | absent missing => exact .absent missing
    | column finds holds noEntity stored noEnum =>
      exact .column finds ((isPlainColumn_iff holds).mpr ⟨stored, noEntity, noEnum⟩)
    | untraversable finds holds noEntity notPlain =>
      refine .untraversable finds ?_ ((target?_eq_none_iff holds).mpr noEntity)
      rw [← Bool.not_eq_true, isPlainColumn_iff holds]
      rintro ⟨stored, -, noEnum⟩
      rcases notPlain with unstored | ⟨path, enum⟩
      · cases stored.symm.trans unstored
      · exact noEnum path enum
    | dangling finds targets unknown =>
      exact .dangling finds (Field.target?_eq_some_iff.mpr targets) unknown
  · intro blocks
    cases blocks with
    | absent missing => exact .absent missing
    | @column found finds plain =>
      have holds := found.field.type.holds_element
      obtain ⟨stored, noEntity, noEnum⟩ := (isPlainColumn_iff holds).mp plain
      exact .column finds holds noEntity stored noEnum
    | @untraversable found finds notPlain targetless =>
      have holds := found.field.type.holds_element
      have noEntity := (target?_eq_none_iff holds).mp targetless
      rw [← Bool.not_eq_true, isPlainColumn_iff holds] at notPlain
      refine .untraversable finds holds noEntity ?_
      by_cases stored : found.field.stored = true
      · refine .inr ?_
        by_contra noEnum
        exact notPlain ⟨stored, noEntity, fun path enum => noEnum ⟨path, enum⟩⟩
      · exact .inl (eq_false_of_ne_true stored)
    | dangling finds targets unknown =>
      exact .dangling finds (Field.target?_eq_some_iff.mp targets) unknown

/-! ## Whole paths -/

/-- A path goes astray at the first of its names that cannot be taken. -/
theorem strays_iff {rest : List String} : schema.Strays entity name rest error ↔
    ∃ before culprit after hops reached, name :: rest = before ++ culprit :: after ∧
      schema.Chain entity before hops reached ∧ schema.Halts reached culprit after error := by
  constructor
  · intro strays
    induction strays with
    | @hop entity name next rest error blocks =>
      exact ⟨[], name, next :: rest, [], entity, rfl, .here entity, halts_cons_iff.mpr blocks⟩
    | @terminal entity name error lacks =>
      exact ⟨[], name, [], [], entity, rfl, .here entity, halts_nil_iff.mpr lacks⟩
    | @across entity _ hop next rest _ crosses _ ih =>
      obtain ⟨before, culprit, after, hops, reached, split, chain, halts⟩ := ih
      have step := step_iff_crosses.mpr ⟨crosses, rfl⟩
      exact ⟨hop.association :: before, culprit, after, hop :: hops, reached,
        congrArg (hop.association :: ·) split, .on step chain, halts⟩
  · rintro ⟨before, culprit, after, hops, reached, split, chain, halts⟩
    induction chain generalizing name rest with
    | here =>
      obtain ⟨rfl, rfl⟩ := List.cons.inj split
      cases rest with
      | nil => exact .terminal (halts_nil_iff.mp halts)
      | cons => exact .hop (halts_cons_iff.mp halts)
    | @on _ _ _ _ names _ _ step _ ih =>
      obtain ⟨rfl, rest_eq⟩ := List.cons.inj split
      obtain ⟨crosses, rfl⟩ := step_iff_crosses.mp step
      cases rest with
      | nil => simp at rest_eq
      | cons following rest => exact .across crosses (ih rest_eq halts)

theorem resolve_concat_eq_ok_iff {root last : String} {route : Route} :
    schema.resolve root (names ++ [last]) = .ok route ↔
      ∃ start hops reached found, schema.entity? root = some start ∧
        schema.Chain start names hops reached ∧ schema.find? reached last = some found ∧
        (∀ target, ¬ found.field.type.Holds (.entity target)) ∧
        route = ⟨hops, last, found.field.type⟩ := by
  have column : ∀ field : Field, field.isAssociation = false ↔
      ∀ target, ¬ field.type.Holds (.entity target) := fun field => by
    rw [← Bool.not_eq_true, isAssociation_iff, not_exists]
  rw [resolve_eq_ok_iff]
  constructor
  · rintro ⟨spelled, start, known, reached, found, leads, finds, single, type_eq⟩
    obtain ⟨passed, ended⟩ := List.append_inj' spelled rfl
    obtain rfl : route.column = last := List.singleton_inj.mp ended
    refine ⟨start, route.hops, reached, found, known, chain_iff_leads.mpr ⟨leads, passed⟩, finds,
      (column _).mp single, ?_⟩
    rw [type_eq]
  · rintro ⟨start, hops, reached, found, known, chain, finds, single, rfl⟩
    obtain ⟨leads, rfl⟩ := chain_iff_leads.mp chain
    exact ⟨rfl, start, known, reached, found, leads, finds, (column _).mpr single, rfl⟩

theorem resolve_concat_eq_error_iff {root last : String} :
    schema.resolve root (names ++ [last]) = .error error ↔
      (schema.entity? root = none ∧ error = .unknownEntity root) ∨
        ∃ start before culprit after hops reached, schema.entity? root = some start ∧
          names ++ [last] = before ++ culprit :: after ∧
          schema.Chain start before hops reached ∧ schema.Halts reached culprit after error := by
  obtain ⟨name, rest, spelled⟩ := List.exists_cons_of_ne_nil (List.concat_ne_nil last names)
  rw [resolve_eq_error_iff, spelled]
  constructor
  · intro unresolved
    cases unresolved with
    | rootless unknown => exact .inl ⟨unknown, rfl⟩
    | @astray start _ _ _ known strays =>
      obtain ⟨before, culprit, after, hops, reached, fault⟩ := strays_iff.mp strays
      exact .inr ⟨start, before, culprit, after, hops, reached, known, fault⟩
  · rintro (⟨unknown, rfl⟩ | ⟨start, before, culprit, after, hops, reached, known, fault⟩)
    · exact .rootless unknown
    · exact .astray known (strays_iff.mpr ⟨before, culprit, after, hops, reached, fault⟩)

end Schema

/-- In a registry a path resolves exactly when its root is registered, its names but the last lead
from entity to entity, and the last names a column of the one reached; the route is what has been
passed, with the name and the type of the column. Otherwise the error is that of an unknown root, or
of the first name that cannot be taken at the entity reached before it. -/
theorem Registry.resolve_chain (registry : Registry) (root : String) (names : List String)
    (last : String) :
    (∀ route, registry.schema.resolve root (names ++ [last]) = .ok route ↔
      ∃ start hops reached found, registry.entity? root = some start ∧
        registry.schema.Chain start names hops reached ∧
        registry.schema.find? reached last = some found ∧
        (∀ target, ¬ found.field.type.Holds (.entity target)) ∧
        route = ⟨hops, last, found.field.type⟩) ∧
    (∀ error, registry.schema.resolve root (names ++ [last]) = .error error ↔
      (registry.entity? root = none ∧ error = .unknownEntity root) ∨
        ∃ start before culprit after hops reached, registry.entity? root = some start ∧
          names ++ [last] = before ++ culprit :: after ∧
          registry.schema.Chain start before hops reached ∧
          registry.schema.Halts reached culprit after error) ∧
    registry.schema.resolve root [] = .error (.emptyPath root) :=
  ⟨fun _ => Schema.resolve_concat_eq_ok_iff, fun _ => Schema.resolve_concat_eq_error_iff, rfl⟩

end Criteria
