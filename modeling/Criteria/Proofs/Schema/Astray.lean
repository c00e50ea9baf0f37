import Criteria.Proofs.Schema.Resolution

/-!
# Paths that go astray

A path that does not resolve is refused for the first of its names that cannot be taken. `Blocks`
says why a name leads over no association, and `Lacks` why it names no column; `Strays` has
associations that can be followed before the name at fault.
-/

namespace Criteria

namespace Schema

variable {schema : Schema} {entity : Entity} {name : String} {error : PathError}

/-! ## One name -/

/-- A name leads over no association: there is no such field, or it is a plain column, or its
elements are no entities, or the entity that it targets is unknown. -/
inductive Blocks (schema : Schema) (entity : Entity) (name : String) : PathError → Prop
  | absent (missing : schema.find? entity name = none) :
      Blocks schema entity name (.unknownField entity.name name)
  | column {found : Found} (finds : schema.find? entity name = some found)
      (plain : found.field.isPlainColumn = true) :
      Blocks schema entity name (.expectedAssociation entity.name name)
  | untraversable {found : Found} (finds : schema.find? entity name = some found)
      (notPlain : found.field.isPlainColumn = false) (targetless : found.field.target? = none) :
      Blocks schema entity name (.notTraversable entity.name name found.field.type)
  | dangling {found : Found} {target : String} (finds : schema.find? entity name = some found)
      (targets : found.field.target? = some target) (unknown : schema.entity? target = none) :
      Blocks schema entity name (.unknownEntity target)

/-- A name names no column: there is no such field, or it is an association. -/
inductive Lacks (schema : Schema) (entity : Entity) (name : String) : PathError → Prop
  | absent (missing : schema.find? entity name = none) :
      Lacks schema entity name (.unknownField entity.name name)
  | association {found : Found} (finds : schema.find? entity name = some found)
      (associates : found.field.isAssociation = true) :
      Lacks schema entity name (.expectedColumn entity.name name)

theorem field_eq_error_iff : schema.field entity name = .error error ↔
    schema.find? entity name = none ∧ error = .unknownField entity.name name := by
  unfold field
  cases schema.find? entity name <;> simp [eq_comm]

theorem hop_eq_error_iff :
    schema.hop entity name = .error error ↔ schema.Blocks entity name error := by
  rw [Schema.hop, bind_eq_error_iff]
  constructor
  · rintro (unfound | ⟨found, finds, h⟩)
    · obtain ⟨missing, rfl⟩ := field_eq_error_iff.mp unfound
      exact .absent missing
    · rw [field_eq_ok_iff] at finds
      split at h
      case isTrue plain =>
        obtain rfl := Except.error.inj h
        exact .column finds plain
      case isFalse notPlain =>
        split at h
        case h_1 targetless =>
          obtain rfl := Except.error.inj h
          exact .untraversable finds (by simpa using notPlain) targetless
        case h_2 target targets =>
          split at h
          case h_1 unknown =>
            obtain rfl := Except.error.inj h
            exact .dangling finds targets unknown
          case h_2 => cases h
  · intro blocks
    cases blocks with
    | absent missing => exact .inl (field_eq_error_iff.mpr ⟨missing, rfl⟩)
    | column finds plain =>
      refine .inr ⟨_, field_eq_ok_iff.mpr finds, ?_⟩
      simp [plain]
    | untraversable finds notPlain targetless =>
      refine .inr ⟨_, field_eq_ok_iff.mpr finds, ?_⟩
      simp [notPlain, targetless]
    | dangling finds targets unknown =>
      refine .inr ⟨_, field_eq_ok_iff.mpr finds, ?_⟩
      simp [isPlainColumn_eq_false targets, targets, unknown]

theorem terminal_eq_error_iff :
    schema.terminal entity name = .error error ↔ schema.Lacks entity name error := by
  rw [terminal, bind_eq_error_iff]
  constructor
  · rintro (unfound | ⟨found, finds, h⟩)
    · obtain ⟨missing, rfl⟩ := field_eq_error_iff.mp unfound
      exact .absent missing
    · rw [field_eq_ok_iff] at finds
      split at h
      case isTrue associates =>
        obtain rfl := Except.error.inj h
        exact .association finds associates
      case isFalse => cases h
  · intro lacks
    cases lacks with
    | absent missing => exact .inl (field_eq_error_iff.mpr ⟨missing, rfl⟩)
    | association finds associates =>
      refine .inr ⟨_, field_eq_ok_iff.mpr finds, ?_⟩
      simp [associates]

/-! ## Whole paths -/

/-- A path, given by its first name and the others, goes astray from an entity on: at a name that
leads over no association, at a last name that names no column, or after an association. -/
inductive Strays (schema : Schema) : Entity → String → List String → PathError → Prop
  | hop {entity : Entity} {name next : String} {rest : List String} {error : PathError}
      (blocks : schema.Blocks entity name error) : Strays schema entity name (next :: rest) error
  | terminal {entity : Entity} {name : String} {error : PathError}
      (lacks : schema.Lacks entity name error) : Strays schema entity name [] error
  | across {entity target : Entity} {hop : Hop} {next : String} {rest : List String}
      {error : PathError} (crosses : schema.Crosses entity hop target)
      (strays : Strays schema target next rest error) :
      Strays schema entity hop.association (next :: rest) error

theorem follow_eq_error_iff {rest : List String} :
    schema.follow entity name rest = .error error ↔ schema.Strays entity name rest error := by
  induction rest generalizing entity name with
  | nil =>
    rw [follow, terminal_eq_error_iff]
    constructor
    · exact .terminal
    · intro strays
      cases strays with
      | terminal lacks => exact lacks
  | cons next rest ih =>
    rw [follow, bind_eq_error_iff]
    constructor
    · rintro (blocked | ⟨⟨hop, target⟩, crossed, h⟩)
      · exact .hop (hop_eq_error_iff.mp blocked)
      · obtain ⟨crosses, rfl⟩ := hop_eq_ok_iff.mp crossed
        rcases bind_eq_error_iff.mp h with followed | ⟨_, -, h⟩
        · exact .across crosses (ih.mp followed)
        · cases h
    · intro strays
      cases strays with
      | hop blocks => exact .inl (hop_eq_error_iff.mpr blocks)
      | across crosses strays =>
        refine .inr ⟨_, hop_eq_ok_iff.mpr ⟨crosses, rfl⟩, ?_⟩
        exact bind_eq_error_iff.mpr (.inl (ih.mpr strays))

/-- A path does not resolve: it is empty, or the root entity is unknown, or it goes astray from
there. -/
inductive Unresolved (schema : Schema) (root : String) : List String → PathError → Prop
  | empty : Unresolved schema root [] (.emptyPath root)
  | rootless {name : String} {rest : List String} (unknown : schema.entity? root = none) :
      Unresolved schema root (name :: rest) (.unknownEntity root)
  | astray {entity : Entity} {name : String} {rest : List String} {error : PathError}
      (known : schema.entity? root = some entity) (strays : schema.Strays entity name rest error) :
      Unresolved schema root (name :: rest) error

theorem resolve_eq_error_iff {root : String} {path : List String} :
    schema.resolve root path = .error error ↔ schema.Unresolved root path error := by
  cases path with
  | nil =>
    rw [resolve]
    constructor
    · intro h
      obtain rfl := Except.error.inj h
      exact .empty
    · rintro ⟨⟩
      rfl
  | cons name rest =>
    rw [resolve]
    cases known : schema.entity? root with
    | none =>
      constructor
      · intro h
        obtain rfl := Except.error.inj h
        exact .rootless known
      · intro unresolved
        cases unresolved with
        | rootless => rfl
        | astray known' => cases known.symm.trans known'
    | some entity =>
      dsimp only
      rw [follow_eq_error_iff]
      constructor
      · exact .astray known
      · intro unresolved
        cases unresolved with
        | rootless unknown => cases known.symm.trans unknown
        | astray known' strays =>
          obtain rfl := Option.some.inj (known.symm.trans known')
          exact strays

end Schema

end Criteria
