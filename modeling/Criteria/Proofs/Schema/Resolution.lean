import Criteria.Path
import Criteria.Proofs.Outcome

/-!
# Paths that resolve

`Crosses` says declaratively what one hop takes: a field found on the entity reached or its
parents, which targets an entity that is known. A path resolves to a route exactly when it spells
the route's associations and its column, the associations lead from the root entity to another, and
the column is found there.
-/

namespace Criteria

/-- The path that a route is written as: the names of its associations and of its column. -/
def Route.path (route : Route) : List String := route.hops.map (·.association) ++ [route.column]

/-! ## What fields hold -/

/-- What a type holds in the end: a collection holds what its items hold, a map what its values
hold, and any other type holds itself. -/
inductive FieldType.Holds : FieldType → FieldType → Prop
  | self {type : FieldType} (single : type.isCollection = false) : Holds type type
  | list {items held : FieldType} (holds : Holds items held) : Holds (.list items) held
  | set {items held : FieldType} (holds : Holds items held) : Holds (.set items) held
  | map {keys values held : FieldType} (holds : Holds values held) : Holds (.map keys values) held

theorem FieldType.holds_element (type : FieldType) : type.Holds type.element := by
  induction type with
  | list items ih => exact .list ih
  | set items ih => exact .set ih
  | map keys values _ ih => exact .map ih
  | _ => exact .self rfl

theorem FieldType.holds_iff {type held : FieldType} : type.Holds held ↔ type.element = held := by
  constructor
  · intro holds
    induction holds with
    | @self type single =>
      cases type with
      | list | set | map => cases single
      | _ => rfl
    | list _ ih => exact ih
    | set _ ih => exact ih
    | map _ ih => exact ih
  · rintro rfl
    exact holds_element type

/-- A field targets the entity that it holds in the end. -/
theorem Field.target?_eq_some_iff {field : Field} {target : String} :
    field.target? = some target ↔ field.type.Holds (.entity target) := by
  rw [FieldType.holds_iff, Field.target?, FieldType.target?]
  cases field.type.element <;> simp

namespace Schema

variable {schema : Schema} {entity next : Entity} {name : String}

/-! ## Finding fields -/

theorem declared_of_find? {found : Found} (h : schema.find? entity name = some found) :
    found.declaring ∈ schema.lineage entity ∧
      found.declaring.declared? name = some found.field := by
  obtain ⟨declaring, mem, h⟩ := List.exists_of_findSome?_eq_some h
  obtain ⟨field, declared, rfl⟩ := Option.map_eq_some_iff.mp h
  exact ⟨mem, declared⟩

/-- A field is found under its own name. -/
theorem name_of_find? {found : Found} (h : schema.find? entity name = some found) :
    found.field.name = name := by
  have declared := (declared_of_find? h).2
  simpa using List.find?_some declared

/-! ## One association -/

/-- An association leads from one entity to another: it is found from the first, and the second is
known under the name of its target. -/
inductive Crosses (schema : Schema) (entity : Entity) : Hop → Entity → Prop
  | intro {found : Found} {target : String} {next : Entity}
      (finds : schema.find? entity found.field.name = some found)
      (targets : found.field.target? = some target) (known : schema.entity? target = some next) :
      Crosses schema entity
        ⟨found.declaring.name, found.field.name, next.name, found.field.isMany⟩ next

theorem isPlainColumn_eq_false {field : Field} {target : String}
    (h : field.target? = some target) : field.isPlainColumn = false := by
  simp [Field.isPlainColumn, Field.isAssociation, h]

theorem field_eq_ok_iff {found : Found} :
    schema.field entity name = .ok found ↔ schema.find? entity name = some found := by
  unfold field
  cases schema.find? entity name <;> simp

theorem hop_eq_ok_iff {hop : Hop} :
    schema.hop entity name = .ok (hop, next) ↔
      schema.Crosses entity hop next ∧ hop.association = name := by
  rw [Schema.hop, bind_eq_ok_iff]
  constructor
  · rintro ⟨found, finds, h⟩
    rw [field_eq_ok_iff] at finds
    obtain rfl := name_of_find? finds
    split at h
    · cases h
    · split at h
      · cases h
      · rename_i target targets
        split at h
        · cases h
        · rename_i next known
          cases h
          exact ⟨.intro finds targets known, rfl⟩
  · rintro ⟨⟨finds, targets, known⟩, rfl⟩
    refine ⟨_, field_eq_ok_iff.mpr finds, ?_⟩
    simp [isPlainColumn_eq_false targets, targets, known]

/-! ## Routes -/

/-- Associations lead from one entity to another, one after the other. -/
inductive Leads (schema : Schema) : Entity → List Hop → Entity → Prop
  | here (entity : Entity) : Leads schema entity [] entity
  | across {entity next last : Entity} {hop : Hop} {hops : List Hop}
      (crosses : schema.Crosses entity hop next) (leads : Leads schema next hops last) :
      Leads schema entity (hop :: hops) last

/-- A route leads from an entity to a column: its associations lead to an entity on which a field of
the column's name and type is found that is no association. -/
def Arrives (schema : Schema) (entity : Entity) (route : Route) : Prop :=
  ∃ last found, schema.Leads entity route.hops last ∧
    schema.find? last route.column = some found ∧ found.field.isAssociation = false ∧
    found.field.type = route.type

theorem terminal_eq_ok_iff {route : Route} :
    schema.terminal entity name = .ok route ↔
      route.path = [name] ∧ schema.Arrives entity route := by
  rw [terminal, bind_eq_ok_iff]
  constructor
  · rintro ⟨found, finds, h⟩
    rw [field_eq_ok_iff] at finds
    split at h
    · cases h
    · rename_i column
      cases h
      obtain rfl := name_of_find? finds
      exact ⟨rfl, entity, found, .here entity, finds, by simpa using column, rfl⟩
  · rintro ⟨spelled, last, found, leads, finds, column, type_eq⟩
    obtain ⟨hops, column, type⟩ := route
    cases leads with
    | across => simp [Route.path] at spelled
    | here =>
      obtain rfl : column = name := by simpa [Route.path] using spelled
      refine ⟨found, field_eq_ok_iff.mpr finds, ?_⟩
      obtain rfl : found.field.type = type := type_eq
      obtain rfl := name_of_find? finds
      simp [column]

theorem follow_eq_ok_iff {rest : List String} {route : Route} :
    schema.follow entity name rest = .ok route ↔
      route.path = name :: rest ∧ schema.Arrives entity route := by
  induction rest generalizing entity name route with
  | nil => exact terminal_eq_ok_iff
  | cons following rest ih =>
    rw [follow, bind_eq_ok_iff]
    constructor
    · rintro ⟨⟨hop, next⟩, crossed, h⟩
      obtain ⟨crosses, rfl⟩ := hop_eq_ok_iff.mp crossed
      obtain ⟨onward, followed, h⟩ := bind_eq_ok_iff.mp h
      obtain ⟨spelled, last, found, leads, finds⟩ := ih.mp followed
      obtain rfl := Except.ok.inj h
      exact ⟨congrArg (hop.association :: ·) spelled, last, found, .across crosses leads, finds⟩
    · rintro ⟨spelled, last, found, leads, finds⟩
      obtain ⟨hops, column, type⟩ := route
      cases leads with
      | here => simp [Route.path] at spelled
      | @across _ next _ hop hops crosses leads =>
        obtain ⟨rfl, onward⟩ := List.cons.inj spelled
        refine ⟨(hop, next), hop_eq_ok_iff.mpr ⟨crosses, rfl⟩, bind_eq_ok_iff.mpr ?_⟩
        exact ⟨⟨hops, column, type⟩, ih.mpr ⟨onward, last, found, leads, finds⟩, rfl⟩

/-- A path resolves to the routes that are written so and lead from the root entity to a column. -/
theorem resolve_eq_ok_iff {root : String} {path : List String} {route : Route} :
    schema.resolve root path = .ok route ↔
      route.path = path ∧
        ∃ entity, schema.entity? root = some entity ∧ schema.Arrives entity route := by
  cases path with
  | nil => simp [resolve, Route.path]
  | cons name rest =>
    rw [resolve]
    cases schema.entity? root with
    | none => simp
    | some entity => simp [follow_eq_ok_iff]

end Schema

end Criteria
