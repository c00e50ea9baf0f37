import Criteria.Schema.Lookup

/-!
# Paths from an entity to a column

A path is a list of names. All but the last name associations, each followed to the entity it
targets; the last names a column. Resolving a path says which associations are passed and which
column is reached, or which name is the first that cannot be taken so.
-/

namespace Criteria

/-- One association passed: the entity that declares it, which may be a parent of the entity
reached, its name, the entity it leads to, and whether it leads to many. -/
structure Hop where
  owner : String
  association : String
  target : String
  many : Bool
deriving DecidableEq, Repr

/-- What a path leads to. -/
structure Route where
  hops : List Hop
  column : String
  type : FieldType
deriving DecidableEq, Repr

/-- Why a path cannot be resolved. -/
inductive PathError where
  | unknownEntity (entity : String)
  | unknownField (entity field : String)
  | expectedAssociation (entity field : String)
  | expectedColumn (entity field : String)
  | notTraversable (entity field : String) (type : FieldType)
  | emptyPath (entity : String)
deriving DecidableEq, Repr

def PathError.message : PathError → String
  | unknownEntity entity => s!"unknown entity '{entity}'"
  | unknownField entity field => s!"unknown field '{field}' on entity '{entity}'"
  | expectedAssociation entity field => s!"expected association, found column '{entity}.{field}'"
  | expectedColumn entity field => s!"expected column, found association '{entity}.{field}'"
  | notTraversable entity field type =>
    let label := type.label
    s!"field '{entity}.{field}' of type {label} cannot be traversed"
  | emptyPath entity => s!"empty path on entity '{entity}'"

namespace Schema

/-- The declaration of a field that a path names. -/
def field (schema : Schema) (entity : Entity) (name : String) : Except PathError Found :=
  match schema.find? entity name with
  | some found => .ok found
  | none => .error (.unknownField entity.name name)

/-- Follows one association to the entity it targets. A plain column is told apart from other
fields without a target. -/
def hop (schema : Schema) (entity : Entity) (name : String) : Except PathError (Hop × Entity) := do
  let found ← schema.field entity name
  if found.field.isPlainColumn then .error (.expectedAssociation entity.name name)
  else
    match found.field.target? with
    | none => .error (.notTraversable entity.name name found.field.type)
    | some target =>
      match schema.entity? target with
      | none => .error (.unknownEntity target)
      | some next =>
        .ok (⟨found.declaring.name, found.field.name, next.name, found.field.isMany⟩, next)

/-- The column that the last name of a path names. -/
def terminal (schema : Schema) (entity : Entity) (name : String) : Except PathError Route := do
  let found ← schema.field entity name
  if found.field.isAssociation then .error (.expectedColumn entity.name name)
  else .ok ⟨[], found.field.name, found.field.type⟩

/-- Follows a path, given by its first name and the others, from an entity on. -/
def follow (schema : Schema) (entity : Entity) (name : String) :
    List String → Except PathError Route
  | [] => schema.terminal entity name
  | next :: rest => do
    let (hop, target) ← schema.hop entity name
    let route ← schema.follow target next rest
    .ok { route with hops := hop :: route.hops }

/-- Resolves a path from the entity of a name. -/
def resolve (schema : Schema) (root : String) (path : List String) : Except PathError Route :=
  match path with
  | [] => .error (.emptyPath root)
  | name :: rest =>
    match schema.entity? root with
    | none => .error (.unknownEntity root)
    | some entity => schema.follow entity name rest

end Schema

end Criteria
