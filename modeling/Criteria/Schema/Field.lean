/-!
# Entities and their fields

An entity is a record type: a name, the fields it declares, and the entity it extends, if any. A
field whose elements are entities is an association; every other field can be a column.
-/

namespace Criteria

/-- The type of a field. -/
inductive FieldType where
  | bool
  | date
  | decimal
  | float
  | int
  | text
  | timestamp
  | uint
  | ulid
  | enum (path : String)
  | entity (target : String)
  | list (items : FieldType)
  | set (items : FieldType)
  | map (keys values : FieldType)
deriving DecidableEq, Repr

namespace FieldType

/-- The type as messages show it. -/
def label : FieldType → String
  | bool => "Bool"
  | date => "Date"
  | decimal => "Decimal"
  | float => "Float"
  | int => "Int"
  | text => "Text"
  | timestamp => "Timestamp"
  | uint => "Uint"
  | ulid => "Ulid"
  | enum path => "Enum<" ++ path ++ ">"
  | entity target => "Entity<" ++ target ++ ">"
  | list items => "List<" ++ items.label ++ ">"
  | set items => "Set<" ++ items.label ++ ">"
  | map keys values => "Map<" ++ keys.label ++ ", " ++ values.label ++ ">"

/-- What a collection holds in the end, through any nesting; of a map, its values. -/
def element : FieldType → FieldType
  | list items => items.element
  | set items => items.element
  | map _ values => values.element
  | type => type

def isCollection : FieldType → Bool
  | list _ | set _ | map _ _ => true
  | _ => false

def isEnum : FieldType → Bool
  | enum _ => true
  | _ => false

/-- The entity that the elements are, if they are entities. -/
def target? (type : FieldType) : Option String :=
  match type.element with
  | entity target => some target
  | _ => none

end FieldType

/-- A field of an entity; `stored` says whether it has a column of its own. -/
structure Field where
  name : String
  type : FieldType
  stored : Bool
deriving DecidableEq, Repr

namespace Field

/-- A stored field. -/
def column (name : String) (type : FieldType) : Field := ⟨name, type, true⟩

/-- A field without a column of its own. -/
def unmapped (name : String) (type : FieldType) : Field := ⟨name, type, false⟩

/-- An association with one entity. -/
def relation (name target : String) : Field := unmapped name (.entity target)

/-- An association with any number of entities. -/
def relations (name target : String) : Field := unmapped name (.list (.entity target))

def target? (field : Field) : Option String := field.type.target?

def isAssociation (field : Field) : Bool := field.target?.isSome

/-- Whether the field holds any number of elements. -/
def isMany (field : Field) : Bool := field.type.isCollection

/-- A stored field of plain data. Enumerations do not count: their variants may carry more. -/
def isPlainColumn (field : Field) : Bool :=
  field.stored && !field.isAssociation && !field.type.element.isEnum

end Field

/-- A record type. -/
structure Entity where
  name : String
  parent : Option String
  fields : List Field
deriving DecidableEq, Repr

/-- The field of this name that the entity itself declares, the first if there are several. -/
def Entity.declared? (entity : Entity) (name : String) : Option Field :=
  entity.fields.find? (·.name = name)

end Criteria
