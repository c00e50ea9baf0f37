import Criteria.Compilation
import Criteria.Failure
import Criteria.Wire.Basic

/-!
# Writing wire forms

The forms in which the parts of schemas, filters and specifications travel. A record is an object
with its fields by name; a type without parameters is its name, one with parameters an object that
gives them to its name.
-/

namespace Criteria

/-! ## Schemas -/

def FieldType.toWire : FieldType → Wire
  | enum path => .tagged "Enum" (.tagged "path" (.text path))
  | entity target => .tagged "Entity" (.tagged "target" (.text target))
  | list items => .tagged "List" items.toWire
  | set items => .tagged "Set" items.toWire
  | map keys values =>
    .tagged "Map" (.object [("key", keys.toWire), ("value", values.toWire)])
  | type => .text type.label

def Field.toWire (field : Field) : Wire :=
  .object [("name", .text field.name), ("kind", field.type.toWire), ("column", .bool field.stored)]

/-! ## Filters -/

def Shape.toWire : Shape → Wire
  | enum path => .tagged "Enum" (.text path)
  | list items => .tagged "List" items.toWire
  | map keys values =>
    .tagged "Map" (.object [("key", keys.toWire), ("value", values.toWire)])
  | rawMap => .text "RawMap"
  | shape => .text shape.label

def Operator.toWire (operator : Operator) : Wire := .text operator.name

def Role.toWire : Role → Wire
  | criterion => .text "Criterion"
  | overrides => .text "OperatorOverrides"

def FilterField.toWire (field : FilterField) : Wire :=
  .object [("name", .text field.name), ("shape", field.shape.toWire), ("role", field.role.toWire),
    ("ignored", .bool field.ignored), ("path", .texts field.path),
    ("operator", .option Operator.toWire field.operator)]

def FilterModel.toWire (model : FilterModel) : Wire :=
  .object [("name", .text model.name), ("fields", .list (model.fields.map (·.toWire)))]

/-! ## Specifications -/

def Source.toWire : Source → Wire
  | root => .text "Root"
  | join id => .tagged "Join" (.nat id)

def Join.toWire (join : Join) : Wire :=
  .object [("id", .nat join.id), ("owning_type", .text join.owner),
    ("association", .text join.association), ("target", .text join.target),
    ("kind", .text "Inner"), ("parent", join.parent.toWire), ("path", .text join.path)]

def Column.toWire (column : Column) : Wire :=
  .object [("source", column.source.toWire), ("name", .text column.name),
    ("path", .text column.path)]

/-- The name of a direction in documents. -/
def Direction.wireName : Direction → String
  | ascending => "asc"
  | descending => "desc"

def Direction.toWire (direction : Direction) : Wire := .text direction.wireName

def OrderTerm.toWire (term : OrderTerm) : Wire :=
  .object [("column", term.column.toWire), ("direction", term.direction.toWire)]

/-! ## Requests and answers -/

def SortKey.toWire (key : SortKey) : Wire := .list [.text key.path, key.direction.toWire]

/-- Sort keys: a record with their list as its only field. -/
def SortKey.listToWire (keys : List SortKey) : Wire := .object [("fields", .list (keys.map toWire))]

def PageRequest.toWire (page : PageRequest) : Wire :=
  .object [("page", .nat page.number.toNat), ("size", .nat page.size.toNat)]

def Failure.toWire (failure : Failure) : Wire :=
  .object [("kind", .text failure.kind.name), ("message", .text failure.message)]

end Criteria
