import Criteria.Operator
import Criteria.Text.Split

/-!
# Filter models

A filter model declares the fields that a search form has. A field is a criterion, compared with
the column that its path or its name leads to, or it carries operators that replace those of the
criteria. A model inherits the fields of other models; a name that it has already is kept.
-/

namespace Criteria

/-- The declared shape of a filter field. A raw map is declared without key and value shapes. -/
inductive Shape where
  | bool
  | int
  | uint
  | float
  | text
  | operator
  | rawMap
  | enum (path : String)
  | list (items : Shape)
  | map (keys values : Shape)
deriving DecidableEq, Repr

namespace Shape

/-- The shape as messages show it. -/
def label : Shape → String
  | bool => "Bool"
  | int => "Int"
  | uint => "Uint"
  | float => "Float"
  | text => "Text"
  | operator => "Operator"
  | rawMap => "Map"
  | enum path => "Enum<" ++ path ++ ">"
  | list items => "List<" ++ items.label ++ ">"
  | map keys values => "Map<" ++ keys.label ++ ", " ++ values.label ++ ">"

/-- The one shape in which operators are carried. -/
def operatorMap : Shape := map text operator

end Shape

/-- What a filter field is for. -/
inductive Role where
  | criterion
  | overrides
deriving DecidableEq, Repr

/-- A declared filter field. An empty path stands for the one that the name gives. -/
structure FilterField where
  name : String
  shape : Shape
  role : Role
  ignored : Bool
  path : List String
  operator : Option Operator
deriving DecidableEq, Repr

namespace FilterField

/-- A criterion with nothing declared but name and shape. -/
def criterion (name : String) (shape : Shape) : FilterField :=
  { name, shape, role := .criterion, ignored := false, path := [], operator := none }

/-- A field that carries operators, with the shape for it. -/
def carrier (name : String) : FilterField :=
  { criterion name .operatorMap with role := .overrides }

def isCarrier (field : FilterField) : Bool := field.role = .overrides

/-- The field with an explicit path, written with dots. Empty segments are left out. -/
def withPath (field : FilterField) (dotted : String) : FilterField :=
  { field with path := (Text.split '.' dotted).filter (· ≠ "") }

end FilterField

/-- The fields of a filter, in order. -/
structure FilterModel where
  name : String
  fields : List FilterField
deriving DecidableEq, Repr

namespace FilterModel

/-- The field of a name, the first if there are several. -/
def field? (model : FilterModel) (name : String) : Option FilterField :=
  model.fields.find? (·.name = name)

/-- Appends a field unless one of its name is there. -/
def adopt (fields : List FilterField) (field : FilterField) : List FilterField :=
  if fields.any (·.name = field.name) then fields else fields ++ [field]

/-- The model of own fields and inherited ones. Own fields come first and stay as they are; then
those of each parent follow, each unless its name is there. -/
def extending (name : String) (own : List FilterField) (parents : List FilterModel) :
    FilterModel where
  name := name
  fields := (parents.flatMap (·.fields)).foldl adopt own

end FilterModel

end Criteria
