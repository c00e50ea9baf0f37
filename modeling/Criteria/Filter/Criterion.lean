import Criteria.Filter.Overrides

/-!
# The criteria of a filter value

A filter value gives every field name a value, null for a field that is not set. Read against a
layout it yields the criteria in order and the operators that its carrier holds.
-/

namespace Criteria

/-- The values of a filter by field name. -/
abbrev FilterValue : Type := String → Value

/-- One field of a filter value that is compared with a column. -/
structure Criterion where
  name : String
  value : Value
  ignored : Bool
  path : List String
  operator : Option Operator

namespace Criterion

/-- The criterion of a field. The value of an ignored field is not looked at. -/
def ofField (values : FilterValue) (field : FilterField) : Criterion where
  name := field.name
  value := if field.ignored then .null else values field.name
  ignored := field.ignored
  path := field.path
  operator := field.operator

/-- The path to the column: the explicit one, or else the pieces of the name. -/
def segments (criterion : Criterion) (separator : Char) : List String :=
  if criterion.path = [] then Text.split separator criterion.name else criterion.path

/-- The operator of a criterion: the one carried for its name, or else the declared one, or else
equality. -/
def resolvedOperator (criterion : Criterion) (overrides : Overrides) : Operator :=
  ((overrides.get? criterion.name).or criterion.operator).getD default

end Criterion

namespace FilterLayout

/-- The operators that a filter value carries. -/
def overrides (layout : FilterLayout) (values : FilterValue) : Except FilterError Overrides :=
  match layout.carrier with
  | some carrier => Overrides.ofValue carrier (values carrier)
  | none => .ok ∅

/-- The criteria of a filter value, in the order of the layout. -/
def read (layout : FilterLayout) (values : FilterValue) : List Criterion :=
  layout.criteria.map (.ofField values)

end FilterLayout

end Criteria
