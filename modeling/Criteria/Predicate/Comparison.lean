import Criteria.Operator
import Criteria.Predicate.Basic
import Criteria.Predicate.Pattern
import Criteria.Schema.Field

/-!
# The comparison that an operator asks for

Equality compares any value with any column. Substring search needs a text or a number, membership
needs a list, and order needs a number that the type of the column can hold without loss.
-/

namespace Criteria

/-- Why an operator does not go with a value and a column. -/
inductive Mismatch where
  | notText
  | notCollection
  | notNumber
  | notCoercible
deriving DecidableEq, Repr

def Mismatch.reason : Mismatch → String
  | notText => "value is not text or a number"
  | notCollection => "value is not a collection"
  | notNumber => "value is not a number"
  | notCoercible => "value does not coerce to the column type"

/-- A refused operator: the filter field, the operator, what the value is, the type of the column,
and the reason. -/
structure OperatorError where
  field : String
  operator : Operator
  value : ValueKind
  column : FieldType
  mismatch : Mismatch
deriving DecidableEq, Repr

def OperatorError.message (error : OperatorError) : String :=
  let operator := error.operator.name
  let field := error.field
  let value := error.value.name
  let column := error.column.label
  let reason := error.mismatch.reason
  s!"operator {operator} is not valid for field '{field}' " ++
    s!"({value} value against {column} column): {reason}"

namespace Value

/-- A number as the type of a column holds it, when it can be held without loss. Moments count
whole units of time since an epoch. -/
def coerce? (type : FieldType) (value : Value) : Option Value :=
  match type, value with
  | .int, .int n => some (.int n)
  | .int, .uint n => if n.toNat < Nat.pow 2 63 then some (.int (.ofNat n.toNat)) else none
  | .uint, .uint n | .timestamp, .uint n => some (.uint n)
  | .uint, .int n | .timestamp, .int n =>
    if 0 ≤ n.toInt then some (.uint (.ofNat n.toInt.toNat)) else none
  | .float, v | .decimal, v => (v.toFloat?.filter (·.isFinite)).map .float
  | _, _ => none

end Value

namespace Comparison

/-- An ordering against a number that the column can hold. -/
def ordering (relation : Relation) (value : Value) (type : FieldType) :
    Except Mismatch Comparison :=
  if value.isNumeric then
    match value.coerce? type with
    | some number => .ok ⟨relation, number, none⟩
    | none => .error .notCoercible
  else .error .notNumber

/-- The comparison that an operator makes of a value and a column of the given type. It does not
depend on which column that is. -/
def ofOperator (operator : Operator) (value : Value) (type : FieldType) (escape : Char) :
    Except Mismatch Comparison :=
  match operator with
  | .equal => .ok ⟨.equal, value, none⟩
  | .notEqual => .ok ⟨.notEqual, value, none⟩
  | .like =>
    match value.searchText? with
    | some text => .ok ⟨.like, .text (Pattern.containing text escape), some escape⟩
    | none => .error .notText
  | .among =>
    match value with
    | .list items => .ok ⟨.among, .list items, none⟩
    | _ => .error .notCollection
  | .lessThan => ordering .less value type
  | .greaterThan => ordering .greater value type

/-- The comparison of a filter field, or what is wrong with it. -/
def ofField (field : String) (operator : Operator) (value : Value) (type : FieldType)
    (escape : Char) : Except OperatorError Comparison :=
  (ofOperator operator value type escape).mapError fun mismatch =>
    ⟨field, operator, value.kind, type, mismatch⟩

end Comparison

end Criteria
