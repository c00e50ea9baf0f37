import Criteria.Filter.Layout
import Criteria.Value.Conversion

/-!
# Operators carried by a filter value

The carrier of a filter holds a map from field names to operators, each of which takes the place of
the operator declared for the field.
-/

namespace Criteria

/-- Operators by the names of the fields they are for. -/
abbrev Overrides : Type := Dictionary Operator

namespace Overrides

/-- The operator that a map entry stores, if it stores one. -/
def operator? : Value → Option Operator
  | .tagged tag => Operator.ofTag? tag
  | _ => none

/-- Puts the entries of a carrier's map in one after the other, up to the first that is not a text
with an operator. The key of an entry is looked at before its value. -/
def collect (carrier : String) (overrides : Overrides) :
    List (Value × Value) → Except FilterError Overrides
  | [] => .ok overrides
  | (.text name, value) :: rest =>
    match operator? value with
    | some op => collect carrier (overrides.insert name op) rest
    | none => .error (.carrierType carrier ("Map<Text, " ++ value.kind.name ++ ">"))
  | (key, _) :: _ => .error (.carrierType carrier ("Map<" ++ key.kind.name ++ ", _>"))

/-- The operators in the value of a carrier. Null carries none. -/
def ofValue (carrier : String) : Value → Except FilterError Overrides
  | .null => .ok ∅
  | .map entries => collect carrier ∅ entries
  | value => .error (.carrierType carrier value.kind.name)

end Overrides

end Criteria
