import Criteria.Filter.Model
import Criteria.Names
import Criteria.Text.Quoted

/-!
# Checked filter models

A model can be used when its field names are distinct and at most one field carries operators, in
the shape for it. Its layout then keeps the criteria apart from the carrier.
-/

namespace Criteria

/-- Why a filter model, or the value of its carrier, cannot be used. -/
inductive FilterError where
  | conflictingCarriers (filter : String) (fields : List String)
  | carrierType (field declared : String)
  | duplicateField (filter field : String)
deriving DecidableEq, Repr

def FilterError.message : FilterError → String
  | conflictingCarriers filter fields =>
    let names := Text.quotedList fields
    s!"filter '{filter}' declares conflicting operator-override fields {names}"
  | carrierType field declared =>
    let expected := Shape.operatorMap.label
    s!"field '{field}' is declared as operator overrides with type '{declared}'" ++
      s!", expected '{expected}'"
  | duplicateField filter field => s!"filter '{filter}' declares field '{field}' more than once"

/-- The criteria of a filter in order, and the name of its carrier if it has one. -/
structure FilterLayout where
  name : String
  criteria : List FilterField
  carrier : Option String
deriving DecidableEq, Repr

namespace FilterModel

/-- The fields that carry operators. -/
def carriers (model : FilterModel) : List FilterField := model.fields.filter (·.isCarrier)

/-- The fields that are compared with columns. -/
def criteria (model : FilterModel) : List FilterField := model.fields.filter (!·.isCarrier)

/-- The layout of a model. A repeated name is refused first, then a second carrier, then a carrier
of another shape. -/
def layout (model : FilterModel) : Except FilterError FilterLayout :=
  match Names.repeated? (model.fields.map (·.name)) with
  | some field => .error (.duplicateField model.name field)
  | none =>
    match model.carriers with
    | [] => .ok ⟨model.name, model.criteria, none⟩
    | [carrier] =>
      if carrier.shape = .operatorMap then .ok ⟨model.name, model.criteria, some carrier.name⟩
      else .error (.carrierType carrier.name carrier.shape.label)
    | carriers => .error (.conflictingCarriers model.name (carriers.map (·.name)))

end FilterModel

end Criteria
