import Criteria.Filter.Criterion

/-!
# Operators read from a carrier

When the value of a carrier can be read, the operator it has for a field is that of the last entry
for the field's name: `Value.carried?`.
-/

namespace Criteria

namespace Overrides

/-- What an entry of a carrier's map stores: the operator for a field. -/
def stored? : Value × Value → Option (String × Operator)
  | (.text name, value) => (operator? value).map (name, ·)
  | _ => none

/-- The operator that entries have for a field, that of the last one for its name. -/
def last? (entries : List (Value × Value)) (name : String) : Option Operator :=
  (entries.filterMap stored?).reverse.lookup name

variable {carrier name : String} {overrides decoded : Overrides}

theorem last?_cons {entry : Value × Value} {field : String} {operator : Operator}
    (h : stored? entry = some (field, operator)) (rest : List (Value × Value)) :
    last? (entry :: rest) name =
      (last? rest name).or (if name = field then some operator else none) := by
  rw [last?, List.filterMap_cons_some h, List.reverse_cons, List.lookup_append,
    Dictionary.lookup_entry, List.lookup_nil]
  rfl

/-- Entries that are put in one after the other count from the last one back. -/
theorem get?_of_collect {entries : List (Value × Value)}
    (h : collect carrier overrides entries = .ok decoded) :
    decoded.get? name = (last? entries name).or (overrides.get? name) := by
  fun_induction collect carrier overrides entries with
  | case1 overrides =>
    obtain rfl := Except.ok.inj h
    rfl
  | case2 overrides field value rest operator found ih =>
    have stored : stored? (.text field, value) = some (field, operator) := by
      rw [stored?, found, Option.map_some]
    rw [ih h, Dictionary.get?_insert, last?_cons stored, Option.or_assoc]
    split <;> rfl
  | case3 | case4 => cases h

end Overrides

/-- The operator that a carrier of this value has for a field. -/
def Value.carried? (value : Value) (name : String) : Option Operator :=
  match value with
  | .map entries => Overrides.last? entries name
  | _ => none

/-- The operator that a filter value carries for a field. -/
def FilterLayout.carried? (layout : FilterLayout) (values : FilterValue) (name : String) :
    Option Operator :=
  layout.carrier.bind fun carrier => (values carrier).carried? name

theorem Overrides.get?_of_ofValue {carrier name : String} {value : Value} {overrides : Overrides}
    (h : ofValue carrier value = .ok overrides) : overrides.get? name = value.carried? name := by
  unfold ofValue at h
  split at h
  · obtain rfl := Except.ok.inj h
    rfl
  · rw [get?_of_collect h, Dictionary.get?_empty, Option.or_none]
    rfl
  · cases h

/-- The operators of a filter value are those that it carries. -/
theorem FilterLayout.get?_of_overrides {layout : FilterLayout} {values : FilterValue}
    {overrides : Overrides} (h : layout.overrides values = .ok overrides) (name : String) :
    overrides.get? name = layout.carried? values name := by
  unfold FilterLayout.overrides at h
  unfold carried?
  split at h
  · rename_i carrier has
    rw [has, Overrides.get?_of_ofValue h]
    rfl
  · rename_i none
    obtain rfl := Except.ok.inj h
    rw [none]
    rfl

end Criteria
