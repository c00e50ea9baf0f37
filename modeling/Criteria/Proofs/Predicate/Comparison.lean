import Criteria.Predicate.Comparison
import Criteria.Proofs.Outcome

/-!
# What operators ask for

`Comparison.Asked` says of an operator and a value which comparison they make, whatever column is
compared; the type of the column matters for the two orderings only, whose number it has to hold.
-/

namespace Criteria

/-- What has a search form: texts and numbers. -/
theorem Value.isSome_searchText?_iff {value : Value} : value.searchText?.isSome ↔
    value.kind = .text ∨ value.kind = .int ∨ value.kind = .uint ∨ value.kind = .float := by
  cases value <;> simp [searchText?, kind]

/-- Only numbers are coerced. -/
theorem Value.isNumeric_of_coerce? {type : FieldType} {value number : Value}
    (h : value.coerce? type = some number) : value.isNumeric := by
  cases value with
  | int | uint | float => rfl
  | null | bool | text | tagged | list | map => cases type <;> cases h

namespace Comparison

variable {escape : Char} {type : FieldType} {operator : Operator} {value : Value}
  {comparison : Comparison}

/-- The comparison that an operator asks for: with the value itself for the two equalities, with the
items of a list for membership, with the pattern of its search form for a search, which alone has an
escape character, and for an ordering with the number as the type of the column holds it. -/
inductive Asked (escape : Char) (type : FieldType) : Operator → Value → Comparison → Prop
  | equal (value : Value) : Asked escape type .equal value ⟨.equal, value, none⟩
  | notEqual (value : Value) : Asked escape type .notEqual value ⟨.notEqual, value, none⟩
  | like {value : Value} {text : String} (searched : value.searchText? = some text) :
      Asked escape type .like value
        ⟨.like, .text (Pattern.containing text escape), some escape⟩
  | among (items : List Value) :
      Asked escape type .among (.list items) ⟨.among, .list items, none⟩
  | less {value number : Value} (held : value.coerce? type = some number) :
      Asked escape type .lessThan value ⟨.less, number, none⟩
  | greater {value number : Value} (held : value.coerce? type = some number) :
      Asked escape type .greaterThan value ⟨.greater, number, none⟩

theorem ordering_eq_ok_iff {relation : Relation} :
    ordering relation value type = .ok comparison ↔
      ∃ number, value.coerce? type = some number ∧ comparison = ⟨relation, number, none⟩ := by
  unfold ordering
  constructor
  · intro h
    split at h
    · split at h
      · rename_i number held
        cases h
        exact ⟨number, held, rfl⟩
      · cases h
    · cases h
  · rintro ⟨number, held, rfl⟩
    rw [if_pos (Value.isNumeric_of_coerce? held), held]

theorem ofOperator_eq_ok_iff : ofOperator operator value type escape = .ok comparison ↔
    Asked escape type operator value comparison := by
  constructor
  · intro h
    cases operator with
    | equal =>
      cases h
      exact .equal value
    | notEqual =>
      cases h
      exact .notEqual value
    | like =>
      simp only [ofOperator] at h
      split at h
      · rename_i text searched
        cases h
        exact .like searched
      · cases h
    | among =>
      simp only [ofOperator] at h
      split at h
      · rename_i items
        cases h
        exact .among items
      · cases h
    | lessThan =>
      obtain ⟨number, held, rfl⟩ := ordering_eq_ok_iff.mp h
      exact .less held
    | greaterThan =>
      obtain ⟨number, held, rfl⟩ := ordering_eq_ok_iff.mp h
      exact .greater held
  · intro asked
    cases asked with
    | equal => rfl
    | notEqual => rfl
    | like searched => simp only [ofOperator, searched]
    | among => rfl
    | less held => exact ordering_eq_ok_iff.mpr ⟨_, held, rfl⟩
    | greater held => exact ordering_eq_ok_iff.mpr ⟨_, held, rfl⟩

/-- A filter field makes the comparison that its operator asks for. -/
theorem ofField_eq_ok_iff {field : String} :
    ofField field operator value type escape = .ok comparison ↔
      Asked escape type operator value comparison := by
  rw [ofField, mapError_eq_ok_iff, ofOperator_eq_ok_iff]

end Comparison

end Criteria
