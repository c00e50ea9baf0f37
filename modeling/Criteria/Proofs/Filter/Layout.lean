import Criteria.Proofs.Compilation.Outcome
import Criteria.Proofs.Filter.Validation

/-!
# Layouts that compilations go by

A compilation goes by the layout of the model that its filter type declares, as long as nothing else
is remembered for the type. Which criteria are set can be told from the declared fields: a field is
set when it is not ignored and its value is not null, `FilterField.isSet_iff`.
-/

namespace Criteria

/-- Whether the field is compared when a filter has these values. -/
def FilterField.isSet (field : FilterField) (values : FilterValue) : Bool :=
  !field.ignored && !(values field.name).isNull

theorem FilterField.isSet_iff {field : FilterField} {values : FilterValue} :
    field.isSet values = true ↔ field.ignored = false ∧ values field.name ≠ .null := by
  simp [isSet]

theorem Criterion.isSet_ofField (values : FilterValue) (field : FilterField) :
    (ofField values field).isSet = field.isSet values := by
  simp only [isSet, ofField, FilterField.isSet]
  cases field.ignored <;> simp

/-- The set criteria are those of the set fields. -/
theorem FilterLayout.setCriteria_eq (layout : FilterLayout) (values : FilterValue) :
    layout.setCriteria values =
      (layout.criteria.filter (·.isSet values)).map (Criterion.ofField values) := by
  rw [setCriteria, read, List.filter_map]
  congr 2
  funext field
  exact Criterion.isSet_ofField values field

theorem Criterion.value_ofField_of_isSet {values : FilterValue} {field : FilterField}
    (h : field.isSet values) : (ofField values field).value = values field.name := by
  rw [ofField, (FilterField.isSet_iff.mp h).1]
  rfl

/-- Without values for the other criteria, a set field is the only one. -/
theorem FilterModel.setCriteria_eq_singleton {model : FilterModel} {layout : FilterLayout}
    (h : model.layout = .ok layout) {values values' : FilterValue} {field : FilterField}
    (mem : field ∈ layout.criteria) (isSet : field.isSet values)
    (own : values' field.name = values field.name)
    (others : ∀ other ∈ layout.criteria, other.name ≠ field.name → values' other.name = .null) :
    layout.setCriteria values' = [.ofField values field] := by
  have distinct := names_nodup_of_layout h
  have only : ∀ other ∈ layout.criteria, other.isSet values' = decide (other = field) := by
    intro other mem'
    by_cases same : other.name = field.name
    · obtain rfl := List.inj_on_of_nodup_map distinct mem' mem same
      rw [FilterField.isSet, own, ← FilterField.isSet, isSet, decide_eq_true rfl]
    · have unset : ¬ other.isSet values' := fun set =>
        (FilterField.isSet_iff.mp set).2 (others other mem' same)
      have apart : other ≠ field := fun eq => same (congrArg _ eq)
      rw [Bool.eq_false_iff.mpr unset, decide_eq_false apart]
  have kept : layout.criteria.filter (·.isSet values') = [field] := by
    rw [List.filter_congr only, List.filter_eq, List.count_eq_one_of_mem distinct.of_map mem]
    rfl
  rw [FilterLayout.setCriteria_eq, kept, List.map_singleton]
  simp only [Criterion.ofField, own]

/-- The operators that a filter value carries are those of the carrier's value. -/
theorem FilterLayout.overrides_congr {layout : FilterLayout} {values values' : FilterValue}
    (h : ∀ carrier, layout.carrier = some carrier → values' carrier = values carrier) :
    layout.overrides values' = layout.overrides values := by
  unfold FilterLayout.overrides
  split
  · rename_i carrier has
    rw [h carrier has]
  · rfl

/-! ## Layouts that compilations go by -/

/-- What the cache remembers for a filter type, if anything, is the layout of the type's model. -/
def LayoutCache.Agrees (cache : LayoutCache) (type : FilterType) : Prop :=
  ∀ layout, cache.get? type.id = some layout → type.model.layout = .ok layout

namespace Compiler

variable {compiler : Compiler} {cache : LayoutCache} {type : FilterType}

/-- A compiler that remembers nothing goes by the model. -/
theorem layout_of_not_remember (off : compiler.config.rememberLayouts = false) :
    compiler.layout cache type = type.model.layout := by
  rw [layout, LayoutCache.lookup, if_neg (by simp [off])]
  cases type.model.layout <;> rfl

/-- So does one that remembers the layout of the model. -/
theorem layout_of_agrees (agrees : cache.Agrees type) :
    compiler.layout cache type = type.model.layout := by
  cases remember : compiler.config.rememberLayouts with
  | false => exact layout_of_not_remember remember
  | true =>
    rw [layout, LayoutCache.lookup, if_pos remember, LayoutCache.find]
    cases kept : cache.get? type.id with
    | some layout => rw [agrees layout kept, map_ok]
    | none => cases type.model.layout <;> rfl

end Compiler

end Criteria
