import Criteria.Filter.Layout
import Mathlib.Data.List.Nodup

/-!
# Checking filter models

What the check of a model ends with is told by its fields, in the order in which it looks for
faults: a repeated name, more than one carrier, a carrier of another shape: `FilterModel.Checks`.
The shape that is shown for such a carrier never looks like the one expected.
-/

namespace Criteria

/-! ## Labels of shapes -/

namespace Shape

variable {shape : Shape} {rest after : List Char}

/-- Only the label of texts begins with this letter. -/
theorem eq_text_of_label_append (h : shape.label.toList ++ rest = 'T' :: after) :
    shape = .text := by
  cases shape with
  | text => rfl
  | _ => simp [label] at h

/-- Only the label of operators begins with this letter. -/
theorem eq_operator_of_label_append (h : shape.label.toList ++ rest = 'O' :: after) :
    shape = .operator := by
  cases shape with
  | operator => rfl
  | _ => simp [label] at h

/-- No other shape, however nested, is shown as the one in which operators are carried. -/
theorem label_eq_label_operatorMap_iff : shape.label = operatorMap.label ↔ shape = operatorMap := by
  constructor
  · intro same
    have chars := congrArg String.toList same
    cases shape with
    | map keys values =>
      have parts : keys.label.toList ++ (", " ++ values.label ++ ">").toList =
          "Text, Operator>".toList := by
        simpa [label, operatorMap] using chars
      obtain rfl := eq_text_of_label_append parts
      have part : values.label.toList ++ ['>'] = "Operator>".toList := by
        simpa [label] using parts
      obtain rfl := eq_operator_of_label_append part
      rfl
    | _ => simp [label, operatorMap] at chars
  · rintro rfl
    rfl

end Shape

namespace FilterModel

variable {model : FilterModel} {layout : FilterLayout} {outcome : Except FilterError FilterLayout}

/-! ## Layouts -/

/-- A model has the layout of its criteria and its carrier when its fields are distinct and it
declares at most one carrier, in the shape for it. -/
theorem layout_eq_ok_iff : model.layout = .ok layout ↔
    (model.fields.map (·.name)).Nodup ∧ model.carriers.length ≤ 1 ∧
      (∀ carrier ∈ model.carriers, carrier.shape = .operatorMap) ∧
      layout = ⟨model.name, model.criteria, model.carriers.head?.map (·.name)⟩ := by
  rw [← Names.repeated?_eq_none_iff, FilterModel.layout]
  cases Names.repeated? (model.fields.map (·.name)) with
  | some name => simp
  | none =>
    cases model.carriers with
    | nil => simp [eq_comm]
    | cons carrier others =>
      cases others with
      | nil =>
        by_cases shaped : carrier.shape = .operatorMap
        · simp [shaped, eq_comm]
        · simp [shaped]
      | cons => simp

/-- The criteria of a layout have distinct names. -/
theorem names_nodup_of_layout (h : model.layout = .ok layout) :
    (layout.criteria.map (·.name)).Nodup := by
  obtain ⟨distinct, -, -, rfl⟩ := layout_eq_ok_iff.mp h
  exact distinct.sublist (List.filter_sublist.map _)

/-- No criterion has the name of the carrier. -/
theorem name_ne_carrier_of_layout (h : model.layout = .ok layout) {field : FilterField}
    (mem : field ∈ layout.criteria) : layout.carrier ≠ some field.name := by
  obtain ⟨distinct, -, -, rfl⟩ := layout_eq_ok_iff.mp h
  intro same
  obtain ⟨carrier, first, name⟩ := Option.map_eq_some_iff.mp same
  obtain ⟨declared, isCarrier⟩ := List.mem_filter.mp (List.mem_of_mem_head? first)
  obtain ⟨declared', isCriterion⟩ := List.mem_filter.mp mem
  obtain rfl := List.inj_on_of_nodup_map distinct declared declared' name
  simp [isCarrier] at isCriterion

/-! ## Outcomes of the check -/

/-- What the check of a model ends with. A model whose names are distinct, with at most one carrier
and that of the one shape, has a layout of its other fields as they are. Else the first fault is
told: the first field whose name is that of an earlier one, or all carriers if there are several, or
the carrier and its shape, which looks different from the one expected. -/
inductive Checks (model : FilterModel) : Except FilterError FilterLayout → Prop
  | accepted (carrier : Option FilterField) (distinct : (model.fields.map (·.name)).Nodup)
      (carried : model.fields.filter (·.role = .overrides) = carrier.toList)
      (shaped : ∀ field ∈ carrier, field.shape = .map .text .operator) :
      Checks model (.ok
        { name := model.name
          criteria := model.fields.filter (·.role = .criterion)
          carrier := carrier.map (·.name) })
  | repeated {before after : List FilterField} {field : FilterField}
      (split : model.fields = before ++ field :: after)
      (distinct : (before.map (·.name)).Nodup)
      (again : ∃ earlier ∈ before, earlier.name = field.name) :
      Checks model (.error (.duplicateField model.name field.name))
  | conflicting {carriers : List FilterField} (distinct : (model.fields.map (·.name)).Nodup)
      (carried : model.fields.filter (·.role = .overrides) = carriers)
      (several : 1 < carriers.length) :
      Checks model (.error (.conflictingCarriers model.name (carriers.map (·.name))))
  | misshapen {carrier : FilterField} (distinct : (model.fields.map (·.name)).Nodup)
      (carried : model.fields.filter (·.role = .overrides) = [carrier])
      (misfit : carrier.shape ≠ .map .text .operator)
      (shown : carrier.shape.label ≠ Shape.operatorMap.label) :
      Checks model (.error (.carrierType carrier.name carrier.shape.label))

theorem carriers_eq : model.carriers = model.fields.filter (·.role = .overrides) := rfl

/-- Fields that carry nothing are criteria. -/
theorem criteria_eq : model.criteria = model.fields.filter (·.role = .criterion) := by
  apply List.filter_congr
  intro field _
  unfold FilterField.isCarrier
  cases field.role <;> rfl

/-- A name is repeated by the first field whose name an earlier one has. -/
theorem repeated?_names_eq_some_iff {fields : List FilterField} {name : String} :
    Names.repeated? (fields.map (·.name)) = some name ↔
      ∃ before field after, fields = before ++ field :: after ∧ (before.map (·.name)).Nodup ∧
        (∃ earlier ∈ before, earlier.name = field.name) ∧ field.name = name := by
  rw [Names.repeated?_eq_some_iff]
  constructor
  · rintro ⟨names, names', split, distinct, again⟩
    obtain ⟨before, rest, rfl, rfl, named⟩ := List.map_eq_append_iff.mp split
    obtain ⟨field, after, rfl, rfl, rfl⟩ := List.map_eq_cons_iff.mp named
    exact ⟨before, field, after, rfl, distinct, List.mem_map.mp again, rfl⟩
  · rintro ⟨before, field, after, rfl, distinct, again, rfl⟩
    exact ⟨before.map (·.name), after.map (·.name), List.map_append, distinct,
      List.mem_map.mpr again⟩

/-- The check of a model ends in one of these ways. -/
theorem checks_layout (model : FilterModel) : model.Checks model.layout := by
  unfold layout
  cases found : Names.repeated? (model.fields.map (·.name)) with
  | some name =>
    obtain ⟨before, field, after, split, distinct, again, rfl⟩ :=
      repeated?_names_eq_some_iff.mp found
    exact .repeated split distinct again
  | none =>
    have distinct := Names.repeated?_eq_none_iff.mp found
    rw [criteria_eq]
    cases carried : model.carriers with
    | nil => exact .accepted none distinct carried nofun
    | cons carrier others =>
      cases others with
      | nil =>
        by_cases shaped : carrier.shape = .operatorMap
        · simp only [if_pos shaped]
          refine .accepted (some carrier) distinct carried ?_
          rintro field ⟨⟩
          exact shaped
        · simp only [if_neg shaped]
          exact .misshapen distinct carried shaped
            (mt Shape.label_eq_label_operatorMap_iff.mp shaped)
      | cons other rest => exact .conflicting distinct carried (by simp)

/-- And in no other. -/
theorem Checks.layout_eq (checks : model.Checks outcome) : model.layout = outcome := by
  cases checks with
  | accepted carrier distinct carried shaped =>
    simp only [layout, Names.repeated?_eq_none_iff.mpr distinct, carriers_eq, carried, criteria_eq]
    cases carrier with
    | none => rfl
    | some field => exact if_pos (shaped field rfl)
  | repeated split distinct again =>
    simp only [layout, repeated?_names_eq_some_iff.mpr ⟨_, _, _, split, distinct, again, rfl⟩]
  | conflicting distinct carried several =>
    rename_i carriers
    simp only [layout, Names.repeated?_eq_none_iff.mpr distinct, carriers_eq, carried]
    match carriers, several with
    | _ :: _ :: _, _ => rfl
  | misshapen distinct carried misfit =>
    simp only [layout, Names.repeated?_eq_none_iff.mpr distinct, carriers_eq, carried]
    exact if_neg misfit

/-- A model is refused for a name exactly when that is the first its fields repeat. -/
theorem layout_eq_duplicateField_iff {filter name : String} :
    model.layout = .error (.duplicateField filter name) ↔
      filter = model.name ∧ Names.repeated? (model.fields.map (·.name)) = some name := by
  constructor
  · intro refused
    have checks := model.checks_layout
    rw [refused] at checks
    cases checks with
    | repeated split distinct again =>
      exact ⟨rfl, repeated?_names_eq_some_iff.mpr ⟨_, _, _, split, distinct, again, rfl⟩⟩
  · rintro ⟨rfl, found⟩
    obtain ⟨before, field, after, split, distinct, again, rfl⟩ :=
      repeated?_names_eq_some_iff.mp found
    exact (Checks.repeated split distinct again).layout_eq

/-- The check of a model is exact. It accepts a model exactly when the names of its fields are
distinct, at most one is a carrier, and a carrier has the shape for operators; and its outcome,
layout or error, is the one that the fields tell. -/
structure CheckedExactly (model : FilterModel) : Prop where
  accepts_iff : (∃ layout, model.layout = .ok layout) ↔
    (model.fields.map (·.name)).Nodup ∧
      (model.fields.filter (·.role = .overrides)).length ≤ 1 ∧
      ∀ field ∈ model.fields, field.role = .overrides → field.shape = .map .text .operator
  layout_eq_iff : ∀ outcome, model.layout = outcome ↔ model.Checks outcome

/-- So is the check of every model. -/
theorem checkedExactly (model : FilterModel) : model.CheckedExactly where
  accepts_iff := by
    simp only [layout_eq_ok_iff, carriers_eq, List.mem_filter, decide_eq_true_eq]
    constructor
    · rintro ⟨-, distinct, few, shaped, -⟩
      refine ⟨distinct, few, ?_⟩
      intro field mem role
      exact shaped field ⟨mem, role⟩
    · rintro ⟨distinct, few, shaped⟩
      refine ⟨_, distinct, few, ?_, rfl⟩
      rintro carrier ⟨mem, role⟩
      exact shaped carrier mem role
  layout_eq_iff outcome := by
    constructor
    · rintro rfl
      exact model.checks_layout
    · exact Checks.layout_eq

end FilterModel

end Criteria
