import Criteria.Proofs.Compilation.Typing
import Criteria.Proofs.Filter.Layout
import Criteria.Proofs.Filter.Overrides
import Criteria.Proofs.Predicate.Comparison

/-!
# Specifications say what their filters say

The predicates of a specification are those of the set fields (`FilterField.isSet_iff`), one for
each and in the order of the model, and then those added to them. What the predicate of a field is
can be told from the field and the values of the filter: `Compiler.Expresses`.
-/

namespace Criteria

namespace Compiler

variable {compiler : Compiler} {cache : LayoutCache} {request : Request}

theorem demand_eq_ok_iff {root : String} {overrides : Overrides} {criterion : Criterion}
    {route : Route} {comparison : Comparison} :
    compiler.demand root overrides criterion = .ok (route, comparison) ↔
      compiler.schema.resolve root (criterion.segments compiler.config.separator) = .ok route ∧
        Comparison.Asked compiler.config.escape route.type (criterion.resolvedOperator overrides)
          criterion.value comparison := by
  simp only [demand, bind_eq_ok_iff, mapError_eq_ok_iff, Comparison.ofField_eq_ok_iff]
  constructor
  · rintro ⟨route, resolved, comparison, asked, eq⟩
    cases eq
    exact ⟨resolved, asked⟩
  · rintro ⟨resolved, asked⟩
    exact ⟨route, resolved, comparison, asked, rfl⟩

/-- A predicate expresses a set field of the filter: it compares the column that the field's
path ends with, the explicit path or else the pieces of the name, and it makes the comparison that
the field's operator asks for of its value. The operator is the one that the carrier has for the
field, or else the declared one, or else equality. -/
def Expresses (compiler : Compiler) (request : Request) (layout : FilterLayout) (field : FilterField)
    (predicate : Predicate) : Prop :=
  let path :=
    if field.path = [] then Text.split compiler.config.separator field.name else field.path
  let operator :=
    ((layout.carried? request.values field.name).or field.operator).getD .equal
  ∃ route column comparison,
    compiler.schema.resolve request.entity path = .ok route ∧
      path.getLast? = some column.name ∧
      Comparison.Asked compiler.config.escape route.type operator (request.values field.name)
        comparison ∧
      predicate = .compare column comparison

namespace Parts

variable (parts : compiler.Parts cache request)

theorem expresses_of_demand {field : FilterField} (isSet : field.isSet request.values)
    {demand : Route × Comparison}
    (asked : compiler.demand request.entity parts.overrides
      (.ofField request.values field) = .ok demand)
    {column : Column} (name : column.name = demand.1.column) :
    compiler.Expresses request parts.layout field (.compare column demand.2) := by
  obtain ⟨route, comparison⟩ := demand
  obtain ⟨resolved, asked⟩ := demand_eq_ok_iff.mp asked
  rw [Criterion.value_ofField_of_isSet isSet, Criterion.resolvedOperator,
    FilterLayout.get?_of_overrides parts.overrides_eq] at asked
  refine ⟨route, column, comparison, resolved, ?_, asked, rfl⟩
  obtain ⟨spelled, -⟩ := Schema.resolve_eq_ok_iff.mp resolved
  change (Criterion.segments (.ofField request.values field) _).getLast? = _
  rw [← spelled, Route.path, List.getLast?_concat, name]

/-- The predicates of the filter are those of the set fields. -/
theorem forall₂_expresses : List.Forall₂ (compiler.Expresses request parts.layout)
    (parts.layout.criteria.filter (·.isSet request.values))
    ((request.specification parts.demands parts.ways).filterPredicates request) := by
  -- each set field has its demand, and each demand its column
  have demanded := parts.forall₂_demands
  rw [FilterLayout.setCriteria_eq, List.forall₂_map_left_iff] at demanded
  have carried := (JoinPlan.traced_empty.hangAll (parts.demands.map (·.1))).2.2
  rw [List.forall₂_map_left_iff] at carried
  have own : List.Forall₂ Eq parts.demands parts.demands := List.forall₂_same.mpr fun _ _ => rfl
  have built := forall₂_zipWith (f := fun column demand => Predicate.compare column demand.2)
    own carried
  rw [filterPredicates_specification, List.zipWith_map_right]
  have isSet : ∀ field ∈ parts.layout.criteria.filter (·.isSet request.values),
      field.isSet request.values := fun _ mem => (List.mem_filter.mp mem).2
  refine ((List.forall₂_and_left _ _).mpr ⟨isSet, forall₂_comp demanded built⟩).imp ?_
  rintro field _ ⟨isSet, demand, asked, _, column, rfl, carries, rfl⟩
  exact parts.expresses_of_demand isSet asked carries.name_eq

end Parts

/-- The predicates of a specification are those of the set fields of its filter, in order, and then
those that the request adds. The fields are the criteria of the layout that the compilation goes by,
and so those of the model that the filter type declares, unless the layout of another is remembered
for the type. -/
theorem conjunction_of_compile {spec : Specification}
    (h : (compiler.compile cache request).2.outcome = .ok spec) :
    ∃ layout, compiler.layout cache request.type = .ok layout ∧
      (cache.Agrees request.type → request.type.model.layout = .ok layout ∧
        layout.criteria = request.type.model.fields.filter (!·.isCarrier) ∧
        layout.carrier = (request.type.model.fields.find? (·.isCarrier)).map (·.name)) ∧
      ∃ predicates, spec.predicates = predicates ++ request.extra ∧
        List.Forall₂ (compiler.Expresses request layout)
          (layout.criteria.filter (·.isSet request.values)) predicates := by
  obtain ⟨parts, rfl⟩ := compile_eq_ok_iff.mp h
  refine ⟨parts.layout, parts.layout_eq, ?_, _, ?_, parts.forall₂_expresses⟩
  · intro agrees
    have found := parts.layout_eq
    rw [layout_of_agrees agrees] at found
    obtain ⟨-, -, -, eq⟩ := FilterModel.layout_eq_ok_iff.mp found
    refine ⟨found, by rw [eq]; rfl, ?_⟩
    rw [eq, FilterModel.carriers, List.head?_filter]
  · rw [parts.filterPredicates_specification]
    rfl

end Compiler

namespace Staff

/-- A search of persons whose last criterion is an equality but for what its carrier says. -/
def casting : Request where
  type := ⟨⟨1⟩, "Casting", "Casting",
    [.carrier "operators",
      { FilterField.criterion "boss_level" .int with operator := some .lessThan },
      { FilterField.criterion "nowhere" .text with ignored := true },
      FilterField.criterion "unset" .text,
      (FilterField.criterion "team" .text).withPath "department.name"]⟩
  values
    | "operators" => .map [(.text "team", .tagged ⟨"EQUAL", none⟩),
        (.text "team", .tagged ⟨"LIKE", some "Operator"⟩)]
    | "boss_level" => .uint 3
    | "team" => .text "R&D_"
    | _ => .null
  entity := "Person"
  extra := [.isNull (.root "name")]
  sort := []

theorem conjunction_casting : ∃ spec layout predicates,
    (compiler.compile ∅ casting).2.outcome = .ok spec ∧
      casting.type.model.layout = .ok layout ∧
      spec.predicates = predicates ++ [.isNull (.root "name")] ∧
      predicates.map (·.text) =
        ["boss.level < 3", "department.name LIKE '%R&D\\_%' ESCAPE '\\'"] ∧
      List.Forall₂ (compiler.Expresses casting layout)
        (layout.criteria.filter (·.isSet casting.values)) predicates := by
  have compiled : (compiler.compile ∅ casting).2.outcome = .ok _ := rfl
  obtain ⟨layout, -, agrees, predicates, all, expressed⟩ :=
    Compiler.conjunction_of_compile compiled
  obtain ⟨declared, -⟩ := agrees nofun
  refine ⟨_, layout, predicates, compiled, declared, all, ?_, expressed⟩
  have texts : (predicates ++ casting.extra).map (·.text) = ["boss.level < 3",
      "department.name LIKE '%R&D\\_%' ESCAPE '\\'", "name IS NULL"] := by
    rw [← all]
    rfl
  rw [List.map_append] at texts
  have last : casting.extra.map (·.text) = ["name IS NULL"] := rfl
  exact (List.append_left_inj ["name IS NULL"]).mp (last ▸ texts)

end Staff

end Criteria
