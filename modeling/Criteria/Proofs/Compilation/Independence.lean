import Criteria.Proofs.Compilation.Conjunction

/-!
# What a compilation does not look at

Of a filter value a compilation reads the criteria that are not ignored, and of the operators that
the carrier holds those of set criteria. Filter values that are alike in this give the same
compilation, its events and its errors included: ignored criteria, values without a field and
operators without a set criterion leave no mark on it.
-/

namespace Criteria

/-- Filter values are alike for a layout: they have the same values for all criteria but the ignored
ones, and both carry operators, the same ones for each criterion that is set. -/
structure FilterLayout.Alike (layout : FilterLayout) (values values' : FilterValue) : Prop where
  criteria : ∀ field ∈ layout.criteria, field.ignored = false →
    values' field.name = values field.name
  overrides : ∃ overrides overrides',
    layout.overrides values = .ok overrides ∧ layout.overrides values' = .ok overrides' ∧
      ∀ field ∈ layout.criteria, field.isSet values →
        overrides'.get? field.name = overrides.get? field.name

/-- Filter values that are alike have the same criteria. -/
theorem FilterLayout.Alike.read_eq {layout : FilterLayout} {values values' : FilterValue}
    (alike : layout.Alike values values') : layout.read values' = layout.read values := by
  apply List.map_congr_left
  intro field mem
  rw [Criterion.ofField, Criterion.ofField]
  cases ignored : field.ignored with
  | true => rfl
  | false => rw [alike.criteria field mem ignored]

namespace Compiler

variable {compiler : Compiler} {root : String} {overrides overrides' : Overrides} {plan : JoinPlan}

/-- The predicate of a criterion is made with the operator for its own name. -/
theorem predicate_congr {criterion : Criterion}
    (same : overrides'.get? criterion.name = overrides.get? criterion.name) :
    compiler.predicate root overrides' plan criterion =
      compiler.predicate root overrides plan criterion := by
  have operator : criterion.resolvedOperator overrides' = criterion.resolvedOperator overrides := by
    rw [Criterion.resolvedOperator, same, Criterion.resolvedOperator]
  rw [predicate, operator, predicate]

/-- The predicates of criteria are made with the operators for the set ones. -/
theorem predicates_congr {criteria : List Criterion}
    (same : ∀ criterion ∈ criteria, criterion.isSet →
      overrides'.get? criterion.name = overrides.get? criterion.name) :
    compiler.predicates root overrides' plan criteria =
      compiler.predicates root overrides plan criteria := by
  induction criteria generalizing plan with
  | nil => rfl
  | cons criterion rest ih =>
    obtain ⟨first, others⟩ := List.forall_mem_cons.mp same
    rw [predicates, predicates]
    cases skip : skip? criterion with
    | some reason => simp only [ih others]
    | none => simp only [predicate_congr (first (skip?_eq_none_iff.mp skip)), ih others]

/-- Filter values that are alike are put together alike. -/
theorem assemble_congr {request : Request} {layout : FilterLayout} {values' : FilterValue}
    (alike : layout.Alike request.values values') :
    compiler.assemble { request with values := values' } layout =
      compiler.assemble request layout := by
  obtain ⟨overrides, overrides', carried, carried', same⟩ := alike.overrides
  have read_same : ∀ criterion ∈ layout.read request.values, criterion.isSet →
      overrides'.get? criterion.name = overrides.get? criterion.name := by
    intro criterion mem isSet
    obtain ⟨field, declared, rfl⟩ := List.mem_map.mp mem
    rw [Criterion.isSet_ofField] at isSet
    exact same field declared isSet
  simp only [assemble, carried, carried', alike.read_eq, Logged.lift_ok_bind,
    predicates_congr read_same]

/-- Requests with filter values that are alike are compiled to the same end, with the same events on
the way, and leave the same layouts remembered. -/
theorem compile_eq_of_alike {cache : LayoutCache} {request : Request} {layout : FilterLayout}
    {values' : FilterValue} (found : compiler.layout cache request.type = .ok layout)
    (alike : layout.Alike request.values values') :
    compiler.compile cache { request with values := values' } =
      compiler.compile cache request := by
  have assembled : compiler.assembleFound { request with values := values' }
      (cache.lookup compiler.config.rememberLayouts request.type).2 =
      compiler.assembleFound request
        (cache.lookup compiler.config.rememberLayouts request.type).2 := by
    unfold Compiler.layout at found
    cases looked : (cache.lookup compiler.config.rememberLayouts request.type).2 with
    | error error => rfl
    | ok lookup =>
      rw [looked] at found
      obtain rfl : lookup.layout = layout := Except.ok.inj found
      simp only [assembleFound, Logged.lift_ok_bind, assemble_congr alike]
  simp only [compile, assembled]
  rfl

end Compiler

namespace Staff

/-- The values of the casting with a value for the ignored criterion, one for no field at all, and
operators for criteria that are not set. -/
def recasting : FilterValue
  | "operators" => .map [(.text "unset", .tagged ⟨"IN", none⟩),
      (.text "team", .tagged ⟨"LIKE", none⟩), (.text "nowhere", .tagged ⟨"LESS_THAN", none⟩)]
  | "nowhere" => .bool true
  | "ghost" => .int 1
  | name => casting.values name

theorem compile_eq_recasting : ∃ spec,
    (compiler.compile ∅ casting).2.outcome = .ok spec ∧
      recasting "nowhere" ≠ casting.values "nowhere" ∧
      compiler.compile ∅ { casting with values := recasting } = compiler.compile ∅ casting := by
  have found : compiler.layout ∅ casting.type =
      .ok ⟨"Casting", casting.type.model.criteria, some "operators"⟩ := rfl
  refine ⟨_, rfl, nofun, Compiler.compile_eq_of_alike found ?_⟩
  refine ⟨?_, _, _, rfl, rfl, ?_⟩
  · rintro field (_ | ⟨_, _ | ⟨_, _ | ⟨_, _ | ⟨_, ⟨⟩⟩⟩⟩⟩) notIgnored
    · rfl
    · cases notIgnored
    · rfl
    · rfl
  · decide

end Staff

end Criteria
